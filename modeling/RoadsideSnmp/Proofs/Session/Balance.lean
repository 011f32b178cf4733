import RoadsideSnmp.Proofs.Session.Order

/-! The counters add up. Every message sent is a first attempt or a further one, and ends in one of
three ways; every message taken from the line is a reply, stale, or of no use. What is still under
way makes up the difference, so when nothing is the counters balance. -/
namespace RoadsideSnmp

def Delivery.isMessage : Delivery → Bool
  | .message _ => true
  | .silence | .fault => false

def Delivery.isDamaged : Delivery → Bool
  | .message octets =>
      match Pmpp.unframe octets false with
      | .ok unframed => unframed.isDamaged
      | .error _ => false
  | .silence | .fault => false

namespace Exchange

def isFresh (exchange : Exchange) : Bool :=
  match exchange.stage with
  | .sending => exchange.attempt = 0
  | _ => false

end Exchange

def Session.damages (session : Session) : Delivery → Bool
  | .message octets => (session.unpack octets).2
  | .silence | .fault => false

/-- What is sent, how attempts end, and what is taken from the line, against the counters. -/
structure Balanced (start : Session) (exchanges : List Exchange) (session : Session)
    (log : List Taking) : Prop where
  config : session.config = start.config
  agent : session.line.agent = start.line.agent
  sent : session.line.sent.length + exchanges.countP (·.isFresh) =
    start.line.sent.length + session.counters.requests + session.counters.retries
  ended : session.line.sent.length = start.line.sent.length + session.counters.responses +
    session.counters.timeouts + session.counters.undecodable +
      exchanges.countP (·.stage.isInside) + log.countP (·.delivery = .fault)
  taken : log.countP (·.delivery.isMessage) = session.counters.responses +
    session.counters.stale + session.counters.undecodable + session.mail.length
  damaged : session.counters.damaged = log.countP (start.damages ·.delivery)

theorem Session.NoMail.filter_eq {session : Session} {ticket : Ticket}
    (empty : session.NoMail ticket) :
    (session.mail.filter fun letter => !decide (letter.1 = ticket)) = session.mail :=
  List.filter_eq_self.mpr fun letter sent => by simpa using empty letter sent

theorem length_filter_of_mem {letters : List (Ticket × Message)} {ticket : Ticket}
    {message : Message} (tickets : (letters.map Prod.fst).Nodup)
    (inside : (ticket, message) ∈ letters) :
    (letters.filter fun letter => !decide (letter.1 = ticket)).length + 1 = letters.length := by
  induction letters with
  | nil => simp at inside
  | cons letter letters ih =>
      obtain ⟨fresh, tickets⟩ := List.nodup_cons.mp tickets
      obtain rfl | inside := List.mem_cons.mp inside
      · have others : (letters.filter fun letter => !decide (letter.1 = ticket)) = letters := by
          refine List.filter_eq_self.mpr fun other among => ?_
          have apart : other.1 ≠ ticket := fun same =>
            fresh (List.mem_map.mpr ⟨other, among, same⟩)
          simpa using apart
        rw [List.filter_cons_of_neg (by simp), others, List.length_cons]
      · have apart : letter.1 ≠ ticket := by
          intro same
          exact fresh (same ▸ List.mem_map_of_mem inside)
        rw [List.filter_cons_of_pos (by simpa using apart), List.length_cons, List.length_cons,
          ih tickets inside]

namespace Exchange

/-- How a step changes each of the sums. -/
structure Ledger (exchange : Exchange) (session : Session) (next : Exchange) (after : Session) :
    Prop where
  sent : after.line.sent.length + next.isFresh.toNat + session.counters.requests +
      session.counters.retries =
    session.line.sent.length + exchange.isFresh.toNat + after.counters.requests +
      after.counters.retries
  ended : after.line.sent.length + session.counters.responses + session.counters.timeouts +
      session.counters.undecodable + exchange.stage.isInside.toNat =
    session.line.sent.length + after.counters.responses + after.counters.timeouts +
      after.counters.undecodable + next.stage.isInside.toNat +
        (exchange.taking? session).toList.countP (·.delivery = .fault)
  taken : (exchange.taking? session).toList.countP (·.delivery.isMessage) +
      session.counters.responses + session.counters.stale + session.counters.undecodable +
        session.mail.length =
    after.counters.responses + after.counters.stale + after.counters.undecodable +
      after.mail.length
  damaged : after.counters.damaged = session.counters.damaged +
    (exchange.taking? session).toList.countP (session.damages ·.delivery)

variable {others : List Exchange} {exchange next : Exchange} {session after : Session}

theorem isFresh_failed (exchange : Exchange) (failure : Failure) (retries : Nat) :
    (exchange.failed failure retries).isFresh = false := by
  unfold failed
  split <;> simp [isFresh, finish]

theorem Move.ledger (move : exchange.Move session next after)
    (underway : Underway others exchange session)
    (accepted : (session.line.send exchange.packet).1 = false) :
    Ledger exchange session next after := by
  cases move with
  | sent stage =>
      have empty := (underway.looked (by simp [stage])).filter_eq
      have none : exchange.taking? session = none := taking?_of_ne_reading (by simp [stage])
      constructor
      · by_cases first : exchange.attempt = 0
        · simp [dispatched, Session.register, isFresh, stage, first]
        · have more : 0 < exchange.attempt := Nat.pos_of_ne_zero first
          simp [dispatched, Session.register, isFresh, stage, first, more]
          omega
      · simp [dispatched, Session.register, Stage.isInside, stage, none]
        omega
      · simp [dispatched, Session.register, none, empty]
      · simp [dispatched, Session.register, none]
  | refused stage refused => simp [accepted] at refused
  | collected stage found =>
      -- the letter counted among the mail, and it is an answer now
      have one := length_filter_of_mem underway.orderly.letters found
      have none : exchange.taking? session = none := taking?_of_ne_reading (by simp [stage])
      constructor
      · simp [vacated, Session.count, finish, isFresh, stage]
      · simp [vacated, Session.count, finish, Stage.isInside, stage, none]
        omega
      · simp only [vacated, Session.count, none]
        simp
        omega
      · simp [vacated, Session.count, none]
  | cleared stage =>
      have none : exchange.taking? session = none := taking?_of_ne_reading (by simp [stage])
      constructor <;> simp [isFresh, Stage.isInside, stage, none]
  | @asked turns stage =>
      have none : exchange.taking? session = none := taking?_of_ne_reading (by simp [stage])
      by_cases first : turns.head? = some exchange.ticket
      · constructor <;> simp [isFresh, Stage.isInside, stage, none, first]
      · constructor <;> simp [isFresh, Stage.isInside, stage, none, first]
  | listened stage inbox =>
      constructor <;> simp [isFresh, Stage.isInside, stage, taking?_of_empty inbox]
  | silenced stage inbox =>
      have taken := taking?_of_reading stage inbox
      constructor <;> simp [isFresh, Stage.isInside, stage, taken, Delivery.isMessage,
        Session.damages, Line.take]
  | broken stage inbox =>
      have empty := (underway.looked (by simp [stage])).filter_eq
      have taken := taking?_of_reading stage inbox
      constructor <;> simp [vacated, finish, isFresh, Stage.isInside, stage, taken,
        Delivery.isMessage, Session.damages, Line.take, empty]
  | @garbled octets rest error damaged listener woken stage inbox unpacked =>
      have empty := (underway.looked (by simp [stage])).filter_eq
      have taken := taking?_of_reading stage inbox
      have fresh : exchange.isFresh = false := by simp [isFresh, stage]
      have inside : exchange.stage.isInside = true := by simp [Stage.isInside, stage]
      have ends := exchange.ends_failed (.decode error) session.config.retries
      constructor
      · simp [vacated, Session.count, Session.taken, Line.take, isFresh_failed, fresh]
      · simp [vacated, Session.count, Session.taken, Line.take, ends.outside, inside, taken]
        omega
      · simp [vacated, Session.count, Session.taken, taken, Delivery.isMessage, empty]
        omega
      · cases damaged <;>
          simp [vacated, Session.count, Session.taken, taken, Session.damages, unpacked]
  | @answered octets rest reply damaged listener woken stage inbox unpacked kind own =>
      have empty := (underway.looked (by simp [stage])).filter_eq
      have taken := taking?_of_reading stage inbox
      constructor
      · simp [vacated, Session.count, Session.taken, Line.take, finish, isFresh, stage]
      · simp [vacated, Session.count, Session.taken, Line.take, finish, Stage.isInside, stage,
          taken]
        omega
      · simp [vacated, Session.count, Session.taken, taken, Delivery.isMessage, empty]
        omega
      · cases damaged <;>
          simp [vacated, Session.count, Session.taken, taken, Session.damages, unpacked]
  | @routed octets rest reply damaged owner woken stage inbox unpacked kind foreign listed =>
      have taken := taking?_of_reading stage inbox
      constructor
      · simp [Session.taken, Line.take, isFresh, stage]
      · simp [Session.taken, Line.take, Stage.isInside, stage, taken]
      · simp [Session.taken, taken, Delivery.isMessage]
        omega
      · cases damaged <;> simp [Session.taken, taken, Session.damages, unpacked]
  | @dropped octets rest message damaged woken stage inbox unpacked unwanted =>
      have taken := taking?_of_reading stage inbox
      constructor
      · simp [Session.count, Session.taken, Line.take, isFresh, stage]
      · simp [Session.count, Session.taken, Line.take, Stage.isInside, stage, taken]
      · simp [Session.count, Session.taken, taken, Delivery.isMessage]
        omega
      · cases damaged <;> simp [Session.count, Session.taken, taken, Session.damages, unpacked]
  | expired overdue =>
      have empty := (underway.noMail_of_overdue overdue).filter_eq
      have none := taking?_of_overdue overdue
      have inside : exchange.stage.isInside = true := by
        unfold Overdue at overdue
        cases stage : exchange.stage <;> simp_all [Stage.isInside]
      have fresh : exchange.isFresh = false := by
        unfold isFresh
        cases stage : exchange.stage <;> simp_all [Stage.isInside]
      have ends := exchange.ends_failed (exchange.timeout session.now) session.config.retries
      constructor
      · simp [vacated, Session.count, isFresh_failed, fresh]
      · simp [vacated, Session.count, ends.outside, inside, none]
        omega
      · simp [vacated, Session.count, none, empty]
      · simp [vacated, Session.count, none]

end Exchange

theorem Session.damages_eq_of_config {first second : Session}
    (config : first.config = second.config) : first.damages = second.damages := by
  funext delivery
  cases delivery <;> simp [damages, unpack_eq_of_config config]

theorem Session.damages_of_framed {session : Session} {station : Pmpp.Station}
    (framed : session.config.station = some station) : session.damages = Delivery.isDamaged := by
  funext delivery
  cases delivery with
  | message octets =>
      rw [damages, unpack, framed, Delivery.isDamaged]
      cases Pmpp.unframe octets false <;> rfl
  | silence => rfl
  | fault => rfl

theorem Session.damages_of_bare {session : Session} (bare : session.config.station = none)
    (delivery : Delivery) : session.damages delivery = false := by
  cases delivery <;> simp [damages, unpack, bare]

def Session.Accepts (session : Session) : Prop :=
  ∀ sent, (session.line.agent sent).refused = false

namespace Balanced

variable {start : Session} {exchanges others : List Exchange} {exchange next : Exchange}
  {session after : Session} {log : List Taking}

theorem perm {listed : List Exchange} (balanced : Balanced start exchanges session log)
    (perm : exchanges.Perm listed) : Balanced start listed session log where
  config := balanced.config
  agent := balanced.agent
  sent := by
    rw [← perm.countP_eq]
    exact balanced.sent
  ended := by
    rw [← perm.countP_eq]
    exact balanced.ended
  taken := balanced.taken
  damaged := balanced.damaged

theorem countP_cons_eq (test : Exchange → Bool) (exchange : Exchange) (others : List Exchange) :
    (exchange :: others).countP test = others.countP test + (test exchange).toNat := by
  rw [List.countP_cons]
  cases test exchange <;> rfl

theorem move (balanced : Balanced start (exchange :: others) session log)
    (accepts : start.Accepts) (underway : Underway others exchange session)
    (move : exchange.Move session next after) :
    Balanced start (next :: others) after (log ++ (exchange.taking? session).toList) := by
  have accepted : (session.line.send exchange.packet).1 = false := by
    rw [Line.send, balanced.agent]
    exact accepts _
  have ledger := move.ledger underway accepted
  have sent := balanced.sent
  have ended := balanced.ended
  have taken := balanced.taken
  rw [countP_cons_eq] at sent ended
  constructor
  · exact move.config.trans balanced.config
  · exact move.agent.trans balanced.agent
  · have change := ledger.sent
    rw [countP_cons_eq]
    omega
  · have change := ledger.ended
    rw [countP_cons_eq, List.countP_append]
    omega
  · have change := ledger.taken
    rw [List.countP_append]
    omega
  · rw [ledger.damaged, balanced.damaged, List.countP_append,
      Session.damages_eq_of_config balanced.config]

theorem resume (balanced : Balanced start (exchange :: others) session log) :
    Balanced start ((exchange.resume session).1 :: others) (exchange.resume session).2 log := by
  obtain ⟨stage, listener, resumed, change⟩ := exchange.resume_eq session
  have fresh : ({ exchange with stage } : Exchange).isFresh = exchange.isFresh := by
    obtain rfl | ⟨waiting, rfl⟩ | ⟨listening, rfl⟩ := change <;> simp_all [Exchange.isFresh]
  have inside := exchange.isInside_resume session
  rw [resumed] at inside ⊢
  have sent := balanced.sent
  have ended := balanced.ended
  rw [countP_cons_eq] at sent ended
  constructor
  · exact balanced.config
  · exact balanced.agent
  · rw [countP_cons_eq, fresh]
    exact sent
  · rw [countP_cons_eq, inside]
    exact ended
  · exact balanced.taken
  · exact balanced.damaged

theorem poll (balanced : Balanced start (exchange :: others) session log)
    (accepts : start.Accepts) (settled : Settled (exchange :: others) session) :
    Balanced start ((exchange.poll session).1 :: others) (exchange.poll session).2
      (log ++ exchange.polled session) := by
  have whole := Exchange.advance_keeps
    (fun exchange session log => Underway others exchange session ∧
      Balanced start (exchange :: others) session log)
    (fun ⟨underway, balanced⟩ move =>
      ⟨underway.move move, balanced.move accepts underway move⟩)
    log ⟨settled.resume, balanced.resume⟩
  exact whole.2

theorem begin (balanced : Balanced start others session log)
    (begins : session.Begins exchange after) : Balanced start (exchange :: others) after log := by
  have fresh : exchange.isFresh = true := by
    simp [Exchange.isFresh, begins.stage, begins.attempt]
  have outside : exchange.stage.isInside = false := by simp [begins.stage, Stage.isInside]
  have sent := balanced.sent
  have ended := balanced.ended
  have taken := balanced.taken
  rw [begins.after]
  constructor
  · exact balanced.config
  · exact balanced.agent
  · rw [countP_cons_eq, fresh]
    dsimp only [Bool.toNat_true]
    omega
  · rw [countP_cons_eq, outside]
    exact ended
  · exact balanced.taken
  · exact balanced.damaged

end Balanced

namespace Traffic

variable {start : Session} {traffic after : Traffic}

theorem Step.balanced (step : traffic.Step after) (accepts : start.Accepts)
    (settled : Settled traffic.exchanges traffic.session)
    (balanced : traffic.dropped = [] →
      Balanced start traffic.exchanges traffic.session traffic.log)
    (kept : after.dropped = []) : Balanced start after.exchanges after.session after.log := by
  cases step with
  | begin begun => exact (balanced kept).begin (Session.begins begun)
  | poll listed =>
      have before := balanced kept
      rw [listed] at settled before
      have first := (before.perm List.perm_middle).poll accepts (settled.perm List.perm_middle)
      exact first.perm List.perm_middle.symm
  -- a message sent for a request that is given up ends in none of the ways that are counted
  | drop => exact absurd kept (List.cons_ne_nil _ _)
  | arrive =>
      have before := balanced kept
      exact ⟨before.config, before.agent, before.sent, before.ended, before.taken, before.damaged⟩
  | pass =>
      have before := balanced kept
      exact ⟨before.config, before.agent, before.sent, before.ended, before.taken, before.damaged⟩
  | rouse =>
      have before := balanced kept
      exact ⟨before.config, before.agent, before.sent, before.ended, before.taken, before.damaged⟩

theorem Reached.balanced (reached : Reached start traffic) (idle : start.Idle)
    (zero : start.counters = .zero) (accepts : start.Accepts) (kept : traffic.dropped = []) :
    Balanced start traffic.exchanges traffic.session traffic.log := by
  -- earlier traffic has dropped nothing either, but only the step that follows says so
  have whole : traffic.dropped = [] →
      Balanced start traffic.exchanges traffic.session traffic.log := by
    clear kept
    induction reached with
    | refl =>
        intro _
        constructor <;> simp [opening, zero, Counters.zero, idle.mail]
    | tail earlier step ih => exact step.balanced accepts (Reached.settled earlier idle) ih
  exact whole kept

/-- The counters of a session, against what was sent since `start` and what was taken. -/
structure Balances (start : Session) (traffic : Traffic) : Prop where
  attempts : traffic.session.line.sent.length = start.line.sent.length +
    (traffic.session.counters.requests + traffic.session.counters.retries)
  endings : traffic.session.line.sent.length = start.line.sent.length +
    (traffic.session.counters.responses + traffic.session.counters.timeouts +
      traffic.session.counters.undecodable)
  messages : traffic.log.countP (·.delivery.isMessage) = traffic.session.counters.responses +
    traffic.session.counters.stale + traffic.session.counters.undecodable
  frames : traffic.session.counters.damaged =
    match start.config.station with
    | some _ => traffic.log.countP (·.delivery.isDamaged)
    | none => 0

theorem balances_of_over
    (balanced : Balanced start traffic.exchanges traffic.session traffic.log)
    (settled : Settled traffic.exchanges traffic.session)
    (received : ∀ taking ∈ traffic.log, taking.delivery ≠ .fault)
    (closed : ∀ exchange ∈ traffic.exchanges, exchange.result? ≠ none) : traffic.Balances start := by
  have finished : ∀ exchange ∈ traffic.exchanges,
      exchange.isFresh = false ∧ exchange.stage.isInside = false ∧
        exchange.stage.mindsMail = false := by
    intro exchange inside
    have result := closed exchange inside
    cases stage : exchange.stage <;>
      simp_all [Exchange.result?, Exchange.isFresh, Stage.isInside, Stage.mindsMail]
  have fresh : traffic.exchanges.countP (·.isFresh) = 0 :=
    List.countP_eq_zero.mpr fun exchange inside => by simp [(finished exchange inside).1]
  have inside : traffic.exchanges.countP (·.stage.isInside) = 0 :=
    List.countP_eq_zero.mpr fun exchange inside => by simp [(finished exchange inside).2.1]
  have faults : traffic.log.countP (·.delivery = .fault) = 0 :=
    List.countP_eq_zero.mpr fun taking taken => by simpa using received taking taken
  have mail : traffic.session.mail = [] := by
    refine List.eq_nil_iff_forall_not_mem.mpr fun letter sent => ?_
    obtain ⟨owner, among, -, minds, -⟩ := settled.orderly.mail letter sent
    simp [(finished owner among).2.2] at minds
  have sent := balanced.sent
  have ended := balanced.ended
  have taken := balanced.taken
  rw [fresh] at sent
  rw [inside, faults] at ended
  rw [mail, List.length_nil] at taken
  constructor
  · omega
  · omega
  · omega
  · rw [balanced.damaged]
    cases station : start.config.station with
    | none => exact List.countP_eq_zero.mpr fun taking _ => by simp [Session.damages_of_bare station]
    | some station => rw [Session.damages_of_framed station]

end Traffic
end RoadsideSnmp
