import RoadsideSnmp.Proofs.Session.Interplay

/-! The order that requests keep among themselves when their polls overlap. A listed number and a
reply in a mailbox belong to one request inside an attempt, as ever, and one request at a time
reads the line; but a request may have looked into its mailbox before the reply came. -/
namespace RoadsideSnmp

namespace Exchange

def asWaiting (exchange : Exchange) : Exchange :=
  if exchange.stage.isInside then { exchange with stage := .waiting } else exchange

@[simp] theorem ticket_asWaiting (exchange : Exchange) :
    exchange.asWaiting.ticket = exchange.ticket := by
  unfold asWaiting; split <;> rfl

@[simp] theorem requestId_asWaiting (exchange : Exchange) :
    exchange.asWaiting.requestId = exchange.requestId := by
  unfold asWaiting; split <;> rfl

@[simp] theorem isInside_asWaiting (exchange : Exchange) :
    exchange.asWaiting.stage.isInside = exchange.stage.isInside := by
  unfold asWaiting
  split
  · next inside =>
      rw [inside]
      rfl
  · rfl

theorem asWaiting_of_isInside {exchange : Exchange} (inside : exchange.stage.isInside) :
    exchange.asWaiting = { exchange with stage := .waiting } :=
  if_pos inside

theorem asWaiting_of_outside {exchange : Exchange} (outside : exchange.stage.isInside = false) :
    exchange.asWaiting = exchange :=
  if_neg (by simp [outside])

theorem asWaiting_restage {exchange : Exchange} {stage : Stage} (before : exchange.stage.isInside)
    (inside : stage.isInside) : asWaiting { exchange with stage } = exchange.asWaiting := by
  rw [asWaiting_of_isInside before]
  exact if_pos inside

theorem isRest_asWaiting (exchange : Exchange) : exchange.asWaiting.stage.isRest := by
  unfold asWaiting
  split
  · rfl
  · next outside => cases stage : exchange.stage <;> simp_all [Stage.isInside, Stage.isRest]

theorem not_hasTurn_asWaiting (exchange : Exchange) : ¬exchange.asWaiting.stage.hasTurn := by
  unfold asWaiting
  split
  · simp [Stage.hasTurn]
  · next outside => exact mt Stage.isInside_of_hasTurn outside

theorem vacated_asWaiting (exchange : Exchange) :
    exchange.asWaiting.vacated = exchange.vacated := by
  funext session listener woken
  simp [vacated]

theorem Ends.asWaiting {exchange next : Exchange} (ends : exchange.Ends next) :
    exchange.asWaiting.Ends next.asWaiting where
  ticket := by rw [ticket_asWaiting, ticket_asWaiting, ends.ticket]
  requestId := by rw [requestId_asWaiting, requestId_asWaiting, ends.requestId]
  outside := by rw [isInside_asWaiting, ends.outside]

end Exchange

/-- What holds of the requests on a session while several are in the midst of a poll: the books are
in order as far as it does not matter at which place in an attempt a request is, and only the first
in the queue reads the line. Whoever has a reply may have looked before it came. -/
structure Overlapping (exchanges : List Exchange) (session : Session) : Prop where
  orderly : Orderly (exchanges.map Exchange.asWaiting) session
  turn : ∀ exchange ∈ exchanges, exchange.stage.hasTurn →
    session.turns.head? = some exchange.ticket

namespace Overlapping

variable {exchanges others : List Exchange} {exchange next other : Exchange}
  {session after : Session}

theorem idle (idle : session.Idle) : Overlapping [] session :=
  ⟨.idle idle, by simp⟩

theorem perm {listed : List Exchange} (overlapping : Overlapping exchanges session)
    (perm : exchanges.Perm listed) : Overlapping listed session where
  orderly := overlapping.orderly.perm (perm.map _)
  turn exchange inside := overlapping.turn exchange (perm.mem_iff.mpr inside)

theorem congr (overlapping : Overlapping exchanges session) (same : session.SameBooks after) :
    Overlapping exchanges after where
  orderly := overlapping.orderly.congr same
  turn := by
    rw [same.turns]
    exact overlapping.turn

theorem eq_of_ticket (overlapping : Overlapping exchanges session) (first : exchange ∈ exchanges)
    (second : other ∈ exchanges) (same : exchange.ticket = other.ticket) : exchange = other := by
  have apart := overlapping.orderly.tickets
  rw [List.map_map] at apart
  have tickets : Exchange.ticket ∘ Exchange.asWaiting = Exchange.ticket :=
    funext Exchange.ticket_asWaiting
  rw [tickets] at apart
  exact List.inj_on_of_nodup_map apart first second same

theorem issued (overlapping : Overlapping exchanges session) (inside : exchange ∈ exchanges) :
    exchange.ticket < session.nextTicket := by
  have issued := overlapping.orderly.issued _ (List.mem_map_of_mem inside)
  rwa [Exchange.ticket_asWaiting] at issued

theorem ticket_ne (overlapping : Overlapping (exchange :: others) session)
    (inside : other ∈ others) : other.ticket ≠ exchange.ticket := by
  have apart := overlapping.orderly.ticket_ne (List.mem_map_of_mem inside)
  rwa [Exchange.ticket_asWaiting, Exchange.ticket_asWaiting] at apart

theorem own_turn (overlapping : Overlapping (exchange :: others) session) :
    exchange.stage.hasTurn → session.turns.head? = some exchange.ticket :=
  overlapping.turn exchange List.mem_cons_self

theorem others_turn (overlapping : Overlapping (exchange :: others) session) :
    ∀ other ∈ others, other.stage.hasTurn → session.turns.head? = some other.ticket :=
  fun other inside => overlapping.turn other (List.mem_cons_of_mem _ inside)

theorem turn_unique (overlapping : Overlapping (exchange :: others) session)
    (turn : exchange.stage.hasTurn) (inside : other ∈ others) : ¬other.stage.hasTurn := by
  intro another
  have first := overlapping.own_turn turn
  have second := overlapping.others_turn other inside another
  exact overlapping.ticket_ne inside (Option.some.inj (second.symm.trans first))

theorem owner (overlapping : Overlapping exchanges session) {number : Int32} {owner : Ticket}
    (listed : (number, owner) ∈ session.pending) :
    ∃ exchange ∈ exchanges, exchange.requestId = number ∧ exchange.ticket = owner ∧
      exchange.stage.isInside ∧ session.NoMail owner := by
  obtain ⟨waiting, present, same, inside, empty⟩ := overlapping.orderly.pending _ listed
  obtain ⟨exchange, among, rfl⟩ := List.mem_map.mp present
  rw [Exchange.requestId_asWaiting, Exchange.ticket_asWaiting] at same
  obtain ⟨rfl, rfl⟩ := Prod.mk.inj same
  rw [Exchange.isInside_asWaiting] at inside
  rw [Exchange.ticket_asWaiting] at empty
  exact ⟨exchange, among, rfl, rfl, inside, empty⟩

theorem addressee (overlapping : Overlapping exchanges session) {letter : Ticket × Message}
    (sent : letter ∈ session.mail) :
    ∃ exchange ∈ exchanges, exchange.ticket = letter.1 ∧ exchange.stage.isInside ∧
      letter.2.kind = .response ∧ letter.2.requestId = exchange.requestId := by
  obtain ⟨waiting, present, ticket, minds, kind, number⟩ := overlapping.orderly.mail _ sent
  obtain ⟨exchange, among, rfl⟩ := List.mem_map.mp present
  rw [Exchange.ticket_asWaiting] at ticket
  rw [Exchange.requestId_asWaiting] at number
  have inside := Stage.isInside_of_mindsMail minds
  rw [Exchange.isInside_asWaiting] at inside
  exact ⟨exchange, among, ticket, inside, kind, number⟩

theorem requeue (overlapping : Overlapping exchanges session) (turns : List Ticket) :
    Orderly (exchanges.map Exchange.asWaiting) { session with turns } :=
  { overlapping.orderly with
    turn := by
      intro waiting among turn
      obtain ⟨exchange, -, rfl⟩ := List.mem_map.mp among
      exact absurd turn exchange.not_hasTurn_asWaiting }

theorem head?_erase (overlapping : Overlapping (exchange :: others) session) :
    ∀ other ∈ others, other.stage.hasTurn →
      (session.turns.erase exchange.ticket).head? = some other.ticket := by
  intro other inside turn
  have first := overlapping.others_turn other inside turn
  obtain ⟨turns, listed⟩ := List.head?_eq_some_iff.mp first
  have apart := overlapping.ticket_ne inside
  simp [listed, apart]

theorem leave {before : Session} {listener : Option Ticket} {woken : List Ticket}
    (overlapping : Overlapping (exchange :: others) session) (ends : exchange.Ends next)
    (same : session.SameBooks before) :
    Overlapping (next :: others) (exchange.vacated before listener woken) where
  orderly := by
    have left := (overlapping.orderly.congr same).leave ends.asWaiting listener woken
    rwa [Exchange.vacated_asWaiting] at left
  turn := by
    refine List.forall_mem_cons.mpr ⟨fun turn => ?_, (overlapping.congr same).head?_erase⟩
    have inside := Stage.isInside_of_hasTurn turn
    rw [ends.outside] at inside
    exact absurd inside Bool.false_ne_true

theorem restage (overlapping : Overlapping (exchange :: others) session) {stage : Stage}
    {turns : List Ticket} (before : exchange.stage.isInside) (inside : stage.isInside)
    (own_turn : stage.hasTurn → turns.head? = some exchange.ticket)
    (others_turn : ∀ other ∈ others, other.stage.hasTurn → turns.head? = some other.ticket) :
    Overlapping ({ exchange with stage } :: others) { session with turns } where
  orderly := by
    rw [List.map_cons, Exchange.asWaiting_restage before inside]
    exact overlapping.requeue turns
  turn := List.forall_mem_cons.mpr ⟨own_turn, others_turn⟩

theorem restage_same (overlapping : Overlapping (exchange :: others) session) (stage : Stage)
    (before : exchange.stage.isInside) (inside : stage.isInside)
    (turn : stage.hasTurn → exchange.stage.hasTurn) :
    Overlapping ({ exchange with stage } :: others) session :=
  overlapping.restage before inside (fun has => overlapping.own_turn (turn has))
    overlapping.others_turn

theorem register (overlapping : Overlapping (exchange :: others) session)
    (unsent : exchange.stage = .sending)
    (same : next.ticket = exchange.ticket ∧ next.requestId = exchange.requestId)
    (stage : next.stage = .checking) :
    Overlapping (next :: others) (session.register exchange.requestId exchange.ticket) where
  orderly := by
    have before := overlapping.orderly
    rw [List.map_cons, Exchange.asWaiting_of_outside (by rw [unsent]; rfl)] at before
    have checking := before.register same stage
    rw [List.map_cons, Exchange.asWaiting_of_isInside (by rw [stage]; rfl)]
    refine checking.restage (fun _ => rfl) (absurd rfl) (by simp [Stage.hasTurn]) ?_
    exact fun other inside => checking.turn other (List.mem_cons_of_mem _ inside)
  turn := by
    refine List.forall_mem_cons.mpr ⟨fun turn => ?_, overlapping.others_turn⟩
    simp [stage, Stage.hasTurn] at turn

theorem yield (overlapping : Overlapping (exchange :: others) session)
    (stage : exchange.stage = .reading) :
    Overlapping ({ exchange with stage := .checking } :: others)
      { session with turns := session.turns.erase exchange.ticket } :=
  overlapping.restage (by rw [stage]; rfl) rfl (by simp [Stage.hasTurn]) overlapping.head?_erase

theorem deliver (overlapping : Overlapping (exchange :: others) session) {reply : Message}
    {owner : Ticket} (listed : (reply.requestId, owner) ∈ session.pending)
    (foreign : reply.requestId ≠ exchange.requestId) (kind : reply.kind = .response) :
    Overlapping (exchange :: others) { session with
      pending := session.pending.filter (·.1 ≠ reply.requestId)
      mail := (owner, reply) :: session.mail } where
  orderly := by
    obtain ⟨other, among, number, rfl, inside, empty⟩ := overlapping.owner listed
    obtain rfl | among := List.mem_cons.mp among
    · exact absurd number.symm foreign
    have waiting : other.asWaiting.stage = .waiting := by
      rw [Exchange.asWaiting_of_isInside inside]
    rw [← other.requestId_asWaiting] at number
    rw [← other.ticket_asWaiting] at empty ⊢
    exact overlapping.orderly.deliver (List.mem_map_of_mem among) waiting empty kind number.symm
  turn := overlapping.turn

theorem move (overlapping : Overlapping (exchange :: others) session)
    (move : exchange.Move session next after) : Overlapping (next :: others) after := by
  cases move with
  | @sent woken stage =>
      have sent : Overlapping (exchange :: others) (exchange.dispatched session woken) :=
        overlapping.congr ⟨Nat.le_refl _, rfl, rfl, rfl⟩
      exact sent.register stage ⟨rfl, rfl⟩ rfl
  | refused | collected | broken | answered =>
      exact overlapping.leave (exchange.ends_finish _) ⟨Nat.le_refl _, rfl, rfl, rfl⟩
  | garbled | expired =>
      exact overlapping.leave (exchange.ends_failed _ _) ⟨Nat.le_refl _, rfl, rfl, rfl⟩
  | cleared stage =>
      exact overlapping.restage_same .asking (by rw [stage]; rfl) rfl (by simp [Stage.hasTurn])
  | asked stage joined =>
      refine overlapping.restage (by rw [stage]; rfl) ?_ ?_ ?_
      · split <;> rfl
      · intro turn
        split at turn
        · next first => exact first
        · simp [Stage.hasTurn] at turn
      · -- whoever asks stands behind the one that has the turn
        intro other inside turn
        have first := overlapping.others_turn other inside turn
        rw [joined]
        split
        · exact first
        · obtain ⟨turns, listed⟩ := List.head?_eq_some_iff.mp first
          rw [listed]
          rfl
  | listened stage =>
      have listening := overlapping.restage_same .listening (by rw [stage]; rfl) rfl
        fun _ => by rw [stage]; rfl
      exact listening.congr ⟨Nat.le_refl _, rfl, rfl, rfl⟩
  | silenced stage =>
      have muted := overlapping.restage_same .muted (by rw [stage]; rfl) rfl
        fun _ => by rw [stage]; rfl
      exact muted.congr ⟨Nat.le_refl _, rfl, rfl, rfl⟩
  | routed stage inbox unpacked kind foreign registered =>
      have delivered := (overlapping.yield stage).deliver (mem_of_lookup registered) foreign kind
      exact delivered.congr ⟨Nat.le_refl _, rfl, rfl, rfl⟩
  | dropped stage => exact (overlapping.yield stage).congr ⟨Nat.le_refl _, rfl, rfl, rfl⟩

theorem resume (overlapping : Overlapping (exchange :: others) session) :
    Overlapping ((exchange.resume session).1 :: others) (exchange.resume session).2 := by
  obtain ⟨stage, listener, resumed, same | ⟨waiting, rfl⟩ | ⟨listening, rfl⟩⟩ :=
    exchange.resume_eq session
  · rw [resumed, same]
    exact overlapping.congr ⟨Nat.le_refl _, rfl, rfl, rfl⟩
  · have checking := overlapping.restage_same .checking (by rw [waiting]; rfl) rfl
      (by simp [Stage.hasTurn])
    rw [resumed]
    exact checking.congr ⟨Nat.le_refl _, rfl, rfl, rfl⟩
  · have reading := overlapping.restage_same .reading (by rw [listening]; rfl) rfl
      fun _ => by rw [listening]; rfl
    rw [resumed]
    exact reading.congr ⟨Nat.le_refl _, rfl, rfl, rfl⟩

theorem settled (overlapping : Overlapping exchanges session) :
    Settled (exchanges.map Exchange.asWaiting) session where
  orderly := overlapping.orderly
  rest waiting among := by
    obtain ⟨exchange, -, rfl⟩ := List.mem_map.mp among
    exact exchange.isRest_asWaiting

theorem begin (overlapping : Overlapping others session) (begins : session.Begins exchange after) :
    Overlapping (exchange :: others) after where
  orderly := by
    rw [List.map_cons, Exchange.asWaiting_of_outside (by rw [begins.stage]; rfl)]
    exact (overlapping.settled.begin begins).orderly
  turn := by
    refine List.forall_mem_cons.mpr ⟨fun turn => ?_, ?_⟩
    · simp [begins.stage, Stage.hasTurn] at turn
    · rw [begins.after]
      exact overlapping.turn

theorem drop (overlapping : Overlapping (exchange :: others) session) :
    Overlapping others (exchange.cancel session) := by
  obtain ⟨listener, woken, left⟩ := exchange.quit_eq session
  rw [Exchange.cancel, left]
  constructor
  · rw [← Exchange.vacated_asWaiting]
    exact overlapping.orderly.vacated listener woken
  · exact overlapping.head?_erase

end Overlapping

structure Interplay.Ordered (interplay : Interplay) : Prop where
  overlapping : Overlapping interplay.exchanges interplay.session
  rest : ∀ exchange ∈ interplay.resting, exchange.stage.isRest

namespace Interplay

variable {start : Session} {interplay after : Interplay} {exchange : Exchange}
  {others : List Exchange}

theorem perm_of_polled (listed : interplay.polled.Perm (exchange :: others)) :
    interplay.exchanges.Perm (exchange :: (others ++ interplay.resting)) :=
  listed.append_right _

theorem perm_of_resting (listed : interplay.resting.Perm (exchange :: others)) :
    interplay.exchanges.Perm (exchange :: (interplay.polled ++ others)) :=
  (listed.append_left _).trans List.perm_middle

theorem Step.ordered (step : interplay.Step after) (ordered : interplay.Ordered) :
    after.Ordered := by
  obtain ⟨overlapping, rest⟩ := ordered
  cases step with
  | begin begun =>
      have begins := Session.begins begun
      refine ⟨(overlapping.begin begins).perm List.perm_middle.symm, ?_⟩
      exact List.forall_mem_cons.mpr ⟨by rw [begins.stage]; rfl, rest⟩
  | enter listed =>
      refine ⟨(overlapping.perm (perm_of_resting listed)).resume, fun exchange inside => ?_⟩
      exact rest exchange (listed.mem_iff.mpr (List.mem_cons_of_mem _ inside))
  | move listed step =>
      exact ⟨(overlapping.perm (perm_of_polled listed)).move (Exchange.step?_move step), rest⟩
  | leave listed idle =>
      refine ⟨(overlapping.perm (perm_of_polled listed)).perm List.perm_middle.symm, ?_⟩
      exact List.forall_mem_cons.mpr ⟨Exchange.isRest_of_idle idle, rest⟩
  | drop listed =>
      refine ⟨(overlapping.perm (perm_of_resting listed)).drop, fun exchange inside => ?_⟩
      exact rest exchange (listed.mem_iff.mpr (List.mem_cons_of_mem _ inside))
  | arrive | pass | rouse =>
      exact ⟨overlapping.congr ⟨Nat.le_refl _, rfl, rfl, rfl⟩, rest⟩

theorem Reached.ordered (reached : Reached start interplay) (idle : start.Idle) :
    interplay.Ordered := by
  induction reached with
  | refl => exact ⟨.idle idle, by simp [opening]⟩
  | tail _ step ih => exact step.ordered ih

end Interplay
end RoadsideSnmp
