import RoadsideSnmp.Session.Exchange.Poll

/-! What one small step of an exchange can be. Whom a step wakes and who listens afterwards is left
open: no step but a poll depends on it. -/
namespace RoadsideSnmp

namespace Stage

def isInside : Stage → Bool
  | .sending | .finished _ => false
  | _ => true

def hasTurn : Stage → Bool
  | .reading | .listening | .muted => true
  | _ => false

def mindsMail : Stage → Bool
  | .waiting | .checking => true
  | _ => false

/-- A poll may stop here. -/
def isRest : Stage → Bool
  | .checking | .asking | .reading => false
  | _ => true

theorem eq_waiting_of_isRest {stage : Stage} (rest : stage.isRest) (inside : stage.isInside)
    (turn : ¬stage.hasTurn) : stage = .waiting := by
  cases stage <;> simp [isRest, isInside, hasTurn] at rest inside turn ⊢

theorem isInside_of_hasTurn {stage : Stage} (turn : stage.hasTurn) : stage.isInside := by
  cases stage <;> simp [hasTurn, isInside] at turn ⊢

theorem isInside_of_mindsMail {stage : Stage} (minds : stage.mindsMail) : stage.isInside := by
  cases stage <;> simp [mindsMail, isInside] at minds ⊢

theorem not_hasTurn_of_mindsMail {stage : Stage} (minds : stage.mindsMail) : ¬stage.hasTurn := by
  cases stage <;> simp [mindsMail, hasTurn] at minds ⊢

end Stage

namespace Session

theorem wake_eq (ticket : Ticket) (session : Session) :
    ∃ woken, session.wake ticket = { session with woken } := by
  unfold wake
  split
  · exact ⟨session.woken, rfl⟩
  · exact ⟨_, rfl⟩

theorem wakeAny_eq (ticket : Option Ticket) (session : Session) :
    ∃ woken, session.wakeAny ticket = { session with woken } := by
  cases ticket with
  | none => exact ⟨session.woken, rfl⟩
  | some ticket => exact session.wake_eq ticket

theorem deliver_eq (message : Message) (owner : Ticket) (session : Session) :
    ∃ woken, session.deliver message owner =
      { session with
        pending := session.pending.filter (·.1 ≠ message.requestId)
        mail := (owner, message) :: session.mail
        woken } :=
  wake_eq owner _

theorem leave_eq (ticket : Ticket) (session : Session) :
    ∃ woken, session.leave ticket =
      { session with turns := session.turns.erase ticket, woken } := by
  unfold leave
  split
  · next first =>
      have gone : session.turns.erase ticket = session.turns.tail := by
        obtain ⟨turns, listed⟩ := List.head?_eq_some_iff.mp first
        rw [listed, List.erase_cons_head, List.tail_cons]
      rw [gone]
      exact wakeAny_eq _ _
  · exact ⟨session.woken, rfl⟩

theorem ignore_eq (ticket : Ticket) (session : Session) :
    ∃ listener, session.ignore ticket = { session with listener } := by
  unfold ignore
  split
  · exact ⟨none, rfl⟩
  · exact ⟨session.listener, rfl⟩

theorem join_eq (ticket : Ticket) (session : Session) :
    session.join ticket = { session with
      turns := if ticket ∈ session.turns then session.turns
        else session.turns ++ [ticket] } := by
  unfold join
  split <;> rfl

theorem send_eq (packet : Octets) (session : Session) :
    ∃ woken, session.send packet = ((session.line.send packet).1,
      { session with line := (session.line.send packet).2, listener := none, woken }) := by
  obtain ⟨woken, sent⟩ := wakeAny_eq session.listener
    { session with line := (session.line.send packet).2, listener := none }
  exact ⟨woken, by rw [send, sent]⟩

theorem countIf_retries_eq (again : Bool) (session : Session) :
    session.countIf again (fun counters => { counters with retries := counters.retries + 1 }) =
      { session with
        counters := { session.counters with
          retries := session.counters.retries + again.toNat } } := by
  cases again <;> rfl

theorem unpack_eq_of_config {first second : Session} (config : first.config = second.config) :
    first.unpack = second.unpack := by
  funext octets
  rw [unpack, unpack, config]

def taken (session : Session) (damaged : Bool) : Session :=
  { session with
    line := session.line.take
    counters := { session.counters with
      damaged := session.counters.damaged + damaged.toNat } }

theorem countIf_damaged_eq (damaged : Bool) (session : Session) :
    countIf damaged (fun counters => { counters with damaged := counters.damaged + 1 })
      { session with line := session.line.take } = session.taken damaged := by
  cases damaged <;> rfl

end Session

def Message.outcome (reply : Message) : Except Failure Message :=
  (reply.checkError.map fun _ => reply).mapError .agent

theorem Message.outcome_cases (reply : Message) :
    reply.outcome = .ok reply ∨ ∃ error, reply.outcome = .error (.agent error) := by
  unfold outcome
  cases reply.checkError with
  | ok => exact .inl rfl
  | error error => exact .inr ⟨error, rfl⟩

structure Session.Begins (session : Session) (exchange : Exchange) (after : Session) : Prop where
  ticket : exchange.ticket = session.nextTicket
  requestId : exchange.requestId = Session.requestId session.nextId
  attempt : exchange.attempt = 0
  stage : exchange.stage = .sending
  after : after = { session with
    nextId := session.nextId + 1
    nextTicket := session.nextTicket + 1
    counters := { session.counters with requests := session.counters.requests + 1 } }

theorem Session.begins {message : Message} {session after : Session} {exchange : Exchange}
    (begun : session.begin message = .ok (exchange, after)) : session.Begins exchange after := by
  unfold Session.begin at begun
  split at begun
  · simp at begun
  · obtain ⟨rfl, rfl⟩ := Prod.mk.inj (Except.ok.inj begun)
    exact ⟨rfl, rfl, rfl, rfl, rfl⟩

namespace Exchange

def vacated (exchange : Exchange) (session : Session) (listener : Option Ticket)
    (woken : List Ticket) : Session :=
  { session with
    pending := session.pending.filter (·.1 ≠ exchange.requestId)
    mail := session.mail.filter (·.1 ≠ exchange.ticket)
    turns := session.turns.erase exchange.ticket
    listener
    woken }

theorem quit_eq (exchange : Exchange) (session : Session) :
    ∃ listener woken, exchange.quit session = exchange.vacated session listener woken := by
  obtain ⟨listener, ignored⟩ := session.ignore_eq exchange.ticket
  obtain ⟨woken, left⟩ := (session.ignore exchange.ticket).leave_eq exchange.ticket
  refine ⟨listener, woken, ?_⟩
  rw [quit, left, ignored]
  rfl

theorem vacated_register (exchange : Exchange) (session : Session) (listener : Option Ticket)
    (woken : List Ticket) :
    exchange.vacated (session.register exchange.requestId exchange.ticket) listener woken =
      exchange.vacated session listener woken := by
  simp [vacated, Session.register]

def failed (exchange : Exchange) (failure : Failure) (retries : Nat) : Exchange :=
  if exchange.attempt < retries then
    { exchange with attempt := exchange.attempt + 1, stage := .sending }
  else exchange.finish (.error failure)

structure Ends (exchange next : Exchange) : Prop where
  ticket : next.ticket = exchange.ticket
  requestId : next.requestId = exchange.requestId
  outside : next.stage.isInside = false

theorem ends_finish (exchange : Exchange) (result : Except Failure Message) :
    exchange.Ends (exchange.finish result) :=
  ⟨rfl, rfl, rfl⟩

theorem ends_failed (exchange : Exchange) (failure : Failure) (retries : Nat) :
    exchange.Ends (exchange.failed failure retries) := by
  unfold failed
  split
  · exact ⟨rfl, rfl, rfl⟩
  · exact exchange.ends_finish _

theorem again_eq (exchange : Exchange) (failure : Failure) (session : Session) :
    exchange.again failure session =
      (exchange.failed failure session.config.retries, exchange.quit session) := by
  unfold again failed
  simp only [config_quit]
  split <;> rfl

def dispatched (exchange : Exchange) (session : Session) (woken : List Ticket) : Session :=
  { session with
    line := (session.line.send exchange.packet).2
    counters := { session.counters with
      retries := session.counters.retries + (decide (0 < exchange.attempt)).toNat }
    listener := none
    woken }

theorem resume_eq (exchange : Exchange) (session : Session) : ∃ stage listener,
    exchange.resume session = ({ exchange with stage }, { session with listener }) ∧
      (stage = exchange.stage ∨ exchange.stage = .waiting ∧ stage = .checking ∨
        exchange.stage = .listening ∧ stage = .reading) := by
  unfold resume
  split
  · next stage => exact ⟨.checking, session.listener, rfl, .inr (.inl ⟨stage, rfl⟩)⟩
  · next stage =>
      obtain ⟨listener, ignored⟩ := session.ignore_eq exchange.ticket
      rw [ignored]
      exact ⟨.reading, listener, rfl, .inr (.inr ⟨stage, rfl⟩)⟩
  · exact ⟨exchange.stage, session.listener, rfl, .inl rfl⟩

theorem ticket_resume (exchange : Exchange) (session : Session) :
    (exchange.resume session).1.ticket = exchange.ticket := by
  obtain ⟨stage, listener, resumed, -⟩ := exchange.resume_eq session
  rw [resumed]

theorem mail_resume (exchange : Exchange) (session : Session) :
    (exchange.resume session).2.mail = session.mail := by
  obtain ⟨stage, listener, resumed, -⟩ := exchange.resume_eq session
  rw [resumed]

theorem result?_resume (exchange : Exchange) (session : Session) :
    (exchange.resume session).1.result? = exchange.result? := by
  obtain ⟨stage, listener, resumed, rfl | ⟨waiting, rfl⟩ | ⟨listening, rfl⟩⟩ :=
    exchange.resume_eq session
  · rw [resumed]
  · simp [resumed, result?, waiting]
  · simp [resumed, result?, listening]

theorem isInside_resume (exchange : Exchange) (session : Session) :
    (exchange.resume session).1.stage.isInside = exchange.stage.isInside := by
  obtain ⟨stage, listener, resumed, rfl | ⟨waiting, rfl⟩ | ⟨listening, rfl⟩⟩ :=
    exchange.resume_eq session
  · rw [resumed]
  · simp [resumed, Stage.isInside, waiting]
  · simp [resumed, Stage.isInside, listening]

theorem mindsMail_resume {exchange : Exchange} (session : Session)
    (minds : exchange.stage.mindsMail) :
    (exchange.resume session).1.stage.mindsMail := by
  obtain ⟨stage, listener, resumed, rfl | ⟨-, rfl⟩ | ⟨listening, rfl⟩⟩ :=
    exchange.resume_eq session
  · rw [resumed]
    exact minds
  · rw [resumed]
    rfl
  · simp [Stage.mindsMail, listening] at minds

/-- The attempt is over by itself: it is late, or there is no reply and nobody can give one. -/
def Overdue (exchange : Exchange) (session : Session) : Prop :=
  match exchange.stage with
  | .checking => (∀ letter ∈ session.mail, letter.1 ≠ exchange.ticket) ∧
      (exchange.requestId, exchange.ticket) ∉ session.pending
  | .waiting | .listening | .muted => exchange.deadline ≤ session.now
  | _ => False

/-- One small step: what it depends on and everything that it changes. -/
inductive Move (exchange : Exchange) (session : Session) : Exchange → Session → Prop
  | sent {woken : List Ticket} (stage : exchange.stage = .sending)
      (accepted : (session.line.send exchange.packet).1 = false) :
      Move exchange session
        { exchange with
          deadline := Timer.rings (session.now + session.config.timeout)
          place := (session.line.send exchange.packet).2.sent.length
          stage := .checking }
        ((exchange.dispatched session woken).register exchange.requestId exchange.ticket)
  | refused {peer : Option String} {listener : Option Ticket} {woken : List Ticket}
      (stage : exchange.stage = .sending)
      (refused : (session.line.send exchange.packet).1 = true) :
      Move exchange session (exchange.finish (.error (.link peer .sendFailed)))
        (exchange.vacated (exchange.dispatched session []) listener woken)
  | collected {reply : Message} {listener : Option Ticket} {woken : List Ticket}
      (stage : exchange.stage = .checking) (found : (exchange.ticket, reply) ∈ session.mail) :
      Move exchange session (exchange.finish reply.outcome)
        (exchange.vacated (session.count fun counters =>
          { counters with responses := counters.responses + 1 }) listener woken)
  | cleared (stage : exchange.stage = .checking)
      (empty : ∀ letter ∈ session.mail, letter.1 ≠ exchange.ticket)
      (registered : (exchange.requestId, exchange.ticket) ∈ session.pending) :
      Move exchange session { exchange with stage := .asking } session
  | asked {turns : List Ticket} (stage : exchange.stage = .asking)
      (joined : turns = if exchange.ticket ∈ session.turns then session.turns
        else session.turns ++ [exchange.ticket]) :
      Move exchange session
        { exchange with
          stage := if turns.head? = some exchange.ticket then .reading else .waiting }
        { session with turns }
  | listened (stage : exchange.stage = .reading) (inbox : session.line.inbox = []) :
      Move exchange session { exchange with stage := .listening }
        { session with listener := some exchange.ticket }
  | silenced {rest : List Delivery} (stage : exchange.stage = .reading)
      (inbox : session.line.inbox = .silence :: rest) :
      Move exchange session { exchange with stage := .muted }
        { session with line := session.line.take }
  | broken {rest : List Delivery} {listener : Option Ticket} {woken : List Ticket}
      (stage : exchange.stage = .reading) (inbox : session.line.inbox = .fault :: rest) :
      Move exchange session (exchange.finish (.error (.link none .receiveFailed)))
        (exchange.vacated { session with line := session.line.take } listener woken)
  | garbled {octets : Octets} {rest : List Delivery} {error : DecodeError} {damaged : Bool}
      {listener : Option Ticket} {woken : List Ticket} (stage : exchange.stage = .reading)
      (inbox : session.line.inbox = .message octets :: rest)
      (unpacked : session.unpack octets = (.error error, damaged)) :
      Move exchange session (exchange.failed (.decode error) session.config.retries)
        (exchange.vacated ((session.taken damaged).count fun counters =>
          { counters with undecodable := counters.undecodable + 1 }) listener woken)
  | answered {octets : Octets} {rest : List Delivery} {reply : Message} {damaged : Bool}
      {listener : Option Ticket} {woken : List Ticket} (stage : exchange.stage = .reading)
      (inbox : session.line.inbox = .message octets :: rest)
      (unpacked : session.unpack octets = (.ok reply, damaged)) (kind : reply.kind = .response)
      (own : reply.requestId = exchange.requestId) :
      Move exchange session (exchange.finish reply.outcome)
        (exchange.vacated ((session.taken damaged).count fun counters =>
          { counters with responses := counters.responses + 1 }) listener woken)
  | routed {octets : Octets} {rest : List Delivery} {reply : Message} {damaged : Bool}
      {owner : Ticket} {woken : List Ticket} (stage : exchange.stage = .reading)
      (inbox : session.line.inbox = .message octets :: rest)
      (unpacked : session.unpack octets = (.ok reply, damaged)) (kind : reply.kind = .response)
      (foreign : reply.requestId ≠ exchange.requestId)
      (registered : session.pending.lookup reply.requestId = some owner) :
      Move exchange session { exchange with stage := .checking }
        { session.taken damaged with
          pending := session.pending.filter (·.1 ≠ reply.requestId)
          mail := (owner, reply) :: session.mail
          turns := session.turns.erase exchange.ticket
          woken }
  | dropped {octets : Octets} {rest : List Delivery} {message : Message} {damaged : Bool}
      {woken : List Ticket} (stage : exchange.stage = .reading)
      (inbox : session.line.inbox = .message octets :: rest)
      (unpacked : session.unpack octets = (.ok message, damaged))
      (unwanted : message.kind = .response →
        message.requestId ≠ exchange.requestId ∧ session.pending.lookup message.requestId = none) :
      Move exchange session { exchange with stage := .checking }
        { (session.taken damaged).count fun counters =>
            { counters with stale := counters.stale + 1 } with
          turns := session.turns.erase exchange.ticket
          woken }
  | expired {listener : Option Ticket} {woken : List Ticket}
      (overdue : exchange.Overdue session) :
      Move exchange session (exchange.failed (exchange.timeout session.now) session.config.retries)
        (exchange.vacated (session.count fun counters =>
          { counters with timeouts := counters.timeouts + 1 }) listener woken)

variable {exchange : Exchange} {session : Session}

theorem Move.config {next : Exchange} {after : Session} (move : exchange.Move session next after) :
    after.config = session.config := by
  cases move <;> rfl

theorem Move.nextTicket {next : Exchange} {after : Session}
    (move : exchange.Move session next after) : after.nextTicket = session.nextTicket := by
  cases move <;> rfl

theorem Move.nextId {next : Exchange} {after : Session} (move : exchange.Move session next after) :
    after.nextId = session.nextId := by
  cases move <;> rfl

theorem Move.agent {next : Exchange} {after : Session} (move : exchange.Move session next after) :
    after.line.agent = session.line.agent := by
  cases move <;> rfl

theorem Move.same {next : Exchange} {after : Session} (move : exchange.Move session next after) :
    next.ticket = exchange.ticket ∧ next.requestId = exchange.requestId := by
  cases move with
  | garbled => exact ⟨(exchange.ends_failed _ _).ticket, (exchange.ends_failed _ _).requestId⟩
  | expired => exact ⟨(exchange.ends_failed _ _).ticket, (exchange.ends_failed _ _).requestId⟩
  | _ => exact ⟨rfl, rfl⟩

theorem Move.unfinished {next : Exchange} {after : Session}
    (move : exchange.Move session next after) : exchange.result? = none := by
  have idle : ∀ result, exchange.stage = .finished result → False := by
    intro result finished
    cases move with
    | expired overdue => simp [Overdue, finished] at overdue
    | _ => simp_all
  unfold result?
  split
  · next result finished => exact (idle result finished).elim
  · rfl

theorem conclude_eq (exchange : Exchange) (reply : Message) (session : Session) :
    ∃ listener woken, exchange.conclude reply session = (exchange.finish reply.outcome,
      exchange.vacated (session.count fun counters =>
        { counters with responses := counters.responses + 1 }) listener woken) := by
  obtain ⟨listener, woken, left⟩ := exchange.quit_eq (session.count fun counters =>
    { counters with responses := counters.responses + 1 })
  exact ⟨listener, woken, by rw [conclude, left]; rfl⟩

theorem expire_move (overdue : exchange.Overdue session) :
    Move exchange session (exchange.expire session).1 (exchange.expire session).2 := by
  obtain ⟨listener, woken, left⟩ := exchange.quit_eq (session.count fun counters =>
    { counters with timeouts := counters.timeouts + 1 })
  rw [expire, again_eq, left]
  exact .expired overdue

theorem transmit_move (stage : exchange.stage = .sending) :
    Move exchange session (exchange.transmit session).1 (exchange.transmit session).2 := by
  obtain ⟨woken, sent⟩ := ((session.countIf (0 < exchange.attempt) fun counters =>
    { counters with retries := counters.retries + 1 }).register exchange.requestId
      exchange.ticket).send_eq exchange.packet
  unfold transmit
  simp only [sent]
  simp only [Session.countIf_retries_eq, Session.register]
  cases refused : (session.line.send exchange.packet).1 with
  | true =>
      obtain ⟨listener, woken, left⟩ := exchange.quit_eq _
      rw [if_pos rfl, left]
      have quiet := @Move.refused exchange session (some session.line.peer) listener woken stage
        refused
      rw [← vacated_register] at quiet
      exact quiet
  | false =>
      rw [if_neg Bool.false_ne_true]
      exact Move.sent stage refused

theorem look_move (stage : exchange.stage = .checking) :
    Move exchange session (exchange.look session).1 (exchange.look session).2 := by
  unfold look
  split
  · next ticket reply found =>
      have inside := List.mem_of_find?_eq_some found
      obtain rfl : ticket = exchange.ticket := by simpa using List.find?_some found
      obtain ⟨listener, woken, concluded⟩ := exchange.conclude_eq reply session
      rw [concluded]
      exact .collected stage inside
  · next absent =>
      have empty : ∀ letter ∈ session.mail, letter.1 ≠ exchange.ticket := by
        simpa using absent
      split
      · next registered => exact .cleared stage empty registered
      · next unregistered =>
          apply expire_move
          rw [Overdue, stage]
          exact ⟨empty, unregistered⟩

theorem ask_move (stage : exchange.stage = .asking) :
    Move exchange session (exchange.ask session).1 (exchange.ask session).2 := by
  rw [ask, Session.join_eq]
  exact .asked stage rfl

theorem sort_move {octets : Octets} {rest : List Delivery} {message : Message} {damaged : Bool}
    (stage : exchange.stage = .reading) (inbox : session.line.inbox = .message octets :: rest)
    (unpacked : session.unpack octets = (.ok message, damaged)) :
    Move exchange session (exchange.sort message (session.taken damaged)).1
      (exchange.sort message (session.taken damaged)).2 := by
  unfold sort
  split
  · next own =>
      obtain ⟨listener, woken, concluded⟩ := exchange.conclude_eq message (session.taken damaged)
      rw [concluded]
      exact .answered stage inbox unpacked own.1 own.2
  · next foreign =>
      dsimp only
      split
      · next owner registered =>
          obtain ⟨kind, registered⟩ : message.kind = .response ∧
              session.pending.lookup message.requestId = some owner := by
            simpa [Session.taken] using registered
          obtain ⟨roused, delivered⟩ := (session.taken damaged).deliver_eq message owner
          rw [delivered]
          obtain ⟨woken, left⟩ := Session.leave_eq exchange.ticket _
          rw [left]
          exact .routed stage inbox unpacked kind (fun own => foreign ⟨kind, own⟩) registered
      · next unregistered =>
          obtain ⟨woken, left⟩ := ((session.taken damaged).count fun counters =>
            { counters with stale := counters.stale + 1 }).leave_eq exchange.ticket
          rw [left]
          refine .dropped stage inbox unpacked fun kind => ⟨fun own => foreign ⟨kind, own⟩, ?_⟩
          simpa [Session.taken, kind] using unregistered

theorem receive_move {octets : Octets} {rest : List Delivery} (stage : exchange.stage = .reading)
    (inbox : session.line.inbox = .message octets :: rest) :
    Move exchange session
      (exchange.receive octets { session with line := session.line.take }).1
      (exchange.receive octets { session with line := session.line.take }).2 := by
  obtain ⟨decoded, damaged, unpacked⟩ : ∃ decoded damaged,
      session.unpack octets = (decoded, damaged) := ⟨_, _, rfl⟩
  have same : Session.unpack { session with line := session.line.take } octets =
      (decoded, damaged) := unpacked
  rw [receive, same]
  dsimp only
  rw [Session.countIf_damaged_eq]
  cases decoded with
  | ok message => exact sort_move stage inbox unpacked
  | error error =>
      obtain ⟨listener, woken, left⟩ := exchange.quit_eq
        ((session.taken damaged).count fun counters =>
          { counters with undecodable := counters.undecodable + 1 })
      dsimp only
      rw [again_eq, left]
      exact .garbled stage inbox unpacked

theorem read_move (stage : exchange.stage = .reading) :
    Move exchange session (exchange.read session).1 (exchange.read session).2 := by
  unfold read
  dsimp only
  split
  · next inbox => exact .listened stage inbox
  · next inbox => exact .silenced stage inbox
  · next inbox =>
      obtain ⟨listener, woken, left⟩ := exchange.quit_eq { session with line := session.line.take }
      rw [left]
      exact .broken stage inbox
  · next inbox => exact receive_move stage inbox

theorem step?_move {next : Exchange} {after : Session}
    (step : exchange.step? session = some (next, after)) : Move exchange session next after := by
  unfold step? at step
  split at step
  · next stage =>
      obtain ⟨rfl, rfl⟩ := Prod.mk.inj (Option.some.inj step)
      exact transmit_move stage
  · next stage =>
      obtain ⟨rfl, rfl⟩ := Prod.mk.inj (Option.some.inj step)
      exact look_move stage
  · next stage =>
      obtain ⟨rfl, rfl⟩ := Prod.mk.inj (Option.some.inj step)
      exact ask_move stage
  · next stage =>
      obtain ⟨rfl, rfl⟩ := Prod.mk.inj (Option.some.inj step)
      exact read_move stage
  iterate 3
    · next stage =>
        split at step
        · next late =>
            obtain ⟨rfl, rfl⟩ := Prod.mk.inj (Option.some.inj step)
            apply expire_move
            rw [Overdue, stage]
            exact late
        · simp at step
  · simp at step

end Exchange
end RoadsideSnmp
