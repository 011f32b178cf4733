import RoadsideSnmp.Proofs.Session.Moves

/-! What exchanges take from the line. The record of a poll is made by the same recursion as the
poll; whatever holds before it and is kept by every move holds after it, record included. -/
namespace RoadsideSnmp

namespace Line

/-- All that the agent has put on the line when it has been sent these messages, the newest of them
first. -/
def reactions (agent : List Octets → Reaction) : List Octets → List Delivery
  | [] => []
  | packet :: sent => reactions agent sent ++ (agent (packet :: sent)).deliveries

theorem forall_mem_reactions {agent : List Octets → Reaction} {Good : Delivery → Prop}
    (adds : ∀ sent, ∀ delivery ∈ (agent sent).deliveries, Good delivery) (sent : List Octets) :
    ∀ delivery ∈ reactions agent sent, Good delivery := by
  induction sent with
  | nil => exact List.forall_mem_nil _
  | cons packet sent ih => exact List.forall_mem_append.mpr ⟨ih, adds _⟩

def added (line after : Line) : List Delivery :=
  (reactions line.agent after.sent).drop (reactions line.agent line.sent).length

/-- From the first line the second can come by sending messages and taking these deliveries. -/
structure Goes (line : Line) (taken : List Delivery) (after : Line) : Prop where
  agent : after.agent = line.agent
  sent : line.sent <:+ after.sent
  inbox : ∃ arrived, reactions line.agent after.sent = reactions line.agent line.sent ++ arrived ∧
    line.inbox ++ arrived = taken ++ after.inbox

namespace Goes

variable {line middle after : Line} {taken others : List Delivery}

theorem refl (line : Line) : line.Goes [] line :=
  ⟨rfl, List.suffix_rfl, [], (List.append_nil _).symm, List.append_nil _⟩

theorem trans (first : line.Goes taken middle) (second : middle.Goes others after) :
    line.Goes (taken ++ others) after := by
  obtain ⟨arrived, history, inbox⟩ := first.inbox
  obtain ⟨more, later, rest⟩ := second.inbox
  rw [first.agent] at later
  refine ⟨second.agent.trans first.agent, first.sent.trans second.sent, arrived ++ more, ?_, ?_⟩
  · rw [later, history, List.append_assoc]
  · rw [← List.append_assoc, inbox, List.append_assoc, rest, List.append_assoc]

theorem send (line : Line) (packet : Octets) : line.Goes [] (line.send packet).2 :=
  ⟨rfl, List.suffix_cons _ _, _, rfl, rfl⟩

theorem take {delivery : Delivery} {rest : List Delivery}
    (inbox : line.inbox = delivery :: rest) : line.Goes [delivery] line.take :=
  ⟨rfl, List.suffix_rfl, [], (List.append_nil _).symm, by simp [inbox]⟩

theorem added (goes : line.Goes taken after) :
    line.inbox ++ line.added after = taken ++ after.inbox := by
  obtain ⟨arrived, history, inbox⟩ := goes.inbox
  rw [Line.added, history, List.drop_left]
  exact inbox

theorem forall_mem (goes : line.Goes taken after) (Good : Delivery → Prop)
    (waits : ∀ delivery ∈ line.inbox, Good delivery)
    (adds : ∀ sent, ∀ delivery ∈ (line.agent sent).deliveries, Good delivery) :
    (∀ delivery ∈ taken, Good delivery) ∧ ∀ delivery ∈ after.inbox, Good delivery := by
  have arrives : ∀ delivery ∈ line.added after, Good delivery := fun delivery arrived =>
    forall_mem_reactions adds _ delivery (List.mem_of_mem_drop arrived)
  rw [← List.forall_mem_append, ← goes.added]
  exact List.forall_mem_append.mpr ⟨waits, arrives⟩

end Goes

end Line

structure Taking where
  delivery : Delivery
  /-- The reply in it and who was listed under its number, if it is a reply that was awaited. -/
  claim : Option (Ticket × Message)
  deriving DecidableEq

def Session.claim? (session : Session) : Delivery → Option (Ticket × Message)
  | .message octets =>
      match (session.unpack octets).1 with
      | .ok message =>
          if message.kind = .response then
            (session.pending.lookup message.requestId).map fun owner => (owner, message)
          else none
      | .error _ => none
  | .silence | .fault => none

theorem Session.claim?_message {session : Session} {octets : Octets} {reply : Message}
    {damaged : Bool} (unpacked : session.unpack octets = (.ok reply, damaged))
    (kind : reply.kind = .response) : session.claim? (.message octets) =
      (session.pending.lookup reply.requestId).map fun owner => (owner, reply) := by
  simp [claim?, unpacked, kind]

theorem Session.claim?_of_unwanted {session : Session} {octets : Octets} {message : Message}
    {damaged : Bool} (unpacked : session.unpack octets = (.ok message, damaged))
    (unwanted : message.kind = .response → session.pending.lookup message.requestId = none) :
    session.claim? (.message octets) = none := by
  by_cases kind : message.kind = .response
  · simp [claim?_message unpacked kind, unwanted kind]
  · simp [claim?, unpacked, kind]

namespace Exchange

def taking? (exchange : Exchange) (session : Session) : Option Taking :=
  match exchange.stage, session.line.inbox with
  | .reading, delivery :: _ => some ⟨delivery, session.claim? delivery⟩
  | _, _ => none

section

variable {exchange : Exchange} {session : Session}

theorem taking?_of_ne_reading (stage : exchange.stage ≠ .reading) :
    exchange.taking? session = none := by
  unfold taking?
  split
  · next reading _ => exact absurd reading stage
  · rfl

theorem taking?_of_overdue (overdue : exchange.Overdue session) :
    exchange.taking? session = none := by
  refine taking?_of_ne_reading fun stage => ?_
  simp [Overdue, stage] at overdue

theorem taking?_of_empty (inbox : session.line.inbox = []) : exchange.taking? session = none := by
  simp [taking?, inbox]

theorem taking?_of_reading {delivery : Delivery} {rest : List Delivery}
    (stage : exchange.stage = .reading) (inbox : session.line.inbox = delivery :: rest) :
    exchange.taking? session = some ⟨delivery, session.claim? delivery⟩ := by
  simp [taking?, stage, inbox]

end

def takings (exchange : Exchange) (session : Session) : List Taking :=
  match _step : exchange.step? session with
  | none => []
  | some (next, after) => (exchange.taking? session).toList ++ takings next after
termination_by (exchange.ahead session, session.line.inbox.length, exchange.rank)
decreasing_by
  rcases step?_closer _step with less | ⟨same, less | ⟨equal, less⟩⟩
  · exact .left _ _ less
  · rw [same]
    exact .right _ (.left _ _ less)
  · rw [same, equal]
    exact .right _ (.right _ less)

def polled (exchange : Exchange) (session : Session) : List Taking :=
  (exchange.resume session).1.takings (exchange.resume session).2

section

variable {exchange next : Exchange} {session after : Session}

theorem advance_of_idle (idle : exchange.step? session = none) :
    exchange.advance session = (exchange, session) := by
  rw [advance]
  split
  · rfl
  · next step => simp [idle] at step

theorem advance_of_step (step : exchange.step? session = some (next, after)) :
    exchange.advance session = next.advance after := by
  rw [advance]
  split
  · next idle => simp [step] at idle
  · next same =>
      obtain ⟨rfl, rfl⟩ := Prod.mk.inj (Option.some.inj (step.symm.trans same))
      rfl

theorem takings_of_idle (idle : exchange.step? session = none) :
    exchange.takings session = [] := by
  rw [takings]
  split
  · rfl
  · next step => simp [idle] at step

theorem takings_of_step (step : exchange.step? session = some (next, after)) :
    exchange.takings session = (exchange.taking? session).toList ++ next.takings after := by
  rw [takings]
  split
  · next idle => simp [step] at idle
  · next same =>
      obtain ⟨rfl, rfl⟩ := Prod.mk.inj (Option.some.inj (step.symm.trans same))
      rfl

end

/-- What every move keeps, all of them together keep. -/
theorem advance_keeps (Good : Exchange → Session → List Taking → Prop)
    (keeps : ∀ {exchange session log next after}, Good exchange session log →
      Move exchange session next after →
      Good next after (log ++ (exchange.taking? session).toList))
    {exchange : Exchange} {session : Session} (log : List Taking)
    (good : Good exchange session log) :
    Good (exchange.advance session).1 (exchange.advance session).2
      (log ++ exchange.takings session) := by
  -- on the steps of the poll; the record grows by what the step takes
  induction exchange, session using advance.induct generalizing log with
  | case1 exchange session idle =>
      rw [advance_of_idle idle, takings_of_idle idle, List.append_nil]
      exact good
  | case2 exchange session next after step ih =>
      rw [advance_of_step step, takings_of_step step, ← List.append_assoc]
      exact ih _ (keeps good (step?_move step))

theorem goes_take {exchange : Exchange} {session : Session} {delivery : Delivery}
    {rest : List Delivery} (stage : exchange.stage = .reading)
    (inbox : session.line.inbox = delivery :: rest) : session.line.Goes
      ((exchange.taking? session).toList.map Taking.delivery) session.line.take := by
  rw [taking?_of_reading stage inbox]
  exact .take inbox

theorem Move.goes {exchange next : Exchange} {session after : Session}
    (move : exchange.Move session next after) : session.line.Goes
      ((exchange.taking? session).toList.map Taking.delivery) after.line := by
  cases move with
  | sent stage =>
      rw [taking?_of_ne_reading (by simp [stage])]
      exact .send session.line exchange.packet
  | refused stage =>
      rw [taking?_of_ne_reading (by simp [stage])]
      exact .send session.line exchange.packet
  | collected stage =>
      rw [taking?_of_ne_reading (by simp [stage])]
      exact .refl session.line
  | cleared stage =>
      rw [taking?_of_ne_reading (by simp [stage])]
      exact .refl session.line
  | asked stage =>
      rw [taking?_of_ne_reading (by simp [stage])]
      exact .refl session.line
  | listened _ inbox =>
      rw [taking?_of_empty inbox]
      exact .refl session.line
  | expired overdue =>
      rw [taking?_of_overdue overdue]
      exact .refl session.line
  | silenced stage inbox => exact goes_take stage inbox
  | broken stage inbox => exact goes_take stage inbox
  | garbled stage inbox => exact goes_take stage inbox
  | answered stage inbox => exact goes_take stage inbox
  | routed stage inbox => exact goes_take stage inbox
  | dropped stage inbox => exact goes_take stage inbox

theorem step?_advance (exchange : Exchange) (session : Session) :
    (exchange.advance session).1.step? (exchange.advance session).2 = none := by
  induction exchange, session using advance.induct with
  | case1 exchange session idle =>
      rw [advance_of_idle idle]
      exact idle
  | case2 exchange session next after step ih =>
      rw [advance_of_step step]
      exact ih

def steps : Nat → Exchange → Session → (Exchange × Session) × List Taking
  | 0, exchange, session => ((exchange, session), [])
  | count + 1, exchange, session =>
      match exchange.step? session with
      | none => ((exchange, session), [])
      | some (next, after) =>
          let others := steps count next after
          (others.1, (exchange.taking? session).toList ++ others.2)

theorem eq_steps {count : Nat} {exchange : Exchange} {session : Session}
    (done : (steps count exchange session).1.1.step? (steps count exchange session).1.2 = none) :
    exchange.advance session = (steps count exchange session).1 ∧
      exchange.takings session = (steps count exchange session).2 := by
  induction count generalizing exchange session with
  | zero => exact ⟨advance_of_idle done, takings_of_idle done⟩
  | succ count ih =>
      unfold steps at done ⊢
      split
      · next idle => exact ⟨advance_of_idle idle, takings_of_idle idle⟩
      · next step =>
          rw [step] at done
          rw [advance_of_step step, takings_of_step step]
          exact ⟨(ih done).1, congrArg _ (ih done).2⟩

def pollSteps (count : Nat) (exchange : Exchange) (session : Session) :
    (Exchange × Session) × List Taking :=
  steps count (exchange.resume session).1 (exchange.resume session).2

theorem poll_eq_pollSteps {count : Nat} {exchange : Exchange} {session : Session}
    (done : ((pollSteps count exchange session).1.1.step?
      (pollSteps count exchange session).1.2).isNone) :
    exchange.poll session = (pollSteps count exchange session).1 ∧
      exchange.polled session = (pollSteps count exchange session).2 :=
  eq_steps (Option.isNone_iff_eq_none.mp done)

section

variable {exchange : Exchange} {session : Session}

theorem poll_keeps (Good : Exchange → Session → Prop)
    (keeps : ∀ {exchange session next after}, Good exchange session →
      Move exchange session next after → Good next after)
    (good : Good (exchange.resume session).1 (exchange.resume session).2) :
    Good (exchange.poll session).1 (exchange.poll session).2 :=
  advance_keeps (fun exchange session _ => Good exchange session) keeps [] good

end

theorem poll_same (exchange : Exchange) (session : Session) :
    (exchange.poll session).1.ticket = exchange.ticket ∧
      (exchange.poll session).1.requestId = exchange.requestId ∧
      (exchange.poll session).2.nextTicket = session.nextTicket ∧
      (exchange.poll session).2.nextId = session.nextId := by
  refine poll_keeps (fun next after => next.ticket = exchange.ticket ∧
    next.requestId = exchange.requestId ∧ after.nextTicket = session.nextTicket ∧
    after.nextId = session.nextId) ?_ ?_
  · intro next after later last same move
    rw [move.same.1, move.same.2, move.nextTicket, move.nextId]
    exact same
  · obtain ⟨stage, listener, resumed, -⟩ := exchange.resume_eq session
    rw [resumed]
    exact ⟨rfl, rfl, rfl, rfl⟩

theorem poll_goes (exchange : Exchange) (session : Session) : session.line.Goes
    ((exchange.polled session).map Taking.delivery) (exchange.poll session).2.line := by
  have begins : (exchange.resume session).2.line = session.line := by
    obtain ⟨stage, listener, resumed, -⟩ := exchange.resume_eq session
    rw [resumed]
  refine advance_keeps
    (fun _ after log => session.line.Goes (log.map Taking.delivery) after.line) ?_ []
    (begins ▸ .refl session.line)
  intro next after log later last goes move
  rw [List.map_append]
  exact goes.trans move.goes

theorem requestId_poll (exchange : Exchange) (session : Session) :
    (exchange.poll session).1.requestId = exchange.requestId :=
  (exchange.poll_same session).2.1

end Exchange
end RoadsideSnmp
