import RoadsideSnmp.Proofs.Session.Takings

/-! A request that is answered at once. On a line with nothing on it and nobody else's turn, a
reply that is there as soon as the message has been sent is the first thing read, and the request
is settled without any time passing. -/
namespace RoadsideSnmp

structure Session.Quiet (session : Session) : Prop where
  turns : session.turns = []
  inbox : session.line.inbox = []

namespace Exchange

/-- How far a request has come whose reply is on the line as soon as it is sent. -/
def Prompt (sent : List Octets) (octets : Octets) (reply : Message) (exchange : Exchange)
    (session : Session) : Prop :=
  match exchange.stage with
  | .sending => session.Quiet ∧ session.line.sent = sent
  | .checking => session.turns = [] ∧ session.line.inbox = [.message octets] ∧
      session.line.sent = exchange.packet :: sent ∧
      (∀ letter ∈ session.mail, letter.1 ≠ exchange.ticket) ∧
      (exchange.requestId, exchange.ticket) ∈ session.pending
  | .asking => session.turns = [] ∧ session.line.inbox = [.message octets] ∧
      session.line.sent = exchange.packet :: sent
  | .reading => session.turns = [exchange.ticket] ∧ session.line.inbox = [.message octets] ∧
      session.line.sent = exchange.packet :: sent
  | .finished result => result = reply.outcome ∧ session.Quiet ∧
      session.line.sent = exchange.packet :: sent
  | .waiting | .listening | .muted => False

variable {sent : List Octets} {octets : Octets} {reply : Message} {damaged : Bool}
  {exchange next : Exchange} {session after : Session}

theorem Prompt.of_reading (prompt : exchange.Prompt sent octets reply session)
    (stage : exchange.stage = .reading) : session.turns = [exchange.ticket] ∧
      session.line.inbox = [.message octets] ∧ session.line.sent = exchange.packet :: sent := by
  simpa only [Prompt, stage] using prompt

theorem Prompt.same (prompt : exchange.Prompt sent octets reply session)
    (unpacked : session.unpack octets = (.ok reply, damaged)) (stage : exchange.stage = .reading)
    {taken : Octets} {rest : List Delivery} {result : Except DecodeError Message × Bool}
    (inbox : session.line.inbox = .message taken :: rest)
    (read : session.unpack taken = result) : result = (.ok reply, damaged) := by
  obtain ⟨rfl, -⟩ : octets = taken ∧ rest = [] := by
    simpa [(prompt.of_reading stage).2.1] using inbox
  rw [← read, unpacked]

theorem Prompt.move (prompt : exchange.Prompt sent octets reply session)
    (reacts : session.line.agent (exchange.packet :: sent) = ⟨[.message octets], false⟩)
    (unpacked : session.unpack octets = (.ok reply, damaged)) (kind : reply.kind = .response)
    (own : reply.requestId = exchange.requestId) (move : exchange.Move session next after) :
    next.Prompt sent octets reply after := by
  cases move with
  | sent stage =>
      simp only [Prompt, stage] at prompt
      obtain ⟨quiet, history⟩ := prompt
      refine ⟨quiet.turns, ?_, congrArg _ history, ?_, List.mem_cons_self⟩
      · simp [dispatched, Session.register, Line.send, quiet.inbox, history, reacts]
      · intro letter inside
        simpa using (List.mem_filter.mp inside).2
  | refused stage refused =>
      simp only [Prompt, stage] at prompt
      simp [Line.send, prompt.2, reacts] at refused
  | collected stage found =>
      simp only [Prompt, stage] at prompt
      exact absurd rfl (prompt.2.2.2.1 _ found)
  | cleared stage =>
      simp only [Prompt, stage] at prompt
      exact ⟨prompt.1, prompt.2.1, prompt.2.2.1⟩
  | asked stage joined =>
      simp only [Prompt, stage] at prompt
      obtain rfl : _ = [exchange.ticket] := by simpa [prompt.1] using joined
      rw [List.head?_cons, if_pos rfl]
      exact ⟨rfl, prompt.2⟩
  | listened stage inbox => simp [(prompt.of_reading stage).2.1] at inbox
  | silenced stage inbox => simp [(prompt.of_reading stage).2.1] at inbox
  | broken stage inbox => simp [(prompt.of_reading stage).2.1] at inbox
  | garbled stage inbox read => simpa using prompt.same unpacked stage inbox read
  | answered stage inbox read =>
      obtain ⟨rfl, rfl⟩ : _ = reply ∧ _ = damaged := by
        simpa using prompt.same unpacked stage inbox read
      obtain ⟨turns, inbox, history⟩ := prompt.of_reading stage
      refine ⟨rfl, ⟨?_, ?_⟩, history⟩
      · simp [vacated, Session.taken, Session.count, turns]
      · simp [vacated, Session.taken, Session.count, inbox]
  | routed stage inbox read _ foreign =>
      obtain ⟨rfl, rfl⟩ : _ = reply ∧ _ = damaged := by
        simpa using prompt.same unpacked stage inbox read
      exact absurd own foreign
  | dropped stage inbox read unwanted =>
      obtain ⟨rfl, rfl⟩ : _ = reply ∧ _ = damaged := by
        simpa using prompt.same unpacked stage inbox read
      exact absurd own (unwanted kind).1
  | expired overdue =>
      unfold Overdue at overdue
      unfold Prompt at prompt
      cases stage : exchange.stage <;> simp_all

theorem Move.packet (move : exchange.Move session next after) : next.packet = exchange.packet := by
  cases move with
  | garbled =>
      unfold failed
      split <;> rfl
  | expired =>
      unfold failed
      split <;> rfl
  | _ => rfl

theorem Move.requests (move : exchange.Move session next after) :
    after.counters.requests = session.counters.requests := by
  cases move <;> rfl

structure Promptly (first : Exchange) (before : Session) (octets : Octets) (reply : Message)
    (exchange : Exchange) (session : Session) : Prop where
  prompt : exchange.Prompt before.line.sent octets reply session
  packet : exchange.packet = first.packet
  requestId : exchange.requestId = first.requestId
  config : session.config = before.config
  agent : session.line.agent = before.line.agent
  requests : session.counters.requests = before.counters.requests

theorem poll_of_prompt (stage : exchange.stage = .sending) (quiet : session.Quiet)
    (reacts : session.line.agent (exchange.packet :: session.line.sent) =
      ⟨[.message octets], false⟩)
    (unpacked : session.unpack octets = (.ok reply, damaged)) (kind : reply.kind = .response)
    (own : reply.requestId = exchange.requestId) :
    (exchange.poll session).1.stage = .finished reply.outcome ∧
      Promptly exchange session octets reply (exchange.poll session).1
        (exchange.poll session).2 := by
  have settled := step?_advance (exchange.resume session).1 (exchange.resume session).2
  have whole : Promptly exchange session octets reply (exchange.poll session).1
      (exchange.poll session).2 := by
    refine poll_keeps (Promptly exchange session octets reply) ?_ ?_
    · intro middle during next after promptly move
      have reacting : during.line.agent (middle.packet :: session.line.sent) =
          ⟨[.message octets], false⟩ := by
        rw [promptly.agent, promptly.packet]
        exact reacts
      have reading : during.unpack octets = (.ok reply, damaged) := by
        rw [Session.unpack_eq_of_config promptly.config]
        exact unpacked
      refine ⟨?_, ?_, ?_, ?_, ?_, ?_⟩
      · refine promptly.prompt.move reacting reading kind ?_ move
        rw [promptly.requestId]
        exact own
      · exact move.packet.trans promptly.packet
      · exact move.same.2.trans promptly.requestId
      · exact move.config.trans promptly.config
      · exact move.agent.trans promptly.agent
      · exact move.requests.trans promptly.requests
    · have still : exchange.resume session = (exchange, session) := by simp [resume, stage]
      rw [still]
      exact ⟨by simp [Prompt, stage, quiet], rfl, rfl, rfl, rfl, rfl⟩
  refine ⟨?_, whole⟩
  -- no step is left, and at every other stage of a prompt request there is one
  have prompt := whole.prompt
  change (exchange.poll session).1.step? (exchange.poll session).2 = none at settled
  unfold step? at settled
  unfold Prompt at prompt
  cases last : (exchange.poll session).1.stage <;> simp_all

end Exchange

structure Session.Answered (session : Session) (packet : Octets) (after : Session) : Prop where
  quiet : after.Quiet
  config : after.config = session.config
  agent : after.line.agent = session.line.agent
  sent : after.line.sent = packet :: session.line.sent
  requests : after.counters.requests = session.counters.requests + 1

theorem Session.request_of_prompt {message reply : Message} {octets : Octets} {damaged : Bool}
    {session : Session} (valid : message.validate = .ok ()) (quiet : session.Quiet)
    (reacts : session.line.agent
      ((message.withRequestId (requestId session.nextId)).packet session.config.station ::
        session.line.sent) = ⟨[.message octets], false⟩)
    (unpacked : session.unpack octets = (.ok reply, damaged)) (kind : reply.kind = .response)
    (own : reply.requestId = requestId session.nextId) :
    (session.request message).1 = reply.outcome ∧
      session.Answered ((message.withRequestId (requestId session.nextId)).packet
        session.config.station) (session.request message).2 := by
  obtain ⟨⟨exchange, after⟩, begun⟩ : ∃ started, session.begin message = .ok started := by
    simp [begin, valid]
  have begins := begins begun
  have packet : exchange.packet =
      (message.withRequestId (requestId session.nextId)).packet session.config.station := by
    simp only [begin, valid, Except.ok.injEq, Prod.mk.injEq] at begun
    rw [← begun.1]
  have line : after.line = session.line := by rw [begins.after]
  have config : after.config = session.config := by rw [begins.after]
  have counted : after.counters.requests = session.counters.requests + 1 := by
    rw [begins.after]
  have still : after.Quiet := by
    rw [begins.after]
    exact ⟨quiet.turns, quiet.inbox⟩
  rw [← packet, ← line] at reacts
  rw [← Session.unpack_eq_of_config config] at unpacked
  obtain ⟨finished, promptly⟩ := Exchange.poll_of_prompt begins.stage still reacts unpacked kind
    (own.trans begins.requestId.symm)
  have prompt := promptly.prompt
  simp only [Exchange.Prompt, finished] at prompt
  have done : (exchange.poll after).1.result? = some reply.outcome := by
    rw [Exchange.result?, finished]
  rw [request, begun]
  dsimp only
  rw [await, done, ← packet]
  refine ⟨rfl, prompt.2.1, ?_, ?_, ?_, ?_⟩
  · exact promptly.config.trans config
  · rw [promptly.agent, line]
  · rw [prompt.2.2, promptly.packet, line]
  · exact promptly.requests.trans counted

end RoadsideSnmp
