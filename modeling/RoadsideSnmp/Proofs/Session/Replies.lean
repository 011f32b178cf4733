import RoadsideSnmp.Proofs.Ber.Yields
import RoadsideSnmp.Proofs.Session.Takings

/-! Replies come from the line. Whatever a session is like when a request begins, the reply that
ends it was read from octets: a mailbox is emptied before the first attempt is sent, and only what
has been read is put into one. -/
namespace RoadsideSnmp

/-- The message is what some octets read as. -/
def Message.IsDecoded (message : Message) : Prop := ∃ octets, decode octets = .ok message

def Message.IsReply (reply : Except Failure Message) : Prop :=
  ∀ message, reply = .ok message → message.IsDecoded

theorem Session.isDecoded_of_unpack {session : Session} {octets : Octets} {message : Message}
    {damaged : Bool} (unpacked : session.unpack octets = (.ok message, damaged)) :
    message.IsDecoded := by
  unfold unpack at unpacked
  split at unpacked
  · exact ⟨octets, (Prod.mk.inj unpacked).1⟩
  split at unpacked
  · exact ⟨_, (Prod.mk.inj unpacked).1⟩
  · simp at unpacked

theorem Message.isReply_error (failure : Failure) : IsReply (.error failure) := by
  intro message same
  simp at same

theorem Message.isReply_outcome {message : Message} (decoded : message.IsDecoded) :
    IsReply message.outcome := by
  intro reply same
  obtain ⟨-, -, rfl⟩ := map_eq_ok_iff.mp (mapError_eq_ok_iff.mp same)
  exact decoded

namespace Exchange

/-- From the first attempt on, what is in the mailbox of the request has been read; and so has its
reply. -/
structure Honest (exchange : Exchange) (session : Session) : Prop where
  mail : exchange.stage ≠ .sending → ∀ letter ∈ session.mail, letter.1 = exchange.ticket →
    letter.2.IsDecoded
  result : ∀ result, exchange.result? = some result → Message.IsReply result

namespace Honest

variable {exchange next : Exchange} {session after : Session}

theorem vacated (ticket : next.ticket = exchange.ticket)
    (result : ∀ result, next.result? = some result → Message.IsReply result)
    (listener : Option Ticket) (woken : List Ticket) :
    Honest next (exchange.vacated session listener woken) := by
  refine ⟨fun _ letter sent own => ?_, result⟩
  have others := (List.mem_filter.mp sent).2
  simp [own, ticket] at others

theorem finished {result : Except Failure Message} (reply : Message.IsReply result)
    (listener : Option Ticket) (woken : List Ticket) :
    Honest (exchange.finish result) (exchange.vacated session listener woken) := by
  refine vacated rfl (fun other same => ?_) listener woken
  obtain rfl := Option.some.inj same
  exact reply

theorem failed (failure : Failure) (retries : Nat) (listener : Option Ticket)
    (woken : List Ticket) :
    Honest (exchange.failed failure retries) (exchange.vacated session listener woken) := by
  unfold Exchange.failed
  split
  · exact vacated rfl (fun _ same => by simp [result?] at same) listener woken
  · exact finished (Message.isReply_error failure) listener woken

theorem restage (honest : Honest exchange session) (sent : exchange.stage ≠ .sending)
    (stage : Stage) (inside : stage.isInside) (mail : after.mail = session.mail) :
    Honest { exchange with stage } after := by
  constructor
  · rw [mail]
    exact fun _ => honest.mail sent
  · intro result same
    unfold result? at same
    cases stage <;> simp [Stage.isInside] at inside same

theorem move (honest : Honest exchange session) (move : exchange.Move session next after) :
    Honest next after := by
  cases move with
  | sent =>
      refine ⟨fun _ letter sent own => ?_, fun _ same => by simp [result?] at same⟩
      have others := (List.mem_filter.mp sent).2
      simp [own] at others
  | refused => exact finished (Message.isReply_error _) _ _
  | collected stage found =>
      exact finished (Message.isReply_outcome (honest.mail (by simp [stage]) _ found rfl)) _ _
  | broken => exact finished (Message.isReply_error _) _ _
  | answered _ _ unpacked =>
      exact finished (Message.isReply_outcome (Session.isDecoded_of_unpack unpacked)) _ _
  | garbled => exact failed _ _ _ _
  | expired => exact failed _ _ _ _
  | cleared stage => exact honest.restage (by simp [stage]) .asking rfl rfl
  | asked stage =>
      refine honest.restage (by simp [stage]) _ ?_ rfl
      split <;> rfl
  | listened stage => exact honest.restage (by simp [stage]) .listening rfl rfl
  | silenced stage => exact honest.restage (by simp [stage]) .muted rfl rfl
  | dropped stage => exact honest.restage (by simp [stage]) .checking rfl rfl
  | routed stage _ unpacked =>
      refine ⟨fun _ letter sent own => ?_, fun _ same => by simp [result?] at same⟩
      obtain rfl | earlier := List.mem_cons.mp sent
      · exact Session.isDecoded_of_unpack unpacked
      · exact honest.mail (by simp [stage]) letter earlier own

theorem poll (honest : Honest exchange session) :
    Honest (exchange.poll session).1 (exchange.poll session).2 := by
  refine poll_keeps Honest (fun honest move => honest.move move) ?_
  obtain ⟨stage, listener, resumed, change⟩ := exchange.resume_eq session
  rw [resumed]
  obtain rfl | ⟨waiting, rfl⟩ | ⟨listening, rfl⟩ := change
  · exact ⟨honest.mail, honest.result⟩
  · exact honest.restage (by simp [waiting]) .checking rfl rfl
  · exact honest.restage (by simp [listening]) .reading rfl rfl

theorem await (honest : Honest exchange session) (deadlines : Nat) :
    Message.IsReply (Session.await deadlines exchange session).1 := by
  induction deadlines generalizing exchange session with
  | zero =>
      unfold Session.await
      cases result : exchange.result? with
      | none => exact Message.isReply_error _
      | some reply => exact honest.result reply result
  | succ deadlines ih =>
      unfold Session.await
      split
      · next reply result => exact honest.result reply result
      · have later : Honest exchange (session.leapTo exchange.deadline) :=
          ⟨honest.mail, honest.result⟩
        exact ih later.poll

end Honest
end Exchange

theorem Session.isReply_request (message : Message) (session : Session) :
    Message.IsReply (session.request message).1 := by
  unfold request
  split
  · exact Message.isReply_error _
  · next exchange after begun =>
      have stage := (Session.begins begun).stage
      have fresh : Exchange.Honest exchange after :=
        ⟨fun sent => absurd stage sent, fun _ same => by simp [Exchange.result?, stage] at same⟩
      exact fresh.poll.await _

end RoadsideSnmp
