import Mathlib.Data.List.Perm.Basic
import RoadsideSnmp.Proofs.Session.Order

/-! Requests whose polls overlap, as they do when several threads run them. A poll is begun, takes
its small steps one at a time and is over; between two of them other requests may take theirs.
Polls that are taken in one piece are a special case. -/
namespace RoadsideSnmp

/-- A session, the requests in the midst of a poll and the others. -/
structure Interplay where
  session : Session
  polled : List Exchange
  resting : List Exchange

namespace Interplay

def exchanges (interplay : Interplay) : List Exchange := interplay.polled ++ interplay.resting

def opening (start : Session) : Interplay := ⟨start, [], []⟩

/-- What happens in one piece; no request is given up in the midst of a poll. -/
inductive Step (interplay : Interplay) : Interplay → Prop
  | begin {message : Message} {exchange : Exchange} {session : Session}
      (begun : interplay.session.begin message = .ok (exchange, session)) :
      Step interplay { interplay with session, resting := exchange :: interplay.resting }
  | enter {exchange : Exchange} {others : List Exchange}
      (listed : interplay.resting.Perm (exchange :: others)) :
      Step interplay {
        session := (exchange.resume interplay.session).2
        polled := (exchange.resume interplay.session).1 :: interplay.polled
        resting := others }
  | move {exchange next : Exchange} {others : List Exchange} {session : Session}
      (listed : interplay.polled.Perm (exchange :: others))
      (step : exchange.step? interplay.session = some (next, session)) :
      Step interplay { interplay with session, polled := next :: others }
  | leave {exchange : Exchange} {others : List Exchange}
      (listed : interplay.polled.Perm (exchange :: others))
      (idle : exchange.step? interplay.session = none) :
      Step interplay { interplay with
        polled := others
        resting := exchange :: interplay.resting }
  | drop {exchange : Exchange} {others : List Exchange}
      (listed : interplay.resting.Perm (exchange :: others))
      (unfinished : exchange.result? = none) :
      Step interplay { interplay with
        session := exchange.cancel interplay.session
        resting := others }
  | arrive (deliveries : List Delivery) :
      Step interplay { interplay with
        session := { interplay.session with line := interplay.session.line.queue deliveries } }
  | pass (time : Nat) :
      Step interplay { interplay with session := interplay.session.advanceTo time }
  | rouse (woken : List Ticket) :
      Step interplay { interplay with session := { interplay.session with woken } }

def Reached (start : Session) : Interplay → Prop := Relation.ReflTransGen Step (opening start)

def Apart (interplay : Interplay) : Prop :=
  ((interplay.exchanges.filter (·.result?.isNone)).map Exchange.requestId).Nodup

variable {start : Session} {interplay after : Interplay} {exchange : Exchange}
  {others : List Exchange}

theorem onward_advance (exchange : Exchange) (session : Session) (polled resting : List Exchange) :
    Relation.ReflTransGen Step ⟨session, exchange :: polled, resting⟩
      ⟨(exchange.advance session).2, (exchange.advance session).1 :: polled, resting⟩ := by
  induction exchange, session using Exchange.advance.induct with
  | case1 exchange session idle =>
      rw [Exchange.advance_of_idle idle]
  | case2 exchange session next after step ih =>
      rw [Exchange.advance_of_step step]
      exact .head (.move (.refl _) step) ih

theorem onward_poll (listed : interplay.resting.Perm (exchange :: others)) :
    Relation.ReflTransGen Step interplay { interplay with
      session := (exchange.poll interplay.session).2
      resting := (exchange.poll interplay.session).1 :: others } := by
  refine .head (.enter listed) (.tail (onward_advance _ _ _ _) ?_)
  exact .leave (.refl _) (Exchange.step?_advance _ _)

inductive Act where
  | begin (message : Message)
  | enter (ticket : Ticket)
  | move (ticket : Ticket)
  | leave (ticket : Ticket)
  | pass (time : Nat)

/-- What cannot happen changes nothing. -/
def act (interplay : Interplay) : Act → Interplay
  | .begin message =>
      match interplay.session.begin message with
      | .ok (exchange, session) =>
          { interplay with session, resting := exchange :: interplay.resting }
      | .error _ => interplay
  | .enter ticket =>
      match interplay.resting.filter (·.ticket == ticket) with
      | [exchange] => {
          session := (exchange.resume interplay.session).2
          polled := (exchange.resume interplay.session).1 :: interplay.polled
          resting := interplay.resting.filter (!·.ticket == ticket) }
      | _ => interplay
  | .move ticket =>
      match interplay.polled.filter (·.ticket == ticket) with
      | [exchange] =>
          match exchange.step? interplay.session with
          | some (next, session) => { interplay with
              session
              polled := next :: interplay.polled.filter (!·.ticket == ticket) }
          | none => interplay
      | _ => interplay
  | .leave ticket =>
      match interplay.polled.filter (·.ticket == ticket) with
      | [exchange] =>
          match exchange.step? interplay.session with
          | some _ => interplay
          | none => { interplay with
              polled := interplay.polled.filter (!·.ticket == ticket)
              resting := exchange :: interplay.resting }
      | _ => interplay
  | .pass time => { interplay with session := interplay.session.advanceTo time }

theorem perm_of_filter {exchanges : List Exchange} {test : Exchange → Bool}
    (alone : exchanges.filter test = [exchange]) :
    exchanges.Perm (exchange :: exchanges.filter (!test ·)) := by
  have perm := (List.filter_append_perm test exchanges).symm
  rwa [alone] at perm

theorem step_act (interplay : Interplay) (act : Act) :
    interplay.act act = interplay ∨ interplay.Step (interplay.act act) := by
  cases act with
  | begin message =>
      unfold Interplay.act
      dsimp only
      split
      · next begun => exact .inr (.begin begun)
      · exact .inl rfl
  | enter ticket =>
      unfold Interplay.act
      dsimp only
      split
      · next alone => exact .inr (.enter (perm_of_filter alone))
      · exact .inl rfl
  | move ticket =>
      unfold Interplay.act
      dsimp only
      split
      · next alone =>
          split
          · next step => exact .inr (.move (perm_of_filter alone) step)
          · exact .inl rfl
      · exact .inl rfl
  | leave ticket =>
      unfold Interplay.act
      dsimp only
      split
      · next alone =>
          split
          · exact .inl rfl
          · next idle => exact .inr (.leave (perm_of_filter alone) idle)
      · exact .inl rfl
  | pass time => exact .inr (.pass time)

def StepApart (interplay after : Interplay) : Prop := interplay.Step after ∧ after.Apart

instance (interplay : Interplay) : Decidable interplay.Apart :=
  inferInstanceAs (Decidable (List.Nodup _))

def trail (interplay : Interplay) : List Act → List Interplay
  | [] => []
  | act :: acts => interplay.act act :: (interplay.act act).trail acts

theorem onward_acts {acts : List Act} (apart : ∀ middle ∈ interplay.trail acts, middle.Apart) :
    Relation.ReflTransGen StepApart interplay (acts.foldl act interplay) := by
  induction acts generalizing interplay with
  | nil => exact .refl
  | cons next acts ih =>
      obtain ⟨first, rest⟩ := List.forall_mem_cons.mp apart
      obtain same | step := interplay.step_act next
      · rw [same] at rest
        rw [List.foldl_cons, same]
        exact ih rest
      · exact .head ⟨step, first⟩ (ih rest)

end Interplay

/-- What can come of a session when polls are taken in one piece can come of it. -/
theorem Traffic.Reached.interplay {start : Session} {traffic : Traffic}
    (reached : Traffic.Reached start traffic) : ∃ resting,
      resting.Perm traffic.exchanges ∧ Interplay.Reached start ⟨traffic.session, [], resting⟩ := by
  induction reached with
  | refl => exact ⟨[], .refl _, .refl⟩
  | tail _ step ih =>
      obtain ⟨resting, perm, reached⟩ := ih
      cases step with
      | begin begun => exact ⟨_, perm.cons _, .tail reached (.begin begun)⟩
      | poll listed =>
          rw [listed] at perm
          refine ⟨_, List.perm_middle.symm, reached.trans (Interplay.onward_poll ?_)⟩
          exact perm.trans List.perm_middle
      | drop listed unfinished =>
          rw [listed] at perm
          exact ⟨_, .refl _, .tail reached (.drop (perm.trans List.perm_middle) unfinished)⟩
      | arrive deliveries => exact ⟨resting, perm, .tail reached (.arrive deliveries)⟩
      | pass time => exact ⟨resting, perm, .tail reached (.pass time)⟩
      | rouse woken => exact ⟨resting, perm, .tail reached (.rouse woken)⟩

end RoadsideSnmp
