import RoadsideSnmp.Proofs.Session.Takings

/-! Attempts run out. A poll at its deadline ends an attempt, and none comes after the last; so
whoever waits from deadline to deadline waits for no more of them than there are attempts. -/
namespace RoadsideSnmp

theorem Session.now_leapTo (session : Session) (time : Nat) :
    (session.leapTo time).now = Timer.leap session.now time :=
  Nat.max_eq_right (Timer.le_leap _ _)

theorem Session.le_now_leapTo (session : Session) (time : Nat) :
    time ≤ (session.leapTo time).now := by
  rw [now_leapTo]
  exact Nat.le_trans (Timer.le_rings time) (Timer.rings_le_leap _ _)

namespace Exchange

variable {first exchange next : Exchange} {session after : Session}

theorem Move.now (move : exchange.Move session next after) : after.now = session.now := by
  cases move <;> rfl

theorem attempt_failed_le (failure : Failure) {retries : Nat} (few : exchange.attempt ≤ retries) :
    (exchange.failed failure retries).attempt ≤ retries := by
  unfold failed
  split
  · next more => exact more
  · exact few

theorem Move.attempt_le (move : exchange.Move session next after)
    (few : exchange.attempt ≤ session.config.retries) :
    next.attempt ≤ session.config.retries := by
  cases move with
  | garbled => exact attempt_failed_le _ few
  | expired => exact attempt_failed_le _ few
  | _ => exact few

def Since (first next : Exchange) : Prop :=
  next.result? ≠ none ∨ first.attempt < next.attempt ∨
    next.attempt = first.attempt ∧ next.deadline = first.deadline ∧ next.stage.isInside

theorem Since.restage (since : first.Since exchange) (unfinished : exchange.result? = none)
    {stage : Stage} (inside : stage.isInside) : first.Since { exchange with stage } := by
  rcases since with closed | later | ⟨attempt, deadline, -⟩
  · exact absurd unfinished closed
  · exact .inr (.inl later)
  · exact .inr (.inr ⟨attempt, deadline, inside⟩)

theorem Since.failed (since : first.Since exchange) (unfinished : exchange.result? = none)
    (failure : Failure) (retries : Nat) : first.Since (exchange.failed failure retries) := by
  have before : first.attempt ≤ exchange.attempt := by
    rcases since with closed | later | ⟨attempt, -⟩
    · exact absurd unfinished closed
    · exact Nat.le_of_lt later
    · exact Nat.le_of_eq attempt.symm
  unfold Exchange.failed
  split
  · exact .inr (.inl (Nat.lt_succ_of_le before))
  · exact .inl (by simp [finish, result?])

theorem Since.move (since : first.Since exchange) (move : exchange.Move session next after) :
    first.Since next := by
  have unfinished := move.unfinished
  cases move with
  | sent stage =>
      rcases since with closed | later | ⟨-, -, inside⟩
      · exact absurd unfinished closed
      · exact .inr (.inl later)
      · simp [stage, Stage.isInside] at inside
  | refused => exact .inl (by simp [finish, result?])
  | collected => exact .inl (by simp [finish, result?])
  | broken => exact .inl (by simp [finish, result?])
  | answered => exact .inl (by simp [finish, result?])
  | garbled => exact since.failed unfinished _ _
  | expired => exact since.failed unfinished _ _
  | cleared => exact since.restage unfinished rfl
  | asked =>
      refine since.restage unfinished ?_
      split <;> rfl
  | listened => exact since.restage unfinished rfl
  | silenced => exact since.restage unfinished rfl
  | routed => exact since.restage unfinished rfl
  | dropped => exact since.restage unfinished rfl

theorem lt_deadline_of_idle (idle : exchange.step? session = none)
    (unfinished : exchange.result? = none) :
    exchange.stage.isInside ∧ session.now < exchange.deadline := by
  unfold step? at idle
  unfold result? at unfinished
  cases stage : exchange.stage <;> simp_all [Stage.isInside]

theorem config_poll (exchange : Exchange) (session : Session) :
    (exchange.poll session).2.config = session.config := by
  refine poll_keeps (fun _ after => after.config = session.config)
    (fun same move => move.config.trans same) ?_
  obtain ⟨stage, listener, resumed, -⟩ := exchange.resume_eq session
  rw [resumed]

theorem now_poll (exchange : Exchange) (session : Session) :
    (exchange.poll session).2.now = session.now := by
  refine poll_keeps (fun _ after => after.now = session.now)
    (fun same move => move.now.trans same) ?_
  obtain ⟨stage, listener, resumed, -⟩ := exchange.resume_eq session
  rw [resumed]

theorem attempt_poll_le (few : exchange.attempt ≤ session.config.retries) :
    (exchange.poll session).1.attempt ≤ session.config.retries := by
  rw [← config_poll exchange session]
  refine poll_keeps (fun next after => next.attempt ≤ after.config.retries) ?_ ?_
  · intro exchange session next after few move
    rw [move.config]
    exact move.attempt_le few
  · obtain ⟨stage, listener, resumed, -⟩ := exchange.resume_eq session
    rw [resumed]
    exact few

theorem since_poll (inside : exchange.stage.isInside) :
    exchange.Since (exchange.poll session).1 := by
  refine poll_keeps (fun next _ => exchange.Since next) (fun since move => since.move move) ?_
  have still := exchange.isInside_resume session
  obtain ⟨stage, listener, resumed, -⟩ := exchange.resume_eq session
  rw [resumed] at still ⊢
  exact .inr (.inr ⟨rfl, rfl, still.trans inside⟩)

theorem lt_deadline_poll (unfinished : (exchange.poll session).1.result? = none) :
    (exchange.poll session).1.stage.isInside ∧
      session.now < (exchange.poll session).1.deadline := by
  rw [← now_poll exchange session]
  exact lt_deadline_of_idle (step?_advance _ _) unfinished

theorem attempt_lt_poll (inside : exchange.stage.isInside) (late : exchange.deadline ≤ session.now)
    (unfinished : (exchange.poll session).1.result? = none) :
    exchange.attempt < (exchange.poll session).1.attempt := by
  rcases since_poll inside with closed | later | ⟨-, deadline, -⟩
  · exact absurd unfinished closed
  · exact later
  · -- in the same attempt the deadline is the same, and a poll does not stop behind it
    have early := (lt_deadline_poll unfinished).2
    rw [deadline] at early
    exact absurd late (Nat.not_le_of_lt early)

end Exchange

theorem Session.await_of_result {exchange : Exchange} {result : Except Failure Message}
    (deadlines : Nat) (session : Session) (ended : exchange.result? = some result) :
    await deadlines exchange session = (result, session) := by
  cases deadlines with
  | zero => rw [await, ended, Option.getD_some]
  | succ deadlines => rw [await, ended]

end RoadsideSnmp
