import RoadsideSnmp.Session.Together

/-! Two sessions side by side. A session is only ever used by beginning requests, polling them and
giving them up while time passes; so if two sessions stay alike under each of these, they stay
alike under every operation, and every operation gives the same answers on both. -/
namespace RoadsideSnmp

/-- Two sessions that are alike remain so. `change` is what a request of the first one is in the
second. -/
structure Simulation (change : Exchange → Exchange) (Alike : Session → Session → Prop) : Prop where
  ticket : ∀ exchange, (change exchange).ticket = exchange.ticket
  deadline : ∀ exchange, (change exchange).deadline = exchange.deadline
  place : ∀ exchange, (change exchange).place = exchange.place
  result : ∀ exchange, (change exchange).result? = exchange.result?
  timeout : ∀ exchange now, (change exchange).timeout now = exchange.timeout now
  retries : ∀ {first second}, Alike first second → second.config.retries = first.config.retries
  now : ∀ {first second}, Alike first second → second.now = first.now
  woken : ∀ {first second}, Alike first second → second.woken = first.woken
  refused : ∀ {first second message failure}, Alike first second →
    first.begin message = .error failure → second.begin message = .error failure
  begun : ∀ {first second message exchange after}, Alike first second →
    first.begin message = .ok (exchange, after) →
    ∃ other, second.begin message = .ok (change exchange, other) ∧ Alike after other
  poll : ∀ {first second} exchange, Alike first second →
    ((change exchange).poll second).1 = change (exchange.poll first).1 ∧
      Alike (exchange.poll first).2 ((change exchange).poll second).2
  cancel : ∀ {first second} exchange, Alike first second →
    Alike (exchange.cancel first) ((change exchange).cancel second)
  pass : ∀ {first second} time, Alike first second →
    Alike (first.advanceTo time) (second.advanceTo time)
  rouse : ∀ {first second} woken, Alike first second →
    Alike { first with woken } { second with woken }

def Task.change {α : Type} (change : Exchange → Exchange) : Task α → Task α
  | done answer => done answer
  | running exchange next => running (change exchange) next

namespace Simulation

variable {change : Exchange → Exchange} {Alike : Session → Session → Prop}
  {first second : Session} {α : Type}

theorem leap (simulation : Simulation change Alike) (alike : Alike first second) (time : Nat) :
    Alike (first.leapTo time) (second.leapTo time) := by
  rw [Session.leapTo, Session.leapTo, simulation.now alike]
  exact simulation.pass _ alike

theorem await (simulation : Simulation change Alike) (alike : Alike first second)
    (deadlines : Nat) (exchange : Exchange) :
    (Session.await deadlines (change exchange) second).1 =
        (Session.await deadlines exchange first).1 ∧
      Alike (Session.await deadlines exchange first).2
        (Session.await deadlines (change exchange) second).2 := by
  induction deadlines generalizing exchange first second with
  | zero =>
      unfold Session.await
      rw [simulation.result, simulation.timeout, simulation.now alike]
      exact ⟨rfl, alike⟩
  | succ deadlines ih =>
      unfold Session.await
      rw [simulation.result, simulation.deadline]
      split
      · exact ⟨rfl, alike⟩
      · obtain ⟨polled, after⟩ :=
          simulation.poll exchange (simulation.leap alike exchange.deadline)
        dsimp only
        rw [polled]
        exact ih after _

theorem request (simulation : Simulation change Alike) (alike : Alike first second)
    (message : Message) : (second.request message).1 = (first.request message).1 ∧
      Alike (first.request message).2 (second.request message).2 := by
  unfold Session.request
  cases begun : first.begin message with
  | error failure =>
      rw [simulation.refused alike begun]
      exact ⟨rfl, alike⟩
  | ok started =>
      obtain ⟨exchange, after⟩ := started
      obtain ⟨other, same, alike⟩ := simulation.begun alike begun
      obtain ⟨polled, alike⟩ := simulation.poll exchange alike
      rw [same]
      dsimp only
      rw [polled, simulation.retries alike]
      exact simulation.await alike _ _

theorem perform (simulation : Simulation change Alike) (alike : Alike first second)
    (dialogue : Dialogue α) : (dialogue.perform second).1 = (dialogue.perform first).1 ∧
      Alike (dialogue.perform first).2 (dialogue.perform second).2 := by
  induction dialogue generalizing first second with
  | answer answer => exact ⟨rfl, alike⟩
  | ask message next ih =>
      obtain ⟨reply, alike⟩ := simulation.request alike message
      unfold Dialogue.perform
      dsimp only
      rw [reply]
      exact ih _ alike

/-- A poll of a dialogue that waits, given what its rest can do: so it serves both the induction over
a dialogue and the polls of a task, whose dialogue is any. -/
theorem running (simulation : Simulation change Alike) {next : Except Failure Message → Dialogue α}
    (onward : ∀ result {first second : Session}, Alike first second →
      (Task.ofDialogue (next result) second).1 =
          (Task.ofDialogue (next result) first).1.change change ∧
        Alike (Task.ofDialogue (next result) first).2 (Task.ofDialogue (next result) second).2)
    (alike : Alike first second) (exchange : Exchange) :
    ((Task.running (change exchange) next).poll second).1 =
        ((Task.running exchange next).poll first).1.change change ∧
      Alike ((Task.running exchange next).poll first).2
        ((Task.running (change exchange) next).poll second).2 := by
  obtain ⟨polled, alike⟩ := simulation.poll exchange alike
  unfold Task.poll
  dsimp only
  rw [polled, simulation.result]
  split
  · exact onward _ alike
  · exact ⟨rfl, alike⟩

theorem ofDialogue (simulation : Simulation change Alike) (alike : Alike first second)
    (dialogue : Dialogue α) :
    (Task.ofDialogue dialogue second).1 = (Task.ofDialogue dialogue first).1.change change ∧
      Alike (Task.ofDialogue dialogue first).2 (Task.ofDialogue dialogue second).2 := by
  induction dialogue generalizing first second with
  | answer answer => exact ⟨rfl, alike⟩
  | ask message next ih =>
      unfold Task.ofDialogue
      cases begun : first.begin message with
      | error failure =>
          rw [simulation.refused alike begun]
          exact ih _ alike
      | ok started =>
          obtain ⟨exchange, after⟩ := started
          obtain ⟨other, same, alike⟩ := simulation.begun alike begun
          rw [same]
          exact simulation.running (fun result _ _ alike => ih result alike) alike exchange

theorem taskPoll (simulation : Simulation change Alike) (alike : Alike first second)
    (task : Task α) : ((task.change change).poll second).1 = (task.poll first).1.change change ∧
      Alike (task.poll first).2 ((task.change change).poll second).2 := by
  cases task with
  | done answer => exact ⟨rfl, alike⟩
  | running exchange next =>
      exact simulation.running (fun _ _ _ alike => simulation.ofDialogue alike _) alike exchange

theorem within (simulation : Simulation change Alike) (alike : Alike first second)
    (limit polls : Nat) (task : Task α) :
    (Task.within limit polls (task.change change) second).1 =
        (Task.within limit polls task first).1 ∧
      Alike (Task.within limit polls task first).2
        (Task.within limit polls (task.change change) second).2 := by
  -- on the polls that are left; the time of the next is the same for both, since the task's is
  induction polls generalizing task first second with
  | zero =>
      cases task with
      | done answer => exact ⟨rfl, alike⟩
      | running exchange next => exact ⟨rfl, simulation.cancel exchange alike⟩
  | succ polls ih =>
      cases task with
      | done answer => exact ⟨rfl, alike⟩
      | running exchange next =>
          unfold Task.within Task.change
          dsimp only
          rw [simulation.now alike, simulation.deadline]
          split
          · exact ⟨rfl, simulation.cancel exchange alike⟩
          · obtain ⟨polled, alike⟩ := simulation.taskPoll
              (simulation.leap alike (min limit exchange.deadline)) (.running exchange next)
            rw [Task.change] at polled
            rw [polled]
            exact ih alike _

theorem performWithin (simulation : Simulation change Alike) (alike : Alike first second)
    (span : Nat) (dialogue : Dialogue α) :
    (dialogue.performWithin span second).1 = (dialogue.performWithin span first).1 ∧
      Alike (dialogue.performWithin span first).2 (dialogue.performWithin span second).2 := by
  obtain ⟨begun, after⟩ := simulation.ofDialogue alike dialogue
  unfold Dialogue.performWithin
  dsimp only
  rw [begun, simulation.now alike]
  exact simulation.within after _ _ _

end Simulation

namespace Together

variable {change : Exchange → Exchange} {Alike : Session → Session → Prop}
  {first second : Session} {α : Type}

theorem beginAll_alike (simulation : Simulation change Alike) (alike : Alike first second)
    (dialogues : List (Dialogue α)) :
    (beginAll dialogues second).1 = (beginAll dialogues first).1.map (Task.change change) ∧
      Alike (beginAll dialogues first).2 (beginAll dialogues second).2 := by
  induction dialogues generalizing first second with
  | nil => exact ⟨rfl, alike⟩
  | cons dialogue dialogues ih =>
      obtain ⟨begun, alike⟩ := simulation.ofDialogue alike dialogue
      obtain ⟨others, alike⟩ := ih alike
      unfold beginAll
      dsimp only
      rw [begun, others]
      exact ⟨rfl, alike⟩

theorem pollOne_alike (simulation : Simulation change Alike) (alike : Alike first second)
    (ticket : Ticket) (tasks : List (Task α)) :
    (pollOne ticket (tasks.map (Task.change change)) second).1 =
        (pollOne ticket tasks first).1.map (Task.change change) ∧
      Alike (pollOne ticket tasks first).2
        (pollOne ticket (tasks.map (Task.change change)) second).2 := by
  induction tasks with
  | nil => exact ⟨rfl, alike⟩
  | cons task tasks ih =>
      have mine : ((task.change change).exchange?.any fun other => other.ticket = ticket) =
          task.exchange?.any fun other => other.ticket = ticket := by
        cases task with
        | done => rfl
        | running exchange next => simp [Task.change, Task.exchange?, simulation.ticket]
      rw [List.map_cons]
      unfold pollOne
      rw [mine]
      split
      · obtain ⟨polled, alike⟩ := simulation.taskPoll alike task
        dsimp only
        rw [polled]
        exact ⟨rfl, alike⟩
      · dsimp only
        rw [ih.1]
        exact ⟨rfl, ih.2⟩

theorem filterMap_exchange?_change (tasks : List (Task α)) :
    (tasks.map (Task.change change)).filterMap Task.exchange? =
      (tasks.filterMap Task.exchange?).map change := by
  have one (task : Task α) : (task.change change).exchange? = task.exchange?.map change := by
    cases task <;> rfl
  rw [List.filterMap_map, List.map_filterMap]
  exact congrArg (List.filterMap · tasks) (funext one)

theorem deadline?_change (simulation : Simulation change Alike) (tasks : List (Task α)) :
    deadline? (tasks.map (Task.change change)) = deadline? tasks := by
  have same : Exchange.deadline ∘ change = Exchange.deadline := funext simulation.deadline
  rw [deadline?, filterMap_exchange?_change, List.map_map, same, deadline?]

theorem expired_change (simulation : Simulation change Alike) (time : Nat)
    (tasks : List (Task α)) :
    expired time (tasks.map (Task.change change)) = expired time tasks := by
  have ticket : Exchange.ticket ∘ change = Exchange.ticket := funext simulation.ticket
  have late : (fun exchange : Exchange => decide (exchange.deadline ≤ time)) ∘ change =
      fun exchange => decide (exchange.deadline ≤ time) :=
    funext fun exchange => by rw [Function.comp, simulation.deadline]
  rw [expired, filterMap_exchange?_change, List.filter_map, late,
    ← List.map_mergeSort fun a _ b _ => by rw [simulation.place, simulation.place], List.map_map,
    ticket, expired]

theorem settle_alike (simulation : Simulation change Alike) (alike : Alike first second)
    (rounds : Nat) (tasks : List (Task α)) :
    (settle rounds (tasks.map (Task.change change)) second).1 =
        (settle rounds tasks first).1.map (Task.change change) ∧
      Alike (settle rounds tasks first).2
        (settle rounds (tasks.map (Task.change change)) second).2 := by
  induction rounds generalizing tasks first second with
  | zero => exact ⟨rfl, alike⟩
  | succ rounds ih =>
      unfold settle round?
      rw [simulation.woken alike]
      cases first.woken with
      | cons ticket others =>
          obtain ⟨polled, alike⟩ := pollOne_alike simulation (simulation.rouse others alike)
            ticket tasks
          dsimp only
          rw [polled]
          exact ih alike _
      | nil =>
          rw [deadline?_change simulation]
          cases deadline? tasks with
          | none => exact ⟨rfl, alike⟩
          | some time =>
              have passed := simulation.leap alike time
              have late : expired (second.leapTo time).now (tasks.map (Task.change change)) =
                  expired (first.leapTo time).now tasks := by
                rw [simulation.now passed, expired_change simulation]
              dsimp only [Option.map_some]
              rw [late]
              exact ih (simulation.rouse _ passed) _

theorem perform_alike (simulation : Simulation change Alike) (alike : Alike first second)
    (rounds : Nat) (dialogues : List (Dialogue α)) :
    (perform rounds dialogues second).1 = (perform rounds dialogues first).1 ∧
      Alike (perform rounds dialogues first).2 (perform rounds dialogues second).2 := by
  have answers : Task.answer? ∘ Task.change change = (Task.answer? : Task α → Option α) :=
    funext fun task => by cases task <;> rfl
  obtain ⟨begun, alike⟩ := beginAll_alike simulation alike dialogues
  obtain ⟨settled, alike⟩ := settle_alike simulation alike rounds (beginAll dialogues first).1
  unfold perform
  dsimp only
  rw [begun, settled, List.map_map, answers]
  exact ⟨rfl, alike⟩

end Together
end RoadsideSnmp
