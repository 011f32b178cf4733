import RoadsideSnmp.Session.Exchange.Poll

/-! Operations that make one request after another. A dialogue is over with an answer, or it has a
message to send and goes on from what comes of it. Every run of a dialogue makes finitely many
requests. -/
namespace RoadsideSnmp

inductive Dialogue (α : Type) where
  | answer (answer : α)
  | ask (message : Message) (next : Except Failure Message → Dialogue α)

namespace Dialogue

def map {α β : Type} (change : α → β) : Dialogue α → Dialogue β
  | answer result => answer (change result)
  | ask message next => ask message fun reply => (next reply).map change

def request {α : Type} (message : Message) (render : Except Failure Message → α) : Dialogue α :=
  ask message fun reply => answer (render reply)

def perform {α : Type} : Dialogue α → Session → α × Session
  | answer result, session => (result, session)
  | ask message next, session =>
      let replied := session.request message
      (next replied.1).perform replied.2

@[simp] theorem perform_map {α β : Type} (change : α → β) (dialogue : Dialogue α)
    (session : Session) : (dialogue.map change).perform session =
      (change (dialogue.perform session).1, (dialogue.perform session).2) := by
  induction dialogue generalizing session with
  | answer result => rfl
  | ask message next ih => exact ih _ _

end Dialogue

inductive Task (α : Type) where
  | done (answer : α)
  | running (exchange : Exchange) (next : Except Failure Message → Dialogue α)

namespace Task

def answer? {α : Type} : Task α → Option α
  | done answer => some answer
  | running _ _ => none

def exchange? {α : Type} : Task α → Option Exchange
  | done _ => none
  | running exchange _ => some exchange

def ofDialogue {α : Type} : Dialogue α → Session → Task α × Session
  | .answer answer, session => (done answer, session)
  | .ask message next, session =>
      match session.begin message with
      | .error failure => ofDialogue (next (.error failure)) session
      | .ok (exchange, session) =>
          let polled := exchange.poll session
          match polled.1.result? with
          | some result => ofDialogue (next result) polled.2
          | none => (running polled.1 next, polled.2)

def poll {α : Type} (task : Task α) (session : Session) : Task α × Session :=
  match task with
  | done answer => (done answer, session)
  | running exchange next =>
      let polled := exchange.poll session
      match polled.1.result? with
      | some result => ofDialogue (next result) polled.2
      | none => (running polled.1 next, polled.2)

def cancel {α : Type} (task : Task α) (session : Session) : Session :=
  match task with
  | done _ => session
  | running exchange _ => exchange.cancel session

/-- Waits for the answer until a given time, and then gives the task up. Whenever the task waits, the
clock leaps, so there are no more polls than ticks. -/
def within {α : Type} (limit : Nat) : (polls : Nat) → Task α → Session → Option α × Session
  | _, done answer, session => (some answer, session)
  | 0, task, session => (none, task.cancel session)
  | polls + 1, running exchange next, session =>
      if limit ≤ session.now then (none, exchange.cancel session)
      else
        let polled := (running exchange next).poll
          (session.leapTo (min limit exchange.deadline))
        within limit polls polled.1 polled.2

end Task

def Dialogue.performWithin {α : Type} (span : Nat) (dialogue : Dialogue α) (session : Session) :
    Option α × Session :=
  let begun := Task.ofDialogue dialogue session
  let limit := Timer.rings (session.now + span)
  Task.within limit ((limit - session.now) / Timer.tick + 1) begun.1 begun.2

end RoadsideSnmp
