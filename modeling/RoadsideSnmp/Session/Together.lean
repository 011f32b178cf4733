import RoadsideSnmp.Session.Dialogue

/-! Dialogues that share one session. All begin in order; then whoever was woken goes on, first
woken first. When nobody has reason to look again time passes to the next deadline, and the
exchanges that it ends go on in the order in which their messages were sent. -/
namespace RoadsideSnmp.Together

variable {α : Type}

def beginAll : List (Dialogue α) → Session → List (Task α) × Session
  | [], session => ([], session)
  | dialogue :: dialogues, session =>
      let begun := Task.ofDialogue dialogue session
      let others := beginAll dialogues begun.2
      (begun.1 :: others.1, others.2)

def pollOne (ticket : Ticket) : List (Task α) → Session → List (Task α) × Session
  | [], session => ([], session)
  | task :: tasks, session =>
      if task.exchange?.any (·.ticket = ticket) then
        let polled := task.poll session
        (polled.1 :: tasks, polled.2)
      else
        let others := pollOne ticket tasks session
        (task :: others.1, others.2)

def deadline? (tasks : List (Task α)) : Option Nat :=
  ((tasks.filterMap Task.exchange?).map Exchange.deadline).min?

def expired (time : Nat) (tasks : List (Task α)) : List Ticket :=
  (((tasks.filterMap Task.exchange?).filter (·.deadline ≤ time)).mergeSort
    fun a b => a.place ≤ b.place).map Exchange.ticket

/-- One poll, or one leap of time; nothing is left to do when all tasks are done. -/
def round? (tasks : List (Task α)) (session : Session) : Option (List (Task α) × Session) :=
  match session.woken with
  | ticket :: woken => some (pollOne ticket tasks { session with woken })
  | [] =>
      (deadline? tasks).map fun time =>
        let session := session.leapTo time
        (tasks, { session with woken := expired session.now tasks })

def settle : (rounds : Nat) → List (Task α) → Session → List (Task α) × Session
  | 0, tasks, session => (tasks, session)
  | rounds + 1, tasks, session =>
      match round? tasks session with
      | some (tasks, session) => settle rounds tasks session
      | none => (tasks, session)

/-- The answers in the order of the dialogues; none from a dialogue that is not over after so many
rounds. -/
def perform (rounds : Nat) (dialogues : List (Dialogue α)) (session : Session) :
    List (Option α) × Session :=
  let begun := beginAll dialogues session
  let settled := settle rounds begun.1 begun.2
  (settled.1.map Task.answer?, settled.2)

end RoadsideSnmp.Together
