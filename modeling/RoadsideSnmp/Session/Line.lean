import RoadsideSnmp.Octets

/-! The line to one agent, seen from this end. What the agent does about a message depends on all
the messages that it has been sent, and what it puts on the line stays there until it is taken. -/
namespace RoadsideSnmp

inductive Delivery where
  | message (octets : Octets)
  /-- Whoever takes this one gets nothing and waits on. -/
  | silence
  | fault
  deriving DecidableEq, Repr

structure Reaction where
  deliveries : List Delivery
  /-- The sender is told that the message did not go out. -/
  refused : Bool
  deriving DecidableEq, Repr

structure Line where
  peer : String
  /-- Messages travel in frames for one station. -/
  framed : Bool
  /-- The reaction to the newest message, given all of them, the newest first. -/
  agent : List Octets → Reaction
  inbox : List Delivery
  /-- The newest first. -/
  sent : List Octets

namespace Line

def quiet : Reaction := ⟨[], false⟩

/-- An agent that reacts to the first message with the first reaction, and so on. -/
def scripted (script : List Reaction) (sent : List Octets) : Reaction :=
  script.getD (sent.length - 1) quiet

def send (packet : Octets) (line : Line) : Bool × Line :=
  let sent := packet :: line.sent
  let reaction := line.agent sent
  (reaction.refused, { line with sent, inbox := line.inbox ++ reaction.deliveries })

def take (line : Line) : Line := { line with inbox := line.inbox.tail }

def queue (deliveries : List Delivery) (line : Line) : Line :=
  { line with inbox := line.inbox ++ deliveries }

@[simp] theorem inbox_take (line : Line) : line.take.inbox = line.inbox.tail := rfl

@[simp] theorem sent_send (packet : Octets) (line : Line) :
    (line.send packet).2.sent = packet :: line.sent := rfl

end Line
end RoadsideSnmp
