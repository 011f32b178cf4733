import RoadsideSnmp.Failure
import RoadsideSnmp.Session.Line
import RoadsideSnmp.Session.Timer

/-! A manager's session with one agent. Requests that run at the same time share the line: the one
that has the turn reads it for all, and what it reads for another goes into that one's mailbox.
Time passes only when told to. -/
namespace RoadsideSnmp

structure Config where
  community : String
  version : ProtocolVersion
  /-- Nanoseconds that one attempt waits for its reply. -/
  timeout : Nat
  /-- How often a message may be sent again. -/
  retries : Nat
  station : Option Pmpp.Station
  deriving DecidableEq, Repr

def Config.standard : Config := ⟨"public", .v1, 5000000000, 3, none⟩

structure Counters where
  requests : Nat
  responses : Nat
  timeouts : Nat
  retries : Nat
  damaged : Nat
  undecodable : Nat
  stale : Nat
  deriving DecidableEq, Repr

def Counters.zero : Counters := ⟨0, 0, 0, 0, 0, 0, 0⟩

/-- Names one request for as long as it runs; no two requests of a session have the same. -/
abbrev Ticket := Nat

structure Session where
  config : Config
  nextId : Int32
  nextTicket : Ticket
  line : Line
  now : Nat
  counters : Counters
  /-- Who awaits the reply with a number; a number is listed once. -/
  pending : List (Int32 × Ticket)
  /-- Replies that their owners have not collected. -/
  mail : List (Ticket × Message)
  /-- The first one has the turn to read the line, the others wait for theirs. -/
  turns : List Ticket
  /-- Who has found the line empty and waits for it. -/
  listener : Option Ticket
  /-- Who has reason to look again, in that order. -/
  woken : List Ticket

namespace Session

def firstId (nanoseconds : Nat) : Int32 := max (Int32.ofNat nanoseconds &&& 0x3FFFFFFF) 1

/-- A line with frames needs a station. -/
def start (config : Config) (line : Line) (nanoseconds : Nat) : Session :=
  let station := if line.framed then config.station.or (some .standard) else config.station
  { config := { config with station }
    nextId := firstId nanoseconds
    nextTicket := 0
    line
    now := 0
    counters := .zero
    pending := []
    mail := []
    turns := []
    listener := none
    woken := [] }

/-- The request number that a count stands for: positive, and 1 where the count gives 0. -/
def requestId (count : Int32) : Int32 := max (count &&& Int32.maxValue) 1

def wake (ticket : Ticket) (session : Session) : Session :=
  if ticket ∈ session.woken then session
  else { session with woken := session.woken ++ [ticket] }

def wakeAny (ticket : Option Ticket) (session : Session) : Session :=
  match ticket with
  | some ticket => session.wake ticket
  | none => session

/-- Whoever awaited the number before awaits it no longer. -/
def register (requestId : Int32) (ticket : Ticket) (session : Session) : Session :=
  { session with
    pending := (requestId, ticket) :: session.pending.filter (·.1 ≠ requestId)
    mail := session.mail.filter (·.1 ≠ ticket) }

def unregister (requestId : Int32) (ticket : Ticket) (session : Session) : Session :=
  { session with
    pending := session.pending.filter (·.1 ≠ requestId)
    mail := session.mail.filter (·.1 ≠ ticket) }

def deliver (message : Message) (owner : Ticket) (session : Session) : Session :=
  { session with
    pending := session.pending.filter (·.1 ≠ message.requestId)
    mail := (owner, message) :: session.mail }.wake owner

/-- Gives up the turn, or the place in the queue for it; who has the turn then is woken. -/
def leave (ticket : Ticket) (session : Session) : Session :=
  if session.turns.head? = some ticket then
    let turns := session.turns.tail
    { session with turns }.wakeAny turns.head?
  else { session with turns := session.turns.erase ticket }

def join (ticket : Ticket) (session : Session) : Session :=
  if ticket ∈ session.turns then session
  else { session with turns := session.turns ++ [ticket] }

def ignore (ticket : Ticket) (session : Session) : Session :=
  if session.listener = some ticket then { session with listener := none } else session

/-- Sends, and rouses whoever waits for the line. -/
def send (packet : Octets) (session : Session) : Bool × Session :=
  let sent := session.line.send packet
  (sent.1, { session with line := sent.2, listener := none }.wakeAny session.listener)

def count (change : Counters → Counters) (session : Session) : Session :=
  { session with counters := change session.counters }

def countIf (condition : Bool) (change : Counters → Counters) (session : Session) : Session :=
  if condition then session.count change else session

def advanceTo (time : Nat) (session : Session) : Session :=
  { session with now := max session.now time }

/-- Nothing happens until the timer has rung for a time. -/
def leapTo (time : Nat) (session : Session) : Session :=
  session.advanceTo (Timer.leap session.now time)

def unpack (session : Session) (octets : Octets) : Except DecodeError Message × Bool :=
  match session.config.station with
  | none => (Message.decode octets, false)
  | some _ =>
      match Pmpp.unframe octets false with
      | .ok unframed => (Message.decode unframed.payload, unframed.isDamaged)
      | .error error => (.error error, false)

end Session
end RoadsideSnmp
