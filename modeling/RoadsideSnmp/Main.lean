import RoadsideSnmp.Console.Arguments
import RoadsideSnmp.Console.Trace
import RoadsideSnmp.Pmpp.Link
import RoadsideSnmp.Session.Walk
import Std.Async.TCP
import Std.Async.Timer
import Std.Async.UDP

/-! The tools on a real network. The first argument says which one is meant: `get` reads objects
and `walk` a subtree. This module moves octets between sockets and a session and tells the session
what time it is; what is sent, when, and what a reply means is decided there. -/
namespace RoadsideSnmp.Main
open RoadsideSnmp.Console Std.Async

/-- A connected link. A receive may end without a message when its time is up. -/
structure Wire where
  peer : String
  framed : Bool
  send : Octets → IO Unit
  receive : (milliseconds : Nat) → IO (Except LinkFault (Option Octets))

def address (target : Target) : Std.Net.SocketAddress :=
  match target.host with
  | .v4 address =>
      let octet (place : Nat) := UInt8.ofNat (address / Nat.pow 256 (3 - place))
      .v4 ⟨⟨.ofFn fun place => octet place⟩, .ofNat target.service⟩
  | .v6 groups _ =>
      .v6 ⟨⟨.ofFn fun place => .ofNat (groups.getD place 0)⟩, .ofNat target.service⟩

def bytes (octets : Octets) : ByteArray := ⟨octets.toArray⟩

def within {α : Type} (milliseconds : Nat) (selector : Selector α) : IO (Option α) :=
  Async.block do
    let pause ← Selector.sleep (.ofNat milliseconds)
    Selectable.one #[
      .case selector fun outcome => pure (some outcome),
      .case pause fun _ => pure none]

def guarded {α : Type} (fault : LinkFault) (action : IO (Except LinkFault α)) :
    IO (Except LinkFault α) :=
  try action catch _ => return .error fault

def datagrams (target : Target) : IO Wire := do
  let socket ← UDP.Socket.mk
  socket.connect (address target)
  return {
    peer := target.text
    framed := false
    send := fun octets => (socket.send (bytes octets)).block
    receive := fun milliseconds => guarded .receiveFailed do
      let arrived ← within milliseconds (socket.recvSelector 65536)
      return .ok (arrived.map fun (content, _) => content.data.toList) }

/-- Reads until a frame is complete or the time is up. -/
partial def receiveFrame (socket : TCP.Socket.Client) (state : IO.Ref Pmpp.Link)
    (milliseconds : Nat) : IO (Except LinkFault (Option Octets)) := do
  let (receipt, link) := (← state.get).receive
  state.set link
  match receipt with
  | .frame octets => return .ok (some octets)
  | .fault fault => return .error fault
  | .pending =>
      match ← within milliseconds (socket.recvSelector 8192) with
      | none => return .ok none
      | some none => state.modify Pmpp.Link.close
      | some (some content) => state.modify (Pmpp.Link.feed content.data.toList)
      receiveFrame socket state milliseconds

def frames (target : Target) : IO Wire := do
  let socket ← TCP.Socket.Client.mk
  (socket.connect (address target)).block
  socket.noDelay
  let state ← IO.mkRef (Pmpp.Link.connect target.text Pmpp.Splitter.standardLimit)
  return {
    peer := target.text
    framed := true
    send := fun octets => (socket.send (bytes octets)).block
    receive := fun milliseconds =>
      guarded .receiveFailed (receiveFrame socket state milliseconds) }

def connect (carrier : Carrier) (target : Target) : IO Wire :=
  match carrier with
  | .udp => datagrams target
  | .pmppTcp => frames target

def sendFresh (wire : Wire) (before after : Session) : IO Unit :=
  (after.line.sent.take (after.line.sent.length - before.line.sent.length)).reverse.forM wire.send

/-- Carries one exchange to its end; `start` is when the session began. -/
partial def carry (wire : Wire) (start : Nat) (exchange : Exchange) (session : Session) :
    IO (Except Failure Message × Session) := do
  let polled := exchange.poll (session.advanceTo ((← IO.monoNanosNow) - start))
  let lost (fault : LinkFault) :=
    (.error (.link (some wire.peer) fault), polled.1.cancel polled.2)
  try sendFresh wire session polled.2 catch _ => return lost .sendFailed
  match polled.1.result? with
  | some result => return (result, polled.2)
  | none =>
      match ← wire.receive ((Timer.rings (polled.1.deadline - polled.2.now)) / Timer.tick) with
      | .error fault => return lost fault
      | .ok arrived =>
          let line := polled.2.line.queue (arrived.map Delivery.message).toList
          carry wire start polled.1 { polled.2 with line }

partial def converse {α : Type} (wire : Wire) (start : Nat) (session : Session) :
    Dialogue α → IO (α × Session)
  | .answer answer => return (answer, session)
  | .ask message next =>
      match session.begin message with
      | .error failure => converse wire start session (next (.error failure))
      | .ok (exchange, begun) => do
          let (reply, after) ← carry wire start exchange begun
          converse wire start after (next reply)

/-- A session over the wire; nothing arrives on its line but what is put there. -/
def openSession (settings : Settings) (station : Option Pmpp.Station) (wire : Wire)
    (nanoseconds : Nat) : Session :=
  .start ⟨settings.community, settings.version, settings.timeoutSpan, settings.retries, station⟩
    ⟨wire.peer, wire.framed, fun _ => Line.quiet, [], []⟩ nanoseconds

def dialogue (tool : Tool) (config : Config) (names : List Oid) :
    Dialogue (Except Failure (List Binding)) :=
  match tool, names with
  | .walk, [base] => Walk.all config base
  | _, names => Query.getMany config names

def complain (text : String) : IO UInt32 := do
  IO.eprint text
  return 1

def run (tool : Tool) (invocation : Invocation) (names : List Oid)
    (station : Option Pmpp.Station) (wire : Wire) : IO UInt32 := do
  let settings := invocation.settings
  if 0 < settings.verbosity then
    IO.eprint (RequestTrace.text ⟨invocation.target, settings.version, settings.community,
      station, if tool = .walk then .walk else .get, names⟩)
  let start ← IO.monoNanosNow
  let session := openSession settings station wire (start % Nat.pow 10 9)
  let (result, after) ← converse wire start session (dialogue tool session.config names)
  let elapsed := (← IO.monoNanosNow) - start
  match result with
  | .error failure => complain (errorText failure)
  | .ok bindings =>
      if 0 < settings.verbosity then
        IO.eprint (ResponseTrace.text ⟨bindings, elapsed, after.counters, !settings.noHints⟩)
      let timed {α : Type} (value : α) := if settings.timing then some value else none
      IO.print (Report.text
        ⟨settings.format, !settings.noHints, settings.hex, settings.timing⟩
        ⟨invocation.target, settings.version, bindings, timed elapsed, timed after.counters⟩)
      return 0

def perform (tool : Tool) (invocation : Invocation) : IO UInt32 := do
  match invocation.names.mapM readOid with
  | .error fault => complain ("Error: " ++ fault.message ++ "\n")
  | .ok names =>
      match invocation.settings.station with
      | .error fault => complain (errorText (.encode fault))
      | .ok station =>
          match Target.resolve usualService invocation.target with
          | .error fault =>
              complain ("Error: I/O error: " ++ unresolved invocation.target fault ++ "\n")
          | .ok target => do
              let connected ← (connect invocation.settings.carrier target).toBaseIO
              match connected with
              | .ok wire => run tool invocation names station wire
              | .error error => complain ("Error: I/O error communicating with " ++ target.text ++
                  ": " ++ toString error ++ "\n")

def usage : String :=
  "usage: get [options] TARGET OID...\n       walk [options] TARGET OID\n\n" ++
  "  -c, --community TEXT     community string [public]\n" ++
  "      --snmp-version 1|2c  protocol version [1]\n" ++
  "  -t, --timeout SECONDS    time that one attempt waits [5]\n" ++
  "  -r, --retries COUNT      resends after the first attempt [3]\n" ++
  "      --link udp|pmpp-tcp  how messages travel [udp]\n" ++
  "      --address HEX        station address, one or two octets [05]\n" ++
  "      --control HEX        control octet [03]\n" ++
  "      --pid HEX            protocol identifier, one or two octets [C1]\n" ++
  "      --format human|json  output format [human]\n" ++
  "  -v, --verbose            show the request and the counters\n" ++
  "      --timing             show the elapsed time\n" ++
  "      --hex                show all octet strings in hexadecimal\n" ++
  "      --no-hints           show no names beside identifiers\n"

def refusal : ArgumentFault → String
  | .badValue fault => "error: " ++ fault.message ++ "\n"
  | .missing => "error: a required argument is missing\n"
  | .unknown => "error: an argument is not known\n"
  | .noValue => "error: an option has no value\n"
  | .badChoice => "error: an option has none of its possible values\n"
  | .repeated => "error: an option is given more than once\n"
  | .unneededValue => "error: an option takes no value\n"
  | .help | .version => ""

def start (tool : Tool) (arguments : List String) : IO UInt32 := do
  match Invocation.ofArguments tool arguments with
  | .ok invocation => perform tool invocation
  | .error .help => IO.print usage; return 0
  | .error .version => IO.println "0.1.0"; return 0
  | .error (.badValue .insideCharacter) =>
      IO.eprintln ValueFault.insideCharacter.message
      return 101
  | .error fault => IO.eprint (refusal fault ++ "\n" ++ usage); return 2

end RoadsideSnmp.Main

def main (arguments : List String) : IO UInt32 :=
  match arguments with
  | "get" :: rest => RoadsideSnmp.Main.start .get rest
  | "walk" :: rest => RoadsideSnmp.Main.start .walk rest
  | _ => do
      IO.eprint RoadsideSnmp.Main.usage
      return 2
