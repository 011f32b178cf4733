import RoadsideSnmp.Console.Report

/-! What the tools tell beside their results when they are asked to be talkative: the request
before it is sent, the bindings of the reply with all their octets, and what went wrong. -/
namespace RoadsideSnmp.Console

inductive Operation where
  | get
  | getNext
  | walk
  deriving DecidableEq, Repr

def Operation.name : Operation → String
  | .get => "GET"
  | .getNext => "GETNEXT"
  | .walk => "WALK (GETNEXT)"

def lines (lines : List String) : String := String.join (lines.map (· ++ "\n"))

structure RequestTrace where
  target : String
  version : ProtocolVersion
  community : String
  station : Option Pmpp.Station
  operation : Operation
  names : List Oid

def stationText : Option Pmpp.Station → String
  | none => "UDP"
  | some station => "PMPP address " ++ station.address.octets.spacedHex ++ " control " ++
      Octets.hexUpper station.control ++ " pid " ++ station.protocolId.octets.spacedHex

def RequestTrace.text (trace : RequestTrace) : String :=
  lines (["--- Request ---",
    "Target:    " ++ trace.target,
    "Version:   " ++ trace.version.name,
    "Community: " ++ trace.community,
    "Link:      " ++ stationText trace.station,
    "Operation: " ++ trace.operation.name,
    "OIDs:      " ++ toString trace.names.length ++ " total"] ++
    trace.names.map (fun name => "  " ++ name.text ++ annotation true name) ++ [""])

def bindingLines (showNames : Bool) (binding : Binding) : List String :=
  let shown := Shown.ofBinding false binding
  let raw := if binding.content.isEmpty then [] else
    ["    Raw:     " ++ binding.content.spacedHex,
      "    Size:    " ++ toString binding.content.length ++ " bytes"]
  ["  " ++ binding.name.text ++ annotation showNames binding.name,
    "    Type:    " ++ shown.typeName,
    "    Value:   " ++ shown.reading.getD (shown.value.render 0)] ++ raw

structure ResponseTrace where
  bindings : List Binding
  /-- Nanoseconds that the operation took. -/
  elapsed : Nat
  counters : Counters
  showNames : Bool

def linkText (counters : Counters) : String :=
  toString counters.timeouts ++ " timeout(s), " ++ toString counters.retries ++
    " retr(ies), " ++ toString counters.damaged ++ " CRC error(s), " ++
    toString counters.stale ++ " stale"

def ResponseTrace.text (trace : ResponseTrace) : String :=
  lines (["--- Response ---",
    "Results:   " ++ toString trace.bindings.length ++ " variable(s)",
    "Time:      " ++ Decimal.fixed 2 (Binary64.milliseconds trace.elapsed).value ++ "ms",
    "Link:      " ++ linkText trace.counters, ""] ++
    trace.bindings.flatMap (bindingLines trace.showNames) ++
    (if trace.bindings.isEmpty then [] else [""]))

def errorText (failure : Failure) : String := "Error: " ++ failure.message ++ "\n"

end RoadsideSnmp.Console
