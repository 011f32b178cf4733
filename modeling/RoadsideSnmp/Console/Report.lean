import RoadsideSnmp.Binding.Text
import RoadsideSnmp.Console.Json
import RoadsideSnmp.Console.Names
import RoadsideSnmp.ProtocolVersion
import RoadsideSnmp.Session

/-! What the tools print about the bindings they were given: a line for each, or one document for
a program to read. Octet strings are shown as text if every octet can be seen on a terminal. -/
namespace RoadsideSnmp.Console

structure Shown where
  typeName : String
  value : Json
  /-- For people, where it differs from the value. -/
  reading : Option String
  rawHex : Option String

namespace Shown

def plain (typeName : String) (value : Json) : Shown := ⟨typeName, value, none, none⟩

def hex (typeName : String) (content : Octets) : Shown :=
  ⟨typeName, .text content.hex, some content.spacedHex, some content.hex⟩

def invalid (binding : Binding) : Shown :=
  { hex (binding.type.name ++ " (invalid)") binding.content with value := .null }

def absent (typeName reading : String) : Shown := ⟨typeName, .null, some reading, none⟩

def orInvalid {α : Type} (binding : Binding) (show_ : α → Shown) :
    Except DecodeError α → Shown
  | .ok value => show_ value
  | .error _ => invalid binding

def twoDigits (number : Nat) : String :=
  String.ofList [Nat.digitChar (number / 10 % 10), Nat.digitChar (number % 10)]

/-- Hundredths of a second as days, if there are any, and a time of day. -/
def ticksText (ticks : Nat) : String :=
  let seconds := ticks / 100
  let days := seconds / 86400
  let time := ":".intercalate [twoDigits (seconds % 86400 / 3600),
    twoDigits (seconds % 3600 / 60), twoDigits (seconds % 60)]
  (if 0 < days then toString days ++ "d " else "") ++ time ++ "." ++ twoDigits (ticks % 100)

def isVisible (character : Char) : Bool :=
  (0x21 ≤ character.toNat && character.toNat ≤ 0x7E) ||
    [' ', '\t', '\n', '\x0c', '\r'].contains character

def visibleText? (content : Octets) : Option String :=
  match Utf8.decode? content with
  | some text => if text.all isVisible then some (String.ofList text) else none
  | none => none

def octetString (content : Octets) (forceHex : Bool) : Shown :=
  match (if forceHex then none else visibleText? content) with
  | some text => ⟨"STRING", .text text, none, some content.hex⟩
  | none => hex "Hex-STRING" content

def unsigned (typeName : String) (number : Nat) : Shown := plain typeName (.integer number)

def ofBinding (forceHex : Bool) (binding : Binding) : Shown :=
  match binding.type with
  | .integer => orInvalid binding (plain "INTEGER" <| .integer <| Int32.toInt ·) binding.toInt32
  | .octetString => octetString binding.content forceHex
  | .null => plain "NULL" .null
  | .objectId => orInvalid binding (fun oid =>
      { plain "OID" (.text oid.text) with
        reading := (nameOf? oid).map fun _ => oid.text ++ annotation true oid }) binding.toOid
  | .ipAddress => orInvalid binding (plain "IpAddress" <| .text <| dottedAddress ·)
      binding.toIpAddress
  | .counter32 => orInvalid binding (unsigned "Counter32" <| UInt32.toNat ·) binding.toUInt32
  | .gauge32 => orInvalid binding (unsigned "Gauge32" <| UInt32.toNat ·) binding.toUInt32
  | .timeTicks => orInvalid binding (fun ticks =>
      { unsigned "TimeTicks" ticks.toNat with
        reading := some ("(" ++ toString ticks.toNat ++ ") " ++ ticksText ticks.toNat) })
      binding.toUInt32
  | .counter64 => orInvalid binding (unsigned "Counter64" <| UInt64.toNat ·) binding.toUInt64
  | .noSuchObject => absent "NoSuchObject" "No Such Object available"
  | .noSuchInstance => absent "NoSuchInstance" "No Such Instance currently exists"
  | .endOfMibView => absent "EndOfMibView" "No more variables left in this MIB View"
  | .opaqueData => hex "Opaque" binding.content
  | other => hex ("Unknown(0x" ++ Octets.hexUpper other.tag ++ ")") binding.content

end Shown

inductive Format where
  | human
  | json
  deriving DecidableEq, Repr

structure Style where
  format : Format
  showNames : Bool
  forceHex : Bool
  showTiming : Bool
  deriving DecidableEq, Repr

structure Report where
  target : String
  version : ProtocolVersion
  bindings : List Binding
  /-- Nanoseconds that the operation took. -/
  elapsed : Option Nat
  counters : Option Counters

namespace Report

def humanLine (style : Style) (binding : Binding) : String :=
  let shown := Shown.ofBinding style.forceHex binding
  let value := match shown.reading, shown.value with
    | some reading, _ => reading
    | none, .text text => "\"" ++ text ++ "\""
    | none, .null => ""
    | none, other => other.render 0
  binding.name.text ++ annotation style.showNames binding.name ++ " = " ++ shown.typeName ++
    ": " ++ value ++ "\n"

def timingLine (elapsed : Nat) (counters : Option Counters) : String :=
  let retries := (counters.map Counters.retries).getD 0
  let suffix := if 0 < retries then " (" ++ toString retries ++ " retries)" else ""
  "\nTiming: " ++ Decimal.fixed 1 (Binary64.milliseconds elapsed).value ++ "ms" ++ suffix ++ "\n"

def human (style : Style) (report : Report) : String :=
  let timing := match report.elapsed with
    | some elapsed => if style.showTiming then timingLine elapsed report.counters else ""
    | none => ""
  String.join (report.bindings.map (humanLine style)) ++ timing

def optional (key : String) (value : Option Json) : List (String × Json) :=
  (value.map fun value => (key, value)).toList

def bindingJson (style : Style) (binding : Binding) : Json :=
  let shown := Shown.ofBinding style.forceHex binding
  .object <| [("oid", .text binding.name.text)] ++
    optional "hint" ((if style.showNames then nameOf? binding.name else none).map .text) ++
    [("type", .text shown.typeName), ("value", shown.value)] ++
    optional "formatted" (shown.reading.map .text) ++
    optional "raw_hex" (shown.rawHex.map .text)

def countersJson (counters : Counters) : Json :=
  .object [("requests", .integer counters.requests), ("responses", .integer counters.responses),
    ("timeouts", .integer counters.timeouts), ("retries", .integer counters.retries),
    ("crc_errors", .integer counters.damaged),
    ("decode_errors", .integer counters.undecodable), ("stale", .integer counters.stale)]

def json (style : Style) (report : Report) : Json :=
  .object <| [("target", .text report.target), ("version", .text report.version.name),
    ("results", .list (report.bindings.map (bindingJson style)))] ++
    optional "timing_ms" (report.elapsed.map fun elapsed =>
      .number (Binary64.milliseconds elapsed)) ++
    optional "stats" (report.counters.map countersJson)

def text (style : Style) (report : Report) : String :=
  match style.format with
  | .human => report.human style
  | .json => (report.json style).render 0 ++ "\n"

end Report
end RoadsideSnmp.Console
