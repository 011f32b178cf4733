import RoadsideSnmp.Binding
import RoadsideSnmp.Text.Utf8

/-! A binding's value as a number, an address, a time, a name or text. Each reading writes the
value as a tagged value and reads that, so the offsets of its faults count from the value's own
tag. -/
namespace RoadsideSnmp.Binding

def integerTypes : List ValueType := [.integer, .gauge32, .counter32, .timeTicks]

def open? (binding : Binding) (accepted : List ValueType) : Except DecodeError (Cursor × Nat) :=
  if binding.type ∈ accepted then
    match Cursor.header (Cursor.ofOctets binding.toTlv) with
    | (.ok (_, count), cursor) => .ok (cursor, count)
    | (.error error, _) => .error error
  else .error ⟨0, .unexpectedTag ((accepted.head?.map ValueType.tag).getD 0) binding.type.tag⟩

def toInt32 (binding : Binding) : Except DecodeError Int32 := do
  let (cursor, count) ← binding.open? integerTypes
  (Cursor.integerContent count).run cursor

/-- Also for a signed type the content is read as an unsigned number. -/
def toUInt32 (binding : Binding) : Except DecodeError UInt32 := do
  let (cursor, count) ← binding.open? integerTypes
  (Cursor.unsignedContent count).run cursor

def toUInt64 (binding : Binding) : Except DecodeError UInt64 :=
  if binding.type = .counter64 then do
    let (cursor, count) ← binding.open? [.counter64]
    (Cursor.counter64Content count).run cursor
  else binding.toUInt32.map UInt32.toUInt64

def toIpAddress (binding : Binding) : Except DecodeError Octets := do
  let _ ← binding.open? [.ipAddress]
  Cursor.ipAddress.run (Cursor.ofOctets binding.toTlv)

def toOid (binding : Binding) : Except DecodeError Oid := do
  let _ ← binding.open? [.objectId]
  Cursor.objectId.run (Cursor.ofOctets binding.toTlv)

def toOctets (binding : Binding) : Except DecodeError Octets := do
  let _ ← binding.open? [.octetString, .opaqueData]
  return binding.content

/-- Seconds since the beginning of 1970. -/
def toSeconds (binding : Binding) : Except DecodeError Nat := binding.toUInt32.map UInt32.toNat

/-- Milliseconds, for a number of hundredths of a second. -/
def toMilliseconds (binding : Binding) : Except DecodeError Nat :=
  binding.toUInt32.map fun ticks => ticks.toNat * 10

/-- Whatever does not read as an integer is false. -/
def toBool (binding : Binding) : Bool :=
  match binding.toInt32 with
  | .ok number => number ≠ 0
  | .error _ => false

def toText (binding : Binding) : String := Utf8.decodeLossy binding.content

end RoadsideSnmp.Binding
