import RoadsideSnmp.Ber.Length
import RoadsideSnmp.Ber.Number
import RoadsideSnmp.Ber.Tag
import RoadsideSnmp.Oid.Content

/-! Reading tagged values from octets. A cursor stands inside one string or inside the content of
a constructed value; it never sees beyond that content, and its offsets count in the outermost
string. A reading gives a result and the cursor behind what it took; a reading that fails gives
the cursor where it stopped, so a caller may go on from there. -/
namespace RoadsideSnmp

structure Cursor where
  /-- Where the readable octets begin in the outermost string. -/
  base : Nat
  taken : Nat
  rest : Octets
  deriving DecidableEq, Repr

def Reading (α : Type) : Type := Cursor → Except DecodeError α × Cursor

namespace Reading

instance : Monad Reading where
  pure result := fun cursor => (.ok result, cursor)
  bind reading next := fun cursor =>
    match reading cursor with
    | (.ok result, cursor) => next result cursor
    | (.error error, cursor) => (.error error, cursor)

theorem bind_ok {α β : Type} {reading : Reading α} {next : α → Reading β} {cursor after : Cursor}
    {result : α} (read : reading cursor = (.ok result, after)) :
    (reading >>= next) cursor = next result after := by
  change (match reading cursor with
    | (.ok result, cursor) => next result cursor
    | (.error error, cursor) => (.error error, cursor)) = _
  rw [read]

theorem bind_error {α β : Type} {reading : Reading α} {next : α → Reading β}
    {cursor after : Cursor} {error : DecodeError} (read : reading cursor = (.error error, after)) :
    (reading >>= next) cursor = (.error error, after) := by
  change (match reading cursor with
    | (.ok result, cursor) => next result cursor
    | (.error error, cursor) => (.error error, cursor)) = _
  rw [read]

def run {α : Type} (reading : Reading α) (cursor : Cursor) : Except DecodeError α :=
  (reading cursor).1

def lift {α : Type} (result : Except DecodeError α) : Reading α := fun cursor => (result, cursor)

end Reading

namespace Cursor

def ofOctets (octets : Octets) : Cursor := ⟨0, 0, octets⟩

def offset (cursor : Cursor) : Nat := cursor.base + cursor.taken

def remaining (cursor : Cursor) : Nat := cursor.rest.length

def isEmpty (cursor : Cursor) : Bool := cursor.rest.isEmpty

def peek? (cursor : Cursor) : Option UInt8 := cursor.rest.head?

def advance (cursor : Cursor) (count : Nat) : Cursor :=
  { cursor with taken := cursor.taken + count, rest := cursor.rest.drop count }

def fail {α : Type} (fault : DecodeFault) : Reading α := fun cursor =>
  (.error ⟨cursor.offset, fault⟩, cursor)

def position : Reading Nat := fun cursor => (.ok cursor.offset, cursor)

def octet : Reading UInt8 := fun cursor =>
  match cursor.rest with
  | [] => fail .truncated cursor
  | first :: _ => (.ok first, cursor.advance 1)

def length : Reading Nat := fun cursor =>
  match Ber.Length.decode cursor.rest cursor.offset with
  | .ok (length, width) => (.ok length, cursor.advance width)
  | .error error => (.error error, cursor)

def octets (count : Nat) : Reading Octets := fun cursor =>
  if cursor.remaining < count then fail (.insufficient count cursor.remaining) cursor
  else (.ok (cursor.rest.take count), cursor.advance count)

def require (count : Nat) (fault : (available : Nat) → DecodeFault) : Reading Unit := fun cursor =>
  if cursor.remaining < count then fail (fault cursor.remaining) cursor else (.ok (), cursor)

def expectTag (expected : UInt8) : Reading Nat := fun cursor =>
  match cursor.rest with
  | [] => fail .truncated cursor
  | actual :: _ =>
      if actual ≠ expected then fail (.unexpectedTag expected actual) cursor
      else (do
        let count ← length
        require count (.insufficient count)
        return count : Reading Nat) (cursor.advance 1)

def header : Reading (UInt8 × Nat) := do
  let tag ← octet
  let count ← length
  require count fun _ => .overflow
  return (tag, count)

def inner (count : Nat) : Reading Cursor := fun cursor =>
  match octets count cursor with
  | (.ok content, after) => (.ok ⟨cursor.offset, 0, content⟩, after)
  | (.error error, after) => (.error error, after)

def constructed (tag : UInt8) : Reading Cursor := do
  let count ← expectTag tag
  inner count

def sequence : Reading Cursor := constructed Ber.Tag.sequence

/-- Reads inside a constructed value; what is left in there is dropped. -/
def nested {α : Type} (outer : Reading Cursor) (content : Reading α) : Reading α := do
  let cursor ← outer
  Reading.lift (content.run cursor)

def integerContent (count : Nat) : Reading Int32 :=
  if count = 0 then fail .emptyInteger
  else do
    let content ← octets count
    return Ber.Number.toInt32 content

def integer : Reading Int32 := do
  let count ← expectTag Ber.Tag.integer
  integerContent count

def unsignedContent (count : Nat) : Reading UInt32 :=
  if count = 0 then fail .emptyInteger
  else do
    let content ← octets count
    return Ber.Number.toUInt32 content

def unsigned (tag : UInt8) : Reading UInt32 := do
  let count ← expectTag tag
  unsignedContent count

/-- At most nine octets: eight, and one in front that keeps the number from reading as negative. -/
def counter64Content (count : Nat) : Reading UInt64 :=
  if count = 0 then fail .emptyInteger
  else if 9 < count then fail (.counter64TooLong count)
  else do
    let content ← octets count
    return Ber.Number.toUInt64 content

def counter64 (tag : UInt8) : Reading UInt64 := do
  let count ← expectTag tag
  counter64Content count

def octetString : Reading Octets := do
  let count ← expectTag Ber.Tag.octetString
  octets count

def null : Reading Unit := do
  let count ← expectTag Ber.Tag.null
  if count ≠ 0 then fail .nullWithContent

def objectId : Reading Oid := do
  let count ← expectTag Ber.Tag.objectId
  let start ← position
  let content ← octets count
  Reading.lift ((Oid.ofContent content).mapError (·.shift start))

def ipAddress : Reading Octets := do
  let count ← expectTag Ber.Tag.ipAddress
  if count ≠ 4 then fail (.addressLength count)
  octets 4

def tlv : Reading Octets := fun start =>
  match header start with
  | (.ok (_, count), inside) =>
      let stop := inside.advance count
      (.ok (start.rest.take (stop.taken - start.taken)), stop)
  | (.error error, after) => (.error error, after)

def skip : Reading Unit := do
  let _ ← tlv
  return ()

end Cursor
end RoadsideSnmp
