import RoadsideSnmp.Ber.Cursor
import RoadsideSnmp.Ber.Writer

/-! A variable binding: an object's name and its value. The value keeps its type and its content
octets; tag and length are made anew whenever it is written. -/
namespace RoadsideSnmp

structure Binding where
  name : Oid
  type : ValueType
  content : Octets
  deriving DecidableEq, Repr

namespace Cursor

def value : Reading (ValueType × Octets) := do
  let (tag, count) ← header
  let content ← octets count
  return (.ofTag tag, content)

def namedValue : Reading Binding := do
  let name ← objectId
  let (type, content) ← value
  return ⟨name, type, content⟩

def binding : Reading Binding := nested sequence namedValue

/-- Bindings up to the end. Each takes at least one octet, so the octets that are left bound
their number. -/
def bindingsUpTo : (room : Nat) → Reading (List Binding)
  | 0 => pure []
  | room + 1 => fun cursor =>
      if cursor.isEmpty then (.ok [], cursor)
      else (do
        let first ← binding
        let rest ← bindingsUpTo room
        return first :: rest : Reading (List Binding)) cursor

def bindings : Reading (List Binding) :=
  nested sequence fun cursor => bindingsUpTo cursor.remaining cursor

end Cursor

namespace Binding

def pushValue (binding : Binding) (writer : Writer) : Writer :=
  writer.pushTlv binding.type.tag binding.content

def pushAs (tag : UInt8) (binding : Binding) (writer : Writer) : Writer :=
  writer.pushConstructed tag fun writer => (binding.pushValue writer).pushOid binding.name

def push (binding : Binding) (writer : Writer) : Writer :=
  binding.pushAs Ber.Tag.sequence writer

/-- The last binding is pushed first, since a later push lands in front. -/
def pushAll (bindings : List Binding) (writer : Writer) : Writer :=
  writer.pushSequence fun writer => bindings.foldr push writer

def toTlv (binding : Binding) : Octets := Writer.written binding.pushValue

def toSequenceAs (tag : UInt8) (binding : Binding) : Octets := Writer.written (binding.pushAs tag)

def toSequence (binding : Binding) : Octets := binding.toSequenceAs Ber.Tag.sequence

def listOctets (bindings : List Binding) : Octets := Writer.written (pushAll bindings)

/-- A sequence of name and value, a name followed by a value, or a value alone under the root;
the first tag decides which. -/
def ofOctets (octets : Octets) : Except DecodeError Binding :=
  let cursor := Cursor.ofOctets octets
  if cursor.peek? = some Ber.Tag.sequence then Cursor.binding.run cursor
  else if cursor.peek? = some Ber.Tag.objectId then Cursor.namedValue.run cursor
  else (Cursor.value.run cursor).map fun (type, content) => ⟨Oid.root, type, content⟩

/-- Reads back what was written. A value too long to be read keeps all that follows its second
octet. -/
def ofWritten (name : Oid) (content : Writer → Writer) : Binding :=
  let octets := Writer.written content
  match Cursor.value.run (Cursor.ofOctets octets) with
  | .ok (type, content) => ⟨name, type, content⟩
  | .error _ => ⟨name, .ofTag (octets.headD 0), octets.drop 2⟩

def null (name : Oid) : Binding := ofWritten name Writer.pushNull

def integer (name : Oid) (number : Int32) : Binding := ofWritten name (Writer.pushInteger number)

def unsigned (name : Oid) (type : ValueType) (number : UInt32) : Binding :=
  ofWritten name (Writer.pushUnsigned type.tag number)

def gauge (name : Oid) (number : UInt32) : Binding := unsigned name .gauge32 number

def octetString (name : Oid) (content : Octets) : Binding :=
  ofWritten name (Writer.pushOctetString content)

def objectId (name value : Oid) : Except OidFault Binding :=
  value.toContentChecked.map fun content => ⟨name, .objectId, content⟩

def ipAddress (name : Oid) (address : Octets) : Binding := ⟨name, .ipAddress, address⟩

def validate (binding : Binding) : Except OidFault Unit := binding.name.validate

end Binding
end RoadsideSnmp
