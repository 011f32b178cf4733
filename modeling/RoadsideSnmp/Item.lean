import RoadsideSnmp.Message

/-! Whatever a writer can be given, as a tree. Items of one list are written in the list's order,
so a later item lands in front of an earlier one. -/
namespace RoadsideSnmp

inductive Item where
  | octets (octets : Octets)
  | length (length : Nat)
  | tag (tag : UInt8)
  | tlv (tag : UInt8) (content : Octets)
  | constructed (tag : UInt8) (items : List Item)
  | sequence (items : List Item)
  | integer (number : Int32)
  | counter64 (number : UInt64)
  | unsigned (tag : UInt8) (number : UInt32)
  | octetString (content : Octets)
  | null
  | objectId (oid : Oid)
  | ipAddress (address : Octets)
  | binding (binding : Binding)
  | bindings (bindings : List Binding)
  | pdu (message : Message)
  deriving Repr, Inhabited

namespace Item

mutual

def write : Item → Writer → Writer
  | .octets front, writer => writer.push front
  | .length number, writer => writer.pushLength number
  | .tag octet, writer => writer.pushTag octet
  | .tlv octet content, writer => writer.pushTlv octet content
  | .constructed octet items, writer => writer.pushConstructed octet (writeAll items)
  | .sequence items, writer => writer.pushSequence (writeAll items)
  | .integer number, writer => writer.pushInteger number
  | .counter64 number, writer => writer.pushCounter64 number
  | .unsigned octet number, writer => writer.pushUnsigned octet number
  | .octetString content, writer => writer.pushOctetString content
  | .null, writer => writer.pushNull
  | .objectId oid, writer => writer.pushOid oid
  | .ipAddress address, writer => writer.pushIpAddress address
  | .binding one, writer => one.push writer
  | .bindings all, writer => Binding.pushAll all writer
  | .pdu message, writer => message.pushPdu writer

def writeAll : List Item → Writer → Writer
  | [], writer => writer
  | item :: items, writer => writeAll items (write item writer)

end

@[simp] theorem writeAll_nil (writer : Writer) : writeAll [] writer = writer := by
  rw [writeAll]

@[simp] theorem writeAll_cons (item : Item) (items : List Item) (writer : Writer) :
    writeAll (item :: items) writer = writeAll items (item.write writer) := by
  rw [writeAll]

def writers : List Item → Writer → List Writer
  | [], _ => []
  | item :: items, writer => item.write writer :: writers items (item.write writer)

end Item
end RoadsideSnmp
