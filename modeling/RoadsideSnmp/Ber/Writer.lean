import RoadsideSnmp.Ber.Length
import RoadsideSnmp.Ber.Number
import RoadsideSnmp.Ber.Tag
import RoadsideSnmp.Oid.Content

/-! Writing tagged values back to front. Whatever is pushed lands in front of what was pushed
before, so a length is known when its turn comes and nothing is measured ahead. -/
namespace RoadsideSnmp

/-- What has been written, in link order, and how many octets that is. -/
structure Writer where
  octets : Octets
  size : Nat
  deriving DecidableEq, Repr

namespace Writer

def empty : Writer := ⟨[], 0⟩

def push (front : Octets) (writer : Writer) : Writer :=
  ⟨front ++ writer.octets, writer.size + front.length⟩

@[simp] theorem octets_push (front : Octets) (writer : Writer) :
    (writer.push front).octets = front ++ writer.octets := rfl

def pushLength (length : Nat) (writer : Writer) : Writer := writer.push (Ber.Length.encode length)

def pushTag (tag : UInt8) (writer : Writer) : Writer := writer.push [tag]

def pushTlv (tag : UInt8) (content : Octets) (writer : Writer) : Writer :=
  ((writer.push content).pushLength content.length).pushTag tag

def pushConstructed (tag : UInt8) (content : Writer → Writer) (writer : Writer) : Writer :=
  let filled := content writer
  (filled.pushLength (filled.size - writer.size)).pushTag tag

def pushSequence (content : Writer → Writer) (writer : Writer) : Writer :=
  writer.pushConstructed Ber.Tag.sequence content

def pushInteger (number : Int32) (writer : Writer) : Writer :=
  writer.pushTlv Ber.Tag.integer (Ber.Number.ofInt32 number)

def pushCounter64 (number : UInt64) (writer : Writer) : Writer :=
  writer.pushTlv Ber.Tag.counter64 (Ber.Number.ofUInt64 number)

def pushUnsigned (tag : UInt8) (number : UInt32) (writer : Writer) : Writer :=
  writer.pushTlv tag (Ber.Number.ofUInt32 number)

def pushOctetString (content : Octets) (writer : Writer) : Writer :=
  writer.pushTlv Ber.Tag.octetString content

def pushNull (writer : Writer) : Writer := writer.pushTlv Ber.Tag.null []

def pushOid (oid : Oid) (writer : Writer) : Writer :=
  writer.pushTlv Ber.Tag.objectId oid.toContent

def pushIpAddress (address : Octets) (writer : Writer) : Writer :=
  writer.pushTlv Ber.Tag.ipAddress address

def written (content : Writer → Writer) : Octets := (content empty).octets

end Writer
end RoadsideSnmp
