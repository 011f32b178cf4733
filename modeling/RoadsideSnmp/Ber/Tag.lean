import RoadsideSnmp.Octets

/-! Tag octets and the types they name. The two top bits are the class, the next one marks a
constructed value. Tags that name no type of the protocol are kept as they are. -/
namespace RoadsideSnmp

namespace Ber.Tag

def integer : UInt8 := 0x02
def octetString : UInt8 := 0x04
def null : UInt8 := 0x05
def objectId : UInt8 := 0x06
def sequence : UInt8 := 0x30
def ipAddress : UInt8 := 0x40
def counter64 : UInt8 := 0x46

def isConstructed (tag : UInt8) : Bool := tag &&& 0x20 ≠ 0

def classBits (tag : UInt8) : UInt8 := tag &&& 0xC0

end Ber.Tag

inductive PduKind where
  | getRequest
  | getNextRequest
  | response
  | setRequest
  /-- The first protocol's trap, whose body is laid out differently and is not read. -/
  | trap
  | getBulkRequest
  | informRequest
  | trapV2
  | report
  deriving DecidableEq, Repr

namespace PduKind

def tag : PduKind → UInt8
  | .getRequest => 0xA0
  | .getNextRequest => 0xA1
  | .response => 0xA2
  | .setRequest => 0xA3
  | .trap => 0xA4
  | .getBulkRequest => 0xA5
  | .informRequest => 0xA6
  | .trapV2 => 0xA7
  | .report => 0xA8

def all : List PduKind :=
  [.getRequest, .getNextRequest, .response, .setRequest, .trap, .getBulkRequest, .informRequest,
    .trapV2, .report]

def ofTag? (tag : UInt8) : Option PduKind := all.find? (·.tag = tag)

@[simp] theorem ofTag?_tag (kind : PduKind) : ofTag? kind.tag = some kind := by
  cases kind <;> rfl

def name : PduKind → String
  | .getRequest => "GetRequest"
  | .getNextRequest => "GetNextRequest"
  | .response => "Response"
  | .setRequest => "SetRequest"
  | .trap => "Trap"
  | .getBulkRequest => "GetBulkRequest"
  | .informRequest => "InformRequest"
  | .trapV2 => "SNMPv2-Trap"
  | .report => "Report"

end PduKind

inductive ValueType where
  | integer
  | octetString
  | null
  | objectId
  | sequence
  | ipAddress
  | counter32
  | gauge32
  | timeTicks
  | opaqueData
  | counter64
  | noSuchObject
  | noSuchInstance
  | endOfMibView
  | pdu (kind : PduKind)
  | unknown (tag : UInt8)
  deriving DecidableEq, Repr

namespace ValueType

def tag : ValueType → UInt8
  | .integer => Ber.Tag.integer
  | .octetString => Ber.Tag.octetString
  | .null => Ber.Tag.null
  | .objectId => Ber.Tag.objectId
  | .sequence => Ber.Tag.sequence
  | .ipAddress => Ber.Tag.ipAddress
  | .counter32 => 0x41
  | .gauge32 => 0x42
  | .timeTicks => 0x43
  | .opaqueData => 0x44
  | .counter64 => Ber.Tag.counter64
  | .noSuchObject => 0x80
  | .noSuchInstance => 0x81
  | .endOfMibView => 0x82
  | .pdu kind => kind.tag
  | .unknown tag => tag

def known : List ValueType :=
  [.integer, .octetString, .null, .objectId, .sequence, .ipAddress, .counter32, .gauge32,
    .timeTicks, .opaqueData, .counter64, .noSuchObject, .noSuchInstance, .endOfMibView] ++
    PduKind.all.map .pdu

def ofTag (tag : UInt8) : ValueType :=
  (known.find? fun type => decide (type.tag = tag)).getD (.unknown tag)

theorem ofTag_tag_of_known : ∀ type ∈ known, ofTag type.tag = type := by decide

theorem tag_ofTag (tag : UInt8) : (ofTag tag).tag = tag := by
  unfold ofTag
  cases found : known.find? fun type => decide (type.tag = tag) with
  | none => rfl
  | some type => simpa using List.find?_some found

def isKnown : ValueType → Bool
  | .unknown _ => false
  | _ => true

def isException : ValueType → Bool
  | .noSuchObject | .noSuchInstance | .endOfMibView => true
  | _ => false

def isUnsigned32 : ValueType → Bool
  | .counter32 | .gauge32 | .timeTicks => true
  | _ => false

def name : ValueType → String
  | .integer => "INTEGER"
  | .octetString => "OCTET STRING"
  | .null => "NULL"
  | .objectId => "OBJECT IDENTIFIER"
  | .sequence => "SEQUENCE"
  | .ipAddress => "IpAddress"
  | .counter32 => "Counter32"
  | .gauge32 => "Gauge32"
  | .timeTicks => "TimeTicks"
  | .opaqueData => "Opaque"
  | .counter64 => "Counter64"
  | .noSuchObject => "noSuchObject"
  | .noSuchInstance => "noSuchInstance"
  | .endOfMibView => "endOfMibView"
  | .pdu kind => kind.name ++ "-PDU"
  | .unknown tag => "unknown(0x" ++ Octets.hexUpper tag ++ ")"

end ValueType
end RoadsideSnmp
