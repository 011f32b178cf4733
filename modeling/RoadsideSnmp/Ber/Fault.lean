import RoadsideSnmp.Octets

/-! Why received octets cannot be used, and where. An offset counts from the first octet of the
outermost string, also when the fault lies inside a nested value. -/
namespace RoadsideSnmp

inductive DecodeFault where
  | unexpectedTag (expected actual : UInt8)
  | truncated
  | indefiniteLength
  | lengthTooLong (octets : Nat)
  | lengthExceedsMax (length max : Nat)
  /-- A value reaches past the end of what holds it. -/
  | overflow
  | insufficient (needed available : Nat)
  | emptyInteger
  | counter64TooLong (length : Nat)
  | nullWithContent
  | addressLength (length : Nat)
  | badSubidentifier
  | tooManyArcs (count max : Nat)
  | unknownVersion (number : Int32)
  | unknownPdu (tag : UInt8)
  | shortFrame (length : Nat)
  deriving DecidableEq, Repr

def DecodeFault.message : DecodeFault → String
  | .unexpectedTag expected actual =>
      "expected tag 0x" ++ Octets.hexUpper expected ++ ", got 0x" ++ Octets.hexUpper actual
  | .truncated => "unexpected end of data"
  | .indefiniteLength => "indefinite length encoding not supported"
  | .lengthTooLong octets => s!"length encoding too long ({octets} octets)"
  | .lengthExceedsMax length max => s!"length {length} exceeds maximum {max}"
  | .overflow => "TLV extends past end of data"
  | .insufficient needed available => s!"need {needed} bytes but only {available} remaining"
  | .emptyInteger => "zero-length integer"
  | .counter64TooLong length => s!"integer64 too long: {length} bytes"
  | .nullWithContent => "NULL with non-zero length"
  | .addressLength length => s!"IP address must be 4 bytes, got {length}"
  | .badSubidentifier => "invalid OID encoding"
  | .tooManyArcs count max => s!"OID has {count} arcs, exceeds maximum {max}"
  | .unknownVersion number => s!"unknown SNMP version: {number}"
  | .unknownPdu tag => "unknown PDU type: 0x" ++ Octets.hexUpper tag
  | .shortFrame length => s!"PMPP frame of {length} bytes is too short"

structure DecodeError where
  offset : Nat
  fault : DecodeFault
  deriving DecidableEq, Repr

namespace DecodeError

def message (error : DecodeError) : String :=
  s!"decode error at offset {error.offset}: " ++ error.fault.message

/-- The same fault in a string that starts `base` octets further in. -/
def shift (base : Nat) (error : DecodeError) : DecodeError :=
  { error with offset := base + error.offset }

end DecodeError

/-- The two fields of a frame header that may be one or two octets long. -/
inductive HeaderField where
  | address
  | protocolId
  deriving DecidableEq, Repr

def HeaderField.name : HeaderField → String
  | .address => "address"
  | .protocolId => "protocol identifier"

inductive EncodeFault where
  | negativeLength (length : Int)
  | fieldLength (field : HeaderField) (length : Nat)
  | fieldExtension (field : HeaderField)
  deriving DecidableEq, Repr

def EncodeFault.message (fault : EncodeFault) : String :=
  "encode error: " ++ match fault with
  | .negativeLength length => s!"negative length {length}"
  | .fieldLength field length =>
      "HDLC " ++ field.name ++ s!" must be 1 or 2 bytes, got {length}"
  | .fieldExtension field =>
      "HDLC " ++ field.name ++ " must have the low bit set on its last byte only"

end RoadsideSnmp
