import RoadsideSnmp.Ber.Fault

/-! The header that addresses one station on a shared line: an address, a control octet and a
protocol identifier. Address and identifier take one or two octets and end at the first octet
whose low bit is set. -/
namespace RoadsideSnmp.Pmpp

inductive Field where
  | single (octet : UInt8)
  | pair (first second : UInt8)
  deriving DecidableEq, Repr

namespace Field

def endsAt (octet : UInt8) : Bool := octet &&& 1 = 1

def octets : Field → Octets
  | .single octet => [octet]
  | .pair first second => [first, second]

/-- Octets that a reader gives back as the same field. -/
def make (field : HeaderField) (octets : Octets) : Except EncodeFault Field :=
  match octets with
  | [octet] => if endsAt octet then .ok (.single octet) else .error (.fieldExtension field)
  | [first, second] =>
      if endsAt first || !endsAt second then .error (.fieldExtension field)
      else .ok (.pair first second)
  | other => .error (.fieldLength field other.length)

/-- Takes a field from the front. A second octet is the last one, whatever its low bit. -/
def take? : Octets → Option (Field × Octets)
  | [] => none
  | first :: rest =>
      if endsAt first then some (.single first, rest)
      else match rest with
        | [] => none
        | second :: rest => some (.pair first second, rest)

def text (field : Field) : String := "HdlcField(" ++ Octets.spacedHex field.octets ++ ")"

end Field

structure Station where
  address : Field
  control : UInt8
  protocolId : Field
  deriving DecidableEq, Repr

namespace Station

/-- The first station on a line, unnumbered information, the management protocol. -/
def standard : Station := ⟨.single 0x05, 0x03, .single 0xC1⟩

def make (address : Octets) (control : UInt8) (protocolId : Octets) :
    Except EncodeFault Station := do
  let address ← Field.make .address address
  let protocolId ← Field.make .protocolId protocolId
  return ⟨address, control, protocolId⟩

def octets (station : Station) : Octets :=
  station.address.octets ++ station.control :: station.protocolId.octets

def take? (octets : Octets) : Option (Station × Octets) :=
  match Field.take? octets with
  | none | some (_, []) => none
  | some (address, control :: rest) =>
      (Field.take? rest).map fun (protocolId, rest) => (⟨address, control, protocolId⟩, rest)

end Station
end RoadsideSnmp.Pmpp
