import RoadsideSnmp.Binding.Value

/-! One line for a binding: its name and its value by type. An octet string is shown as text only
if all of it is text on lines. -/
namespace RoadsideSnmp

def dottedAddress (address : Octets) : String :=
  ".".intercalate (address.map fun octet => toString octet.toNat)

namespace Binding

def isControl (character : Char) : Bool :=
  character.toNat < 0x20 || (0x7F ≤ character.toNat && character.toNat ≤ 0x9F)

/-- Text without controls other than the two that end a line. -/
def lines? (content : Octets) : Option String :=
  match Utf8.decode? content with
  | none => none
  | some text =>
      if text.any fun character => isControl character && character ≠ '\n' && character ≠ '\r'
      then none else some (String.ofList text)

def valueText (binding : Binding) : String :=
  let labelled {α : Type} (label : String) (result : Except DecodeError α)
      (render : α → String) : String :=
    match result with
    | .ok value => label ++ ": " ++ render value
    | .error _ => label ++ ": <invalid>"
  match binding.type with
  | .integer => labelled "INTEGER" binding.toInt32 (toString ·.toInt)
  | .counter32 | .gauge32 | .timeTicks =>
      labelled binding.type.name binding.toUInt32 (toString ·.toNat)
  | .counter64 => labelled "Counter64" binding.toUInt64 (toString ·.toNat)
  | .octetString =>
      match lines? binding.content with
      | some text => "STRING: \"" ++ text ++ "\""
      | none => "Hex-STRING: " ++ Octets.spacedHex binding.content
  | .objectId => labelled "OID" binding.toOid Oid.text
  | .ipAddress => labelled "IpAddress" binding.toIpAddress dottedAddress
  | .null => "NULL"
  | other =>
      if other.isException then other.name
      else other.name ++ ": " ++ Octets.spacedHex binding.content

def text (binding : Binding) : String := binding.name.text ++ " = " ++ binding.valueText

end Binding
end RoadsideSnmp
