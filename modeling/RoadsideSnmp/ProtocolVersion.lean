/-! Versions of the protocol. The third one is named in messages but none of its security is
done. -/
namespace RoadsideSnmp

inductive ProtocolVersion where
  | v1
  | v2c
  | v3
  deriving DecidableEq, Repr

namespace ProtocolVersion

/-- The number inside a message. -/
def code : ProtocolVersion → Int32
  | .v1 => 0
  | .v2c => 1
  | .v3 => 3

def ofCode? (code : Int32) : Option ProtocolVersion :=
  if code = 0 then some .v1
  else if code = 1 then some .v2c
  else if code = 3 then some .v3
  else none

@[simp] theorem ofCode?_code (version : ProtocolVersion) : ofCode? version.code = some version := by
  cases version <;> rfl

/-- The number people use. -/
def number : ProtocolVersion → Nat
  | .v1 => 1
  | .v2c => 2
  | .v3 => 3

/-- The nearest version to a number that people use. -/
def ofNumber (number : Int) : ProtocolVersion :=
  if number ≤ 1 then .v1 else if number = 2 then .v2c else .v3

def name : ProtocolVersion → String
  | .v1 => "SNMPv1"
  | .v2c => "SNMPv2c"
  | .v3 => "SNMPv3"

end ProtocolVersion
end RoadsideSnmp
