/-! Octet strings and the big-endian numbers they carry. Everything that goes over a link is a
list of octets, first octet first. `ofNat` and `value` are inverse on numbers that fit the
width; `ofNat` keeps the low octets of one that does not. -/
namespace RoadsideSnmp

abbrev Octets := List UInt8

namespace Octets

def value (octets : Octets) : Nat :=
  octets.foldl (fun total octet => total * 256 + octet.toNat) 0

@[simp] theorem value_nil : value [] = 0 := rfl

theorem value_concat (octets : Octets) (last : UInt8) :
    value (octets ++ [last]) = value octets * 256 + last.toNat := by
  simp [value]

/-- The two's-complement big-endian number; no octets denote 0. -/
def signed (octets : Octets) : Int :=
  if 128 ≤ (octets.headD 0).toNat then (value octets : Int) - Nat.pow 256 octets.length
  else value octets

/-- The low `width` octets of a number, most significant first. -/
def ofNat : (width number : Nat) → Octets
  | 0, _ => []
  | width + 1, number => ofNat width (number / 256) ++ [UInt8.ofNat number]

@[simp] theorem length_ofNat (width number : Nat) : (ofNat width number).length = width := by
  induction width generalizing number with
  | zero => rfl
  | succ width ih => simp [ofNat, ih]

def size (number : Nat) : Nat :=
  if number = 0 then 0 else Nat.log2 number / 8 + 1

def hexPair (octet : UInt8) : List Char :=
  [Nat.digitChar (octet.toNat / 16), Nat.digitChar (octet.toNat % 16)]

def hex (octets : Octets) : String :=
  String.ofList (octets.flatMap hexPair)

def hexUpper (octet : UInt8) : String :=
  String.ofList ((hexPair octet).map Char.toUpper)

def spacedHex (octets : Octets) : String :=
  " ".intercalate (octets.map hexUpper)

end Octets
end RoadsideSnmp
