import Mathlib.Data.Int.ModEq
import Mathlib.Data.Nat.Digits.Defs
import RoadsideSnmp.Proofs.Octets

/-! Octet strings of any length as digits to the base 256 and as bit vectors. The octets at the end
decide the number modulo what they can carry, and the length bounds it. -/
namespace RoadsideSnmp.Octets

def bigEndian (octets : Octets) : Nat := Nat.ofDigits 256 (octets.reverse.map UInt8.toNat)

def twosComplement (octets : Octets) : Int :=
  (BitVec.ofNat (8 * octets.length) (bigEndian octets)).toInt

theorem bigEndian_eq (octets : Octets) : bigEndian octets = value octets := by
  induction octets with
  | nil => rfl
  | cons first rest ih =>
      rw [value_cons, ← ih]
      simp [bigEndian, Nat.ofDigits_append, Nat.add_comm, Nat.mul_comm]

theorem signed_eq (octets : Octets) : signed octets =
    if 2 * value octets < 256 ^ octets.length then (value octets : Int)
    else value octets - 256 ^ octets.length := by
  cases octets with
  | nil => rfl
  | cons first rest =>
      have top := top_bit_iff first rest
      rw [List.length_cons]
      by_cases set : 128 ≤ first.toNat
      · rw [signed_of_le rest set, if_neg (Nat.not_lt.mpr (top.mp set))]
      · have clear := Nat.not_le.mp set
        rw [signed_of_lt rest clear, if_pos (Nat.not_le.mp (mt top.mpr set))]

theorem twosComplement_eq (octets : Octets) : twosComplement octets = signed octets := by
  have fits : value octets % 2 ^ (8 * octets.length) = value octets := by
    rw [Nat.pow_mul]
    exact Nat.mod_eq_of_lt (value_lt octets)
  rw [twosComplement, bigEndian_eq, BitVec.toInt_eq_toNat_cond, BitVec.toNat_ofNat, fits,
    Nat.pow_mul, signed_eq]
  push_cast
  rfl

theorem value_append (front back : Octets) :
    value (front ++ back) = value front * 256 ^ back.length + value back := by
  rw [← foldl_value]
  simp [value]

theorem signed_append {front : Octets} (some : front ≠ []) (back : Octets) :
    signed (front ++ back) = signed front * 256 ^ back.length + value back := by
  obtain ⟨first, rest, rfl⟩ := List.exists_cons_of_ne_nil some
  have whole := value_append (first :: rest) back
  rw [List.cons_append] at whole ⊢
  by_cases set : 128 ≤ first.toNat
  · rw [signed_of_le _ set, signed_of_le _ set, whole, List.length_append]
    push_cast
    ring
  · have clear := Nat.not_le.mp set
    rw [signed_of_lt _ clear, signed_of_lt _ clear, whole]
    push_cast
    rfl

theorem signed_modEq (octets : Octets) :
    signed octets ≡ value octets [ZMOD 256 ^ octets.length] := by
  rw [signed_eq]
  split
  · rfl
  · exact Int.sub_modulus_modEq_iff.mpr rfl

theorem signed_append_modEq (front back : Octets) :
    signed (front ++ back) ≡ value back [ZMOD 256 ^ back.length] := by
  by_cases none : front = []
  · rw [none, List.nil_append]
    exact signed_modEq back
  · rw [signed_append none]
    exact Int.modEq_iff_dvd.mpr ⟨-signed front, by ring⟩

theorem value_drop (octets : Octets) (count : Nat) :
    value (octets.drop count) = value octets % 256 ^ (octets.length - count) := by
  have whole := value_append (octets.take count) (octets.drop count)
  have bound := value_lt (octets.drop count)
  rw [List.take_append_drop] at whole
  rw [List.length_drop] at whole bound
  rw [whole, Nat.mul_comm, Nat.mul_add_mod, Nat.mod_eq_of_lt bound]

theorem signed_drop (octets : Octets) (count : Nat) :
    signed (octets.drop count) ≡ signed octets [ZMOD 256 ^ (octets.length - count)] := by
  have whole := signed_append_modEq (octets.take count) (octets.drop count)
  have part := signed_modEq (octets.drop count)
  rw [List.take_append_drop] at whole
  rw [List.length_drop] at whole part
  exact part.trans whole.symm

theorem signed_bounds (octets : Octets) :
    -(256 ^ octets.length : Int) ≤ 2 * signed octets ∧
      2 * signed octets < 256 ^ octets.length := by
  have bound := value_lt octets
  rw [signed_eq]
  zify at bound
  split
  · next low =>
      zify at low
      omega
  · next high =>
      zify at high
      omega

end RoadsideSnmp.Octets
