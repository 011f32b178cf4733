import RoadsideSnmp.Binding.Value
import RoadsideSnmp.Proofs.Ber.Shortest

/-! Values read as 32-bit numbers. Content of any length that can be read gives its number modulo
`2 ^ 32`, two's complement or unsigned; what stands in front of the last four octets counts only in
that it says the sign. -/
namespace RoadsideSnmp

open Ber Octets

namespace Ber.Number

theorem signed_lastFour (octets : Octets) :
    signed (lastFour octets) ≡ signed octets [ZMOD 2 ^ 32] := by
  obtain long | short := Nat.le_total 4 octets.length
  · have low := signed_drop octets (octets.length - 4)
    rwa [Nat.sub_sub_self long] at low
  · rw [lastFour_of_le short]

theorem toInt_toInt32 (content : Octets) :
    (toInt32 content).toInt = (signed content).bmod (2 ^ 32) := by
  have low : signed (lastFour (dropSign content)) % ((2 ^ 32 : Nat) : Int) =
      signed content % ((2 ^ 32 : Nat) : Int) := by
    have same := signed_lastFour (dropSign content)
    rwa [signed_dropSign] at same
  have size : Int32.size = 2 ^ 32 := rfl
  rw [toInt32, Int32.toInt_ofInt, size, ← Int.emod_bmod, low, Int.emod_bmod]

theorem signed_replicate (count : Nat) {filler first : UInt8} (rest : Octets)
    (repeated : repeatsSign filler first = true) :
    signed (List.replicate count filler ++ first :: rest) = signed (first :: rest) := by
  have again : repeatsSign filler filler = true := by
    simp only [repeatsSign, Bool.or_eq_true, Bool.and_eq_true, beq_iff_eq] at repeated
    obtain ⟨rfl, -⟩ | ⟨rfl, -⟩ := repeated <;> rfl
  induction count with
  | zero => rfl
  | succ count ih =>
      rw [← ih]
      cases count with
      | zero => exact signed_repeated rest repeated
      | succ count =>
          simp only [List.replicate_succ, List.cons_append]
          exact signed_repeated _ again

theorem value_replicate_zero (count : Nat) (core : Octets) :
    value (List.replicate count 0 ++ core) = value core := by
  induction count with
  | zero => rfl
  | succ count ih => simpa [List.replicate_succ, value_cons] using ih

theorem toInt32_replicate (count : Nat) {filler first : UInt8} (rest : Octets)
    (repeated : repeatsSign filler first = true) :
    toInt32 (List.replicate count filler ++ first :: rest) = toInt32 (first :: rest) := by
  apply Int32.toInt_inj.mp
  rw [toInt_toInt32, toInt_toInt32, signed_replicate count rest repeated]

theorem toUInt32_replicate_zero (count : Nat) (core : Octets) :
    toUInt32 (List.replicate count 0 ++ core) = toUInt32 core := by
  apply UInt32.toNat_inj.mp
  rw [toNat_toUInt32, toNat_toUInt32, value_replicate_zero]

theorem toInt32_emod {content : Octets}
    (full : 4 ≤ content.length ∨ (content.headD 0).toNat < 128) :
    (toInt32 content).toInt % 2 ^ 32 = (toUInt32 content).toNat := by
  have kept : signed content % 2 ^ 32 = value content % 2 ^ 32 := by
    obtain long | clear := full
    · have divides : (2 ^ 32 : Int) ∣ 256 ^ content.length := by
        exact pow_dvd_pow (256 : Int) long
      exact (signed_modEq content).of_dvd divides
    · rw [signed, if_neg (Nat.not_le.mpr clear)]
  have modulus : ((2 ^ 32 : Nat) : Int) = 2 ^ 32 := rfl
  rw [toInt_toInt32, toNat_toUInt32, ← modulus, Int.bmod_emod, modulus, kept]
  rfl

end Ber.Number

namespace Binding

theorem toTlv_eq (binding : Binding) : binding.toTlv = tlv binding.type.tag binding.content :=
  Writer.written_eq (Writer.pushTlv_eq _ _ _)

theorem open?_eq {binding : Binding} {types : List ValueType} (accepted : binding.type ∈ types)
    (bounded : binding.content.length ≤ Length.maxLength) :
    ∃ taken, binding.open? types = .ok (⟨0, taken, binding.content⟩, binding.content.length) := by
  have read : Reads _ _ binding.content _ :=
    Reads.header binding.type.tag (Length.isField_encode bounded) (Nat.le_refl _)
  have found := read 0 0
  rw [← tlv_eq] at found
  exact ⟨_, by rw [open?, if_pos accepted, toTlv_eq, Cursor.ofOctets, found]⟩

theorem toInt32_eq {binding : Binding} (numeric : binding.type ∈ integerTypes)
    (some : binding.content ≠ []) (bounded : binding.content.length ≤ Length.maxLength) :
    binding.toInt32 = .ok (Number.toInt32 binding.content) := by
  obtain ⟨taken, opened⟩ := open?_eq numeric bounded
  have read : Reads _ _ [] _ := Reads.integerContent some
  have found := congrArg Prod.fst (read 0 taken)
  rw [List.append_nil] at found
  rw [toInt32, opened]
  exact found

theorem toUInt32_eq {binding : Binding} (numeric : binding.type ∈ integerTypes)
    (some : binding.content ≠ []) (bounded : binding.content.length ≤ Length.maxLength) :
    binding.toUInt32 = .ok (Number.toUInt32 binding.content) := by
  obtain ⟨taken, opened⟩ := open?_eq numeric bounded
  have read : Reads _ _ [] _ := Reads.unsignedContent some
  have found := congrArg Prod.fst (read 0 taken)
  rw [List.append_nil] at found
  rw [toUInt32, opened]
  exact found

theorem toUInt64_eq {binding : Binding} (numeric : binding.type ∈ integerTypes) :
    binding.toUInt64 = binding.toUInt32.map UInt32.toUInt64 := by
  have narrow : binding.type ≠ .counter64 := fun wide => by
    rw [wide] at numeric
    exact absurd numeric (by decide)
  rw [toUInt64, if_neg narrow]

/-- The three readings of a value succeed and give its number, reduced to their widths. -/
structure ReadsAs (binding : Binding) (signed : Int32) (unsigned : UInt32) : Prop where
  toInt32 : binding.toInt32 = .ok signed
  toUInt32 : binding.toUInt32 = .ok unsigned
  toUInt64 : binding.toUInt64 = .ok unsigned.toUInt64
  signed : signed.toInt = (twosComplement binding.content).bmod (2 ^ 32)
  unsigned : unsigned.toNat = bigEndian binding.content % 2 ^ 32

theorem readsAs {binding : Binding} (numeric : binding.type ∈ integerTypes)
    (some : binding.content ≠ []) (bounded : binding.content.length ≤ Length.maxLength) :
    ReadsAs binding (Number.toInt32 binding.content) (Number.toUInt32 binding.content) where
  toInt32 := toInt32_eq numeric some bounded
  toUInt32 := toUInt32_eq numeric some bounded
  toUInt64 := by
    rw [toUInt64_eq numeric, toUInt32_eq numeric some bounded]
    rfl
  signed := by rw [Number.toInt_toInt32, twosComplement_eq]
  unsigned := by rw [Number.toNat_toUInt32, bigEndian_eq]

/-- Content of any length is read whole and reduced modulo `2 ^ 32`. The two numbers agree modulo
that unless short content has a sign, and octets in front that only repeat the sign, or are zero
for the unsigned reading, could as well be left out. -/
theorem numbers_of_content {binding : Binding} (numeric : binding.type ∈ integerTypes)
    (some : binding.content ≠ []) (bounded : binding.content.length ≤ Length.maxLength) :
    ∃ signed unsigned, ReadsAs binding signed unsigned ∧
      (4 ≤ binding.content.length ∨ (binding.content.headD 0).toNat < 128 →
        signed.toInt % 2 ^ 32 = unsigned.toNat) ∧
      ∀ count core, core ≠ [] →
        (binding.content = List.replicate count 0x00 ++ core →
          { binding with content := core }.toUInt32 = .ok unsigned ∧
          ((core.headD 0).toNat < 128 → { binding with content := core }.toInt32 = .ok signed)) ∧
        (binding.content = List.replicate count 0xFF ++ core → 128 ≤ (core.headD 0).toNat →
          { binding with content := core }.toInt32 = .ok signed) := by
  refine ⟨_, _, readsAs numeric some bounded, Number.toInt32_emod, fun count core left => ?_⟩
  obtain ⟨first, rest, rfl⟩ := List.exists_cons_of_ne_nil left
  have shorter {filler : UInt8}
      (whole : binding.content = List.replicate count filler ++ first :: rest) :
      (first :: rest).length ≤ Length.maxLength := by
    rw [whole, List.length_append] at bounded
    exact Nat.le_trans (Nat.le_add_left _ _) bounded
  have alike {filler : UInt8}
      (whole : binding.content = List.replicate count filler ++ first :: rest)
      (repeated : Number.repeatsSign filler first = true) :
      { binding with content := first :: rest }.toInt32 =
        .ok (Number.toInt32 binding.content) := by
    rw [whole, Number.toInt32_replicate count rest repeated]
    exact toInt32_eq numeric left (shorter whole)
  constructor
  · refine fun whole => ⟨?_, fun clear => alike whole ?_⟩
    · rw [whole, Number.toUInt32_replicate_zero]
      exact toUInt32_eq numeric left (shorter whole)
    · exact Bool.or_eq_true_iff.mpr (.inl (Bool.and_eq_true_iff.mpr ⟨rfl, decide_eq_true clear⟩))
  · refine fun whole set => alike whole ?_
    exact Bool.or_eq_true_iff.mpr (.inr (Bool.and_eq_true_iff.mpr ⟨rfl, decide_eq_true set⟩))

def zeroFilled : Binding := ⟨Oid.root, .timeTicks, [0, 0, 0, 0, 0, 0xFE, 0xDC, 0xBA, 0x98]⟩

def signFilled : Binding := ⟨Oid.root, .integer, [0xFF, 0xFF, 0xFF, 0xFF, 0x80]⟩

theorem numbers_of_content_filled :
    (∃ signed unsigned, ReadsAs zeroFilled signed unsigned ∧ signed.toInt = -19088744 ∧
      unsigned.toNat = 4275878552 ∧ signed.toInt % 2 ^ 32 = unsigned.toNat ∧
      { zeroFilled with content := [0xFE, 0xDC, 0xBA, 0x98] }.toUInt32 = .ok unsigned) ∧
    ∃ signed unsigned, ReadsAs signFilled signed unsigned ∧ signed.toInt = -128 ∧
      unsigned.toNat = 4294967168 ∧ { signFilled with content := [0x80] }.toInt32 = .ok signed := by
  constructor
  · obtain ⟨signed, unsigned, read, agree, filled⟩ :=
      numbers_of_content (show zeroFilled.type ∈ integerTypes by decide) (by decide) (by decide)
    have core := filled 5 [0xFE, 0xDC, 0xBA, 0x98] (by decide)
    exact ⟨signed, unsigned, read, read.signed.trans (by decide), read.unsigned.trans (by decide),
      agree (by decide), (core.1 rfl).1⟩
  · obtain ⟨signed, unsigned, read, -, filled⟩ :=
      numbers_of_content (show signFilled.type ∈ integerTypes by decide) (by decide) (by decide)
    have core := filled 4 [0x80] (by decide)
    exact ⟨signed, unsigned, read, read.signed.trans (by decide), read.unsigned.trans (by decide),
      core.2 rfl (by decide)⟩

end Binding
end RoadsideSnmp
