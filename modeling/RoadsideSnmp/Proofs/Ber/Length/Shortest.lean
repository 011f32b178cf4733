import RoadsideSnmp.Proofs.Ber.Length

/-! Length fields and the numbers they stand for. Of all the fields that can be read as a length
the one that is written is the shortest. The writer keeps four octets of a length, so the field of
a length that needs more of them stands for another number. -/
namespace RoadsideSnmp

theorem Octets.head_ofNat_size_ne_zero {number : Nat} {first : UInt8} {rest : Octets}
    (octets : ofNat (size number) number = first :: rest) : first ≠ 0 := by
  intro zero
  have width := length_ofNat (size number) number
  have whole := Ber.Length.value_ofNat_size number
  rw [octets, value_cons, zero, UInt8.toNat_zero, Nat.zero_mul, Nat.zero_add] at whole
  have fewer := size_le (value_lt rest)
  rw [octets, List.length_cons] at width
  rw [whole] at fewer
  omega

namespace Ber.Length

section

variable {field octets : Octets} {length base count : Nat}

theorem IsField.width_le (announces : IsField field length) : width length ≤ field.length := by
  cases announces with
  | short small =>
      rw [width, encode_short (Nat.le_of_lt_succ small)]
      exact Nat.le_refl 1
  | @long lead octets count some few bounded =>
      have size := Octets.size_le (Octets.value_lt octets)
      unfold width encode
      split
      · simp
      · rw [List.length_cons, Octets.length_ofNat, List.length_cons]
        omega

theorem decode_eq_ok_iff : decode octets base = .ok (length, count) ↔
    ∃ field rest, octets = field ++ rest ∧ field.length = count ∧ IsField field length := by
  constructor
  · exact isField_of_decode
  · rintro ⟨field, rest, rfl, rfl, announces⟩
    exact decode_of_isField announces rest base

end

/-- A length that can be read is read back from its field, whatever follows, and no octets that
are read as this length are fewer; and octets are read as a length just when a field of it is in
front of them, of which all is taken. -/
theorem encode_shortest :
    (∀ length ≤ maxLength, ∀ (rest : Octets) (base : Nat),
      decode (encode length ++ rest) base = .ok (length, (encode length).length) ∧
        width length = (encode length).length ∧
        ∀ octets start count, decode octets start = .ok (length, count) →
          width length ≤ count ∧ count ≤ octets.length) ∧
    ∀ (octets : Octets) (base length count : Nat), decode octets base = .ok (length, count) ↔
      ∃ field rest, octets = field ++ rest ∧ field.length = count ∧ IsField field length := by
  refine ⟨fun length bounded rest base => ⟨decode_of_isField (isField_encode bounded) rest base, rfl,
    fun octets start count decoded => ?_⟩, fun octets base length count => decode_eq_ok_iff⟩
  obtain ⟨field, rest, rfl, rfl, announces⟩ := decode_eq_ok_iff.mp decoded
  refine ⟨announces.width_le, ?_⟩
  rw [List.length_append]
  exact Nat.le_add_right _ _

theorem encode_shortest_padded :
    decode (encode 300 ++ [0x30]) 7 = .ok (300, 3) ∧
      decode [0x84, 0x00, 0x00, 0x01, 0x2C] 0 = .ok (300, 5) ∧ width 300 ≤ 5 := by
  obtain ⟨written, fields⟩ := encode_shortest
  obtain ⟨back, -, fewest⟩ := written 300 (by decide) [0x30] 7
  have padded : decode [0x84, 0x00, 0x00, 0x01, 0x2C] 0 = .ok (300, 5) :=
    (fields _ _ _ _).mpr ⟨[0x84, 0x00, 0x00, 0x01, 0x2C], [], rfl, rfl,
      .long (by decide) (by decide) (by decide) (by decide)⟩
  exact ⟨back, padded, (fewest _ _ _ padded).1⟩

/-- The octets stand for the length in the shortest way: one octet, or a count of octets of which
the first is not zero. -/
inductive StandsFor : Octets → Nat → Prop
  | short {octet : UInt8} (small : octet.toNat < 0x80) : StandsFor [octet] octet.toNat
  | long {lead first : UInt8} {rest : Octets} (count : lead.toNat = 0x80 + (first :: rest).length)
      (large : 0x80 ≤ Octets.value (first :: rest)) (tight : first ≠ 0) :
      StandsFor (lead :: first :: rest) (Octets.value (first :: rest))

theorem standsFor_encode {length : Nat} (fits : length < 2 ^ 32) :
    StandsFor (encode length) length := by
  by_cases short : length ≤ 127
  · have octet : (UInt8.ofNat length).toNat = length := by
      rw [UInt8.toNat_ofNat']
      omega
    have field : StandsFor [UInt8.ofNat length] (UInt8.ofNat length).toNat := .short (by omega)
    rwa [octet, ← encode_short short] at field
  · have few : Octets.size length ≤ 4 := Octets.size_le fits
    have some : 0 < Octets.size length := Octets.size_pos (by omega)
    have value := value_ofNat_size length
    have width := Octets.length_ofNat (Octets.size length) length
    rw [encode_long (by omega) few]
    match octets : Octets.ofNat (Octets.size length) length with
    | [] =>
        rw [octets, List.length_nil] at width
        omega
    | first :: rest =>
        rw [octets] at value width
        have count : (UInt8.ofNat (0x80 + Octets.size length)).toNat =
            0x80 + (first :: rest).length := by
          rw [UInt8.toNat_ofNat', width]
          omega
        have field := StandsFor.long count (by omega) (Octets.head_ofNat_size_ne_zero octets)
        rwa [value] at field

def IsHonest (length : Int) : Prop :=
  ∀ field, encodeSigned length = .ok field → ∃ number : Nat, length = number ∧ StandsFor field number

theorem encodeSigned_of_neg {length : Int} (negative : length < 0) :
    encodeSigned length = .error (.negativeLength length) := if_pos negative

theorem encodeSigned_ofNat (length : Nat) : encodeSigned length = .ok (encode length) :=
  if_neg (Int.not_lt.mpr (Int.natCast_nonneg length))

theorem encode_of_large {length : Nat} (large : 2 ^ 32 ≤ length) :
    encode length = 0x84 :: Octets.ofNat 4 length :=
  encode_beyond (Nat.lt_of_lt_of_le (by decide) large)

theorem not_isHonest {length : Nat} (large : 2 ^ 32 ≤ length) : ¬ IsHonest length := by
  intro honest
  obtain ⟨number, same, stands⟩ := honest _ (encodeSigned_ofNat length)
  rw [encode_of_large large] at stands
  have fewer := Octets.value_lt (Octets.ofNat 4 length)
  rw [Octets.length_ofNat] at fewer
  have four := Octets.length_ofNat 4 length
  generalize Octets.ofNat 4 length = kept at stands fewer four
  cases stands with
  | short => simp at four
  | long => omega

/-- A length below zero has no field and every other length has one. The field stands for the
length as long as four octets are enough; from there on it has the four low octets, and they stand
for what is left of the length. -/
theorem isHonest_iff (length : Int) :
    (∀ fault, encodeSigned length = .error fault ↔ length < 0 ∧ fault = .negativeLength length) ∧
    (IsHonest length ↔ length < 2 ^ 32) ∧
    (2 ^ 32 ≤ length → ∃ kept : Octets, encodeSigned length = .ok (0x84 :: kept) ∧
      kept.length = 4 ∧ (Octets.value kept : Int) = length % 2 ^ 32) := by
  obtain negative | positive := lt_or_ge length 0
  · have none := encodeSigned_of_neg negative
    refine ⟨fun fault => ?_, iff_of_true (fun field given => ?_) (by omega), by omega⟩
    · rw [none, Except.error.injEq, eq_comm]
      exact (and_iff_right negative).symm
    · simp [none] at given
  · obtain ⟨number, rfl⟩ := Int.eq_ofNat_of_zero_le positive
    have given := encodeSigned_ofNat number
    refine ⟨fun fault => ?_, ⟨fun honest => ?_, fun fits field same => ?_⟩, fun large => ?_⟩
    · rw [given]
      exact iff_of_false (by simp) (by omega)
    · by_contra large
      exact not_isHonest (by omega) honest
    · obtain rfl := Except.ok.inj (given.symm.trans same)
      exact ⟨number, rfl, standsFor_encode (by omega)⟩
    · refine ⟨Octets.ofNat 4 number, ?_, Octets.length_ofNat 4 number, ?_⟩
      · rw [given, encode_of_large (by omega)]
      · rw [Octets.value_ofNat]
        omega

theorem isHonest_iff_beyond : ¬ IsHonest (2 ^ 32 + 5) ∧
    ∃ kept : Octets, encodeSigned (2 ^ 32 + 5) = .ok (0x84 :: kept) ∧ Octets.value kept = 5 := by
  obtain ⟨-, honest, large⟩ := isHonest_iff (2 ^ 32 + 5)
  obtain ⟨kept, given, -, value⟩ := large (by decide)
  exact ⟨fun found => absurd (honest.mp found) (by decide), kept, given, by omega⟩

/-- The field of 2 ^ 32 is that of zero in four octets. -/
theorem not_forall_isHonest :
    ¬∀ length : Int, -2 ^ 63 ≤ length → length < 2 ^ 63 → IsHonest length := fun honest =>
  not_isHonest (Nat.le_refl (2 ^ 32)) (honest (2 ^ 32) (by decide) (by decide))

end Ber.Length
end RoadsideSnmp
