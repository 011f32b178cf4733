import RoadsideSnmp.Proofs.Ber.Reads
import RoadsideSnmp.Proofs.Octets.TwosComplement

/-! Numbers written as values, in as few octets as can denote them. Content in which no octet only
repeats the sign of the next one is too large, on one side or the other, for any shorter
content; the octet that guards an unsigned number is there just when it is needed. -/
namespace RoadsideSnmp

open Ber

namespace Ber.Number

open Octets

def IsTight (content : Octets) : Prop :=
  ∀ first second rest, content = first :: second :: rest → repeatsSign first second = false

/-- The content of a number for a signed reader, of which there is none shorter. -/
structure IsShortest (content : Octets) (number : Int) : Prop where
  some : content ≠ []
  denotes : twosComplement content = number
  least : ∀ other, other ≠ [] → twosComplement other = number → content.length ≤ other.length
  tight : IsTight content

theorem isTight_dropSign (octets : Octets) : IsTight (dropSign octets) := by
  fun_induction dropSign octets with
  | case1 first second rest repeated ih => exact ih
  | case2 first second rest needed =>
      intro _ _ _ same
      cases same
      exact Bool.eq_false_iff.mpr needed
  | case3 short single =>
      intro first second rest same
      exact absurd same (single first second rest)

theorem IsTight.far {first second : UInt8} {rest : Octets}
    (tight : IsTight (first :: second :: rest)) :
    2 * signed (first :: second :: rest) < -(256 ^ (rest.length + 1) : Int) ∨
      256 ^ (rest.length + 1) ≤ 2 * signed (first :: second :: rest) := by
  have needed := tight first second rest rfl
  simp only [repeatsSign, Bool.or_eq_false_iff, Bool.and_eq_false_iff, beq_eq_false_iff_ne,
    decide_eq_false_iff_not, UInt8.lt_iff_toNat_lt, UInt8.le_iff_toNat_le] at needed
  obtain ⟨guard, ones⟩ := needed
  have whole := value_cons first (second :: rest)
  have bound := value_lt (second :: rest)
  have top := top_bit_iff second rest
  rw [List.length_cons] at whole bound
  -- a first octet of all ones has a clear bit behind it, and a zero octet one that is set
  by_cases set : 128 ≤ first.toNat
  · left
    have short : 2 * value (first :: second :: rest) < 511 * 256 ^ (rest.length + 1) := by
      by_cases full : first = 0xFF
      · have clear : ¬ 128 ≤ second.toNat := ones.resolve_left (not_not_intro full)
        have low := Nat.not_le.mp (mt top.mpr clear)
        rw [whole, full]
        change 2 * (255 * _ + _) < _
        omega
      · have less : first.toNat ≤ 254 := by
          have size := first.toNat_lt
          have other : first.toNat ≠ 255 := fun same => full (UInt8.toNat_inj.mp same)
          omega
        have product := Nat.mul_le_mul_right (256 ^ (rest.length + 1)) less
        omega
    rw [signed_of_le _ set, List.length_cons, pow_succ _ (rest.length + 1)]
    zify at short
    linarith
  · right
    have long : 256 ^ (rest.length + 1) ≤ 2 * value (first :: second :: rest) := by
      by_cases zero : first = 0
      · have high : ¬ second.toNat < 128 := guard.resolve_left (not_not_intro zero)
        have half := top.mp (Nat.not_lt.mp high)
        omega
      · have some : 1 ≤ first.toNat :=
          Nat.pos_of_ne_zero fun same => zero (UInt8.toNat_inj.mp same)
        have product := Nat.mul_le_mul_right (256 ^ (rest.length + 1)) some
        omega
    rw [signed_of_lt _ (Nat.not_le.mp set)]
    exact_mod_cast long

theorem isShortest_of_isTight {content : Octets} (some : content ≠ []) (tight : IsTight content) :
    IsShortest content (signed content) := by
  refine ⟨some, twosComplement_eq content, fun other other_some same => ?_, tight⟩
  rw [twosComplement_eq] at same
  match content, some with
  | [_], _ => exact List.length_pos_iff.mpr other_some
  | first :: second :: rest, _ =>
      obtain ⟨low, high⟩ := signed_bounds other
      have far := tight.far
      rw [← same] at far
      by_contra shorter
      have fewer : other.length ≤ rest.length + 1 := by
        simp only [List.length_cons] at shorter
        omega
      have less : (256 ^ other.length : Int) ≤ 256 ^ (rest.length + 1) := by
        exact_mod_cast Nat.pow_le_pow_right (by decide) fewer
      omega

theorem isShortest_ofInt32 (number : Int32) : IsShortest (ofInt32 number) number.toInt := by
  have shortest := isShortest_of_isTight (ofInt32_ne_nil number) (isTight_dropSign _)
  rwa [signed_ofInt32] at shortest

theorem value_dropZeros (octets : Octets) : value (dropZeros octets) = value octets := by
  fun_induction dropZeros octets with
  | case1 second rest ih => simp [ih, value_cons 0]
  | case2 => rfl
  | case3 => rfl

theorem dropZeros_ne_nil {octets : Octets} (some : octets ≠ []) : dropZeros octets ≠ [] := by
  fun_induction dropZeros octets with
  | case1 second rest ih => exact ih (List.cons_ne_nil _ _)
  | case2 => exact List.cons_ne_nil _ _
  | case3 => exact some

theorem length_dropZeros_le (octets : Octets) : (dropZeros octets).length ≤ octets.length := by
  fun_induction dropZeros octets with
  | case1 second rest ih => exact Nat.le_succ_of_le ih
  | case2 => exact Nat.le_refl _
  | case3 => exact Nat.le_refl _

theorem head_ne_zero_of_dropZeros {octets rest : Octets} {first second : UInt8}
    (left : dropZeros octets = first :: second :: rest) : first ≠ 0 := by
  fun_induction dropZeros octets with
  | case1 second rest ih => exact ih left
  | case2 first second rest some =>
      cases left
      exact some
  | case3 short single => exact absurd left (single _ _ _)

theorem guardSign_cases (octets : Octets) :
    guardSign octets = octets ∧ (octets.headD 0).toNat < 128 ∨
      guardSign octets = 0 :: octets ∧ 128 ≤ (octets.headD 0).toNat := by
  unfold guardSign
  split
  · next set => exact .inr ⟨rfl, set⟩
  · next clear => exact .inl ⟨rfl, Nat.not_le.mp clear⟩

theorem headD_guardSign_lt (octets : Octets) : ((guardSign octets).headD 0).toNat < 128 := by
  obtain ⟨same, clear⟩ | ⟨guarded, -⟩ := guardSign_cases octets
  · rwa [same]
  · rw [guarded, List.headD_cons]
    decide

theorem length_guardSign_le (octets : Octets) :
    (guardSign octets).length ≤ octets.length + 1 := by
  obtain ⟨same, -⟩ | ⟨guarded, -⟩ := guardSign_cases octets
  · rw [same]
    exact Nat.le_succ _
  · rw [guarded, List.length_cons]

theorem value_guardSign (octets : Octets) : value (guardSign octets) = value octets := by
  obtain ⟨same, -⟩ | ⟨guarded, -⟩ := guardSign_cases octets
  · rw [same]
  · rw [guarded, value_cons]
    simp

theorem signed_guardSign (octets : Octets) : signed (guardSign octets) = value octets := by
  have clear := headD_guardSign_lt octets
  rw [signed, if_neg (Nat.not_le.mpr clear), value_guardSign]

theorem isShortest_guardSign {octets : Octets} (some : octets ≠ []) :
    IsShortest (guardSign (dropZeros octets)) (value octets) := by
  have left := dropZeros_ne_nil some
  have denotes := signed_guardSign (dropZeros octets)
  rw [value_dropZeros] at denotes
  rw [← denotes]
  obtain ⟨same, clear⟩ | ⟨guarded, set⟩ := guardSign_cases (dropZeros octets)
  · rw [same]
    refine isShortest_of_isTight left fun first second rest shape => ?_
    have nonzero := head_ne_zero_of_dropZeros shape
    rw [shape, List.headD_cons] at clear
    rw [repeatsSign, Bool.or_eq_false_iff, Bool.and_eq_false_iff, Bool.and_eq_false_iff]
    refine ⟨.inl (beq_eq_false_iff_ne.mpr nonzero), .inl (beq_eq_false_iff_ne.mpr ?_)⟩
    rintro rfl
    exact absurd clear (by decide)
  · rw [guarded]
    refine isShortest_of_isTight (List.cons_ne_nil _ _) fun first second rest shape => ?_
    obtain ⟨rfl, behind⟩ := List.cons.inj shape
    rw [behind, List.headD_cons] at set
    rw [repeatsSign, Bool.or_eq_false_iff, Bool.and_eq_false_iff, Bool.and_eq_false_iff]
    exact ⟨.inr (decide_eq_false (Nat.not_lt.mpr set)), .inl rfl⟩

theorem length_guarded_le (octets : Octets) :
    (guardSign (dropZeros octets)).length ≤ octets.length + 1 :=
  Nat.le_trans (length_guardSign_le _) (Nat.succ_le_succ (length_dropZeros_le octets))

theorem isShortest_guarded {width number : Nat} (wide : width ≠ 0) (fits : number < 256 ^ width) :
    IsShortest (guardSign (dropZeros (ofNat width number))) number := by
  have some : ofNat width number ≠ [] :=
    List.ne_nil_of_length_pos (by rw [length_ofNat]; exact Nat.pos_of_ne_zero wide)
  have shortest := isShortest_guardSign some
  rwa [value_ofNat, Nat.mod_eq_of_lt fits] at shortest

theorem isShortest_ofUInt32 (number : UInt32) : IsShortest (ofUInt32 number) number.toNat :=
  isShortest_guarded (by decide) number.toNat_lt

theorem isShortest_ofUInt64 (number : UInt64) : IsShortest (ofUInt64 number) number.toNat :=
  isShortest_guarded (by decide) number.toNat_lt

theorem value_guarded {width number : Nat} (fits : number < 256 ^ width) :
    value (guardSign (dropZeros (ofNat width number))) = number := by
  rw [value_guardSign, value_dropZeros, value_ofNat, Nat.mod_eq_of_lt fits]

theorem value_lastFour (octets : Octets) : value (lastFour octets) = value octets % 2 ^ 32 := by
  obtain long | short := Nat.le_total 4 octets.length
  · rw [lastFour, value_drop, Nat.sub_sub_self long]
    rfl
  · have bound : value octets < 2 ^ 32 :=
      Nat.lt_of_lt_of_le (value_lt octets) (Nat.pow_le_pow_right (by decide) short)
    rw [lastFour_of_le short, Nat.mod_eq_of_lt bound]

theorem toNat_toUInt32 (content : Octets) :
    (toUInt32 content).toNat = value content % 2 ^ 32 := by
  rw [toUInt32, UInt32.toNat_ofNat', value_lastFour, value_dropZeros, Nat.mod_mod]

theorem toUInt32_ofUInt32 (number : UInt32) : toUInt32 (ofUInt32 number) = number := by
  apply UInt32.toNat_inj.mp
  rw [toNat_toUInt32, ofUInt32, value_guarded number.toNat_lt]
  exact Nat.mod_eq_of_lt number.toNat_lt

theorem toUInt64_ofUInt64 (number : UInt64) : toUInt64 (ofUInt64 number) = number := by
  rw [toUInt64, ofUInt64, value_guarded number.toNat_lt, UInt64.ofNat_toNat]

end Ber.Number

namespace Reads

open Ber.Number

variable {rest : Octets}

theorem unsignedContent {content : Octets} (some : content ≠ []) :
    Reads (Cursor.unsignedContent content.length) content rest (toUInt32 content) := by
  have count : content.length ≠ 0 := by simpa using some
  rw [Cursor.unsignedContent, if_neg count]
  exact last (octets content) (pure _)

theorem unsigned (tag : UInt8) (number : UInt32) :
    Reads (Cursor.unsigned tag) (tlv tag (ofUInt32 number)) rest number := by
  have short : (ofUInt32 number).length ≤ 5 := length_guarded_le _
  have read : Reads _ _ rest _ := unsignedContent (isShortest_ofUInt32 number).some
  rw [toUInt32_ofUInt32] at read
  exact tagged tag (Nat.le_trans short (by decide)) read

theorem counter64 (tag : UInt8) (number : UInt64) :
    Reads (Cursor.counter64 tag) (tlv tag (ofUInt64 number)) rest number := by
  have short : (ofUInt64 number).length ≤ 9 := length_guarded_le _
  have some : (ofUInt64 number).length ≠ 0 := by
    simpa using (isShortest_ofUInt64 number).some
  refine tagged tag (Nat.le_trans short (by decide)) ?_
  rw [Cursor.counter64Content, if_neg some, if_neg (Nat.not_lt.mpr short)]
  refine last (octets _) ?_
  rw [toUInt64_ofUInt64]
  exact pure number

end Reads

/-- What is pushed is one value with a short length, whose content is the shortest that denotes the
number, and the reading gives the result wherever it finds this value. -/
structure Carries {α : Type} (push : Writer → Writer) (tag : UInt8) (content : Octets)
    (number : Int) (reading : Reading α) (result : α) : Prop where
  pushed : ∀ writer,
    push writer = writer.push (tag :: UInt8.ofNat content.length :: content)
  shortest : Number.IsShortest content number
  reads : ∀ rest, Reads reading (tag :: UInt8.ofNat content.length :: content) rest result

theorem carries_pushTlv {α : Type} {tag : UInt8} {content : Octets} {number : Int}
    {reading : Reading α} {result : α} (shortest : Number.IsShortest content number)
    (short : content.length ≤ 127) (reads : ∀ rest, Reads reading (tlv tag content) rest result) :
    Carries (Writer.pushTlv tag content) tag content number reading result := by
  have whole : tlv tag content = tag :: UInt8.ofNat content.length :: content := by
    rw [tlv, Length.encode_short short]
    rfl
  rw [whole] at reads
  exact ⟨fun writer => by rw [Writer.pushTlv_eq, whole], shortest, reads⟩

/-- Every number is pushed in the shortest content that denotes it and comes back, the cursor then
standing on what follows; an unsigned one is not negative to a signed reader either. -/
theorem pushed_numbers :
    (∀ number : Int32, ∃ content, Carries (Writer.pushInteger number) Tag.integer content
      number.toInt Cursor.integer number) ∧
    (∀ (tag : UInt8) (number : UInt32), ∃ content, (content.headD 0).toNat < 128 ∧
      Carries (Writer.pushUnsigned tag number) tag content number.toNat (Cursor.unsigned tag)
        number) ∧
    ∀ number : UInt64, ∃ content, (content.headD 0).toNat < 128 ∧
      Carries (Writer.pushCounter64 number) Tag.counter64 content number.toNat
        (Cursor.counter64 Tag.counter64) number := by
  refine ⟨fun number => ⟨Number.ofInt32 number, ?_⟩,
    fun tag number => ⟨Number.ofUInt32 number, Number.headD_guardSign_lt _, ?_⟩,
    fun number => ⟨Number.ofUInt64 number, Number.headD_guardSign_lt _, ?_⟩⟩
  · have short := Number.length_ofInt32_le number
    exact carries_pushTlv (Number.isShortest_ofInt32 number) (by omega) fun _ => .integer number
  · have short : (Number.ofUInt32 number).length ≤ 5 := Number.length_guarded_le _
    exact carries_pushTlv (Number.isShortest_ofUInt32 number) (by omega) fun _ =>
      .unsigned tag number
  · have short : (Number.ofUInt64 number).length ≤ 9 := Number.length_guarded_le _
    exact carries_pushTlv (Number.isShortest_ofUInt64 number) (by omega) fun _ =>
      .counter64 Tag.counter64 number

end RoadsideSnmp
