import RoadsideSnmp.Proofs.Binding.Making

/-! Counters of 64 bits. The ninth octet from the right is let through for a zero that guards the
sign, but it is not looked at: content of one to nine octets gives its number modulo `2 ^ 64`, so
that nine octets that begin with another octet give a wrong number. -/
namespace RoadsideSnmp

open Ber Octets

theorem Ber.Number.toUInt64_eq_iff {content : Octets} {number : UInt64} :
    toUInt64 content = number ↔ number.toNat = bigEndian content % 2 ^ 64 := by
  have reduced : (toUInt64 content).toNat = value content % 2 ^ 64 := UInt64.toNat_ofNat'
  rw [← UInt64.toNat_inj, reduced, bigEndian_eq, eq_comm]

namespace Octets

theorem value_take_add (octets : Octets) (count : Nat) : value octets =
    value (octets.take count) * 256 ^ (octets.drop count).length + value (octets.drop count) := by
  rw [← value_append, List.take_append_drop]

theorem value_take_le (octets : Octets) (count : Nat) :
    value (octets.take count) ≤ value octets := by
  rw [value_take_add octets count]
  exact Nat.le_add_right_of_le (Nat.le_mul_of_pos_right _ (Nat.pow_pos (by decide)))

theorem value_take_lt {octets : Octets} {count : Nat} (part : count < octets.length)
    (nonzero : value octets ≠ 0) : value (octets.take count) < value octets := by
  have wide : 256 ≤ 256 ^ (octets.drop count).length :=
    Nat.le_self_pow (by rw [List.length_drop]; omega) 256
  have shifted := Nat.mul_le_mul_left (value (octets.take count)) wide
  have whole := value_take_add octets count
  omega

theorem value_lt_iff {octets : Octets} (few : octets.length ≤ 9) :
    value octets < 2 ^ 64 ↔ (octets.length = 9 → octets.headD 0 = 0) := by
  have width : (2 : Nat) ^ 64 = 256 ^ 8 := by decide
  rw [width]
  obtain short | nine := Nat.lt_or_eq_of_le few
  · have fits : 256 ^ octets.length ≤ 256 ^ 8 :=
      Nat.pow_le_pow_right (by decide) (Nat.le_of_lt_succ short)
    have bound := Nat.lt_of_lt_of_le (value_lt octets) fits
    exact ⟨fun _ full => absurd full (Nat.ne_of_lt short), fun _ => bound⟩
  · obtain ⟨first, rest, rfl⟩ := List.exists_cons_of_length_eq_add_one nine
    have eight : rest.length = 8 := Nat.succ.inj nine
    have low := value_lt rest
    rw [eight] at low
    have zero : first = 0 ↔ first.toNat = 0 := UInt8.toNat_inj.symm
    rw [value_cons, eight, List.headD_cons, zero]
    constructor
    · intro fits _
      omega
    · intro guarded
      rw [guarded nine]
      omega

end Octets

def ReadsCounter (found : Except DecodeError UInt64) (octets : Octets) : Prop :=
  ∀ number, found = .ok number ↔
    0 < octets.length ∧ octets.length ≤ 9 ∧ number.toNat = bigEndian octets % 2 ^ 64

/-- Whatever number is found is the number of the content. -/
def IsExact (found : Except DecodeError UInt64) (content : Octets) : Prop :=
  ∀ number, found = .ok number → number.toNat = bigEndian content

namespace ReadsCounter

variable {found : Except DecodeError UInt64} {octets content : Octets}

theorem exists_number (reads : ReadsCounter found octets) (some : 0 < octets.length)
    (few : octets.length ≤ 9) :
    ∃ number, found = .ok number ∧ number.toNat = bigEndian octets % 2 ^ 64 := by
  have fits : (UInt64.ofNat (bigEndian octets)).toNat = bigEndian octets % 2 ^ 64 :=
    UInt64.toNat_ofNat'
  exact ⟨_, (reads _).mpr ⟨some, few, fits⟩, fits⟩

theorem isExact_iff (reads : ReadsCounter found octets) :
    IsExact found octets ↔ (octets.length = 9 → octets.headD 0 = 0) := by
  constructor
  · intro exact nine
    obtain ⟨number, read, reduced⟩ := reads.exists_number (by omega) (by omega)
    have same := (exact number read).symm.trans reduced
    have fits : bigEndian octets < 2 ^ 64 := by
      rw [same]
      exact Nat.mod_lt _ (by decide)
    rw [bigEndian_eq] at fits
    exact (value_lt_iff (Nat.le_of_eq nine)).mp fits nine
  · intro guarded number read
    obtain ⟨-, few, reduced⟩ := (reads number).mp read
    have fits := (value_lt_iff few).mpr guarded
    rw [← bigEndian_eq] at fits
    rw [reduced, Nat.mod_eq_of_lt fits]

theorem isExact_iff_of_cut {count : Nat} (reads : ReadsCounter found (content.take count))
    (cut : count < content.length) :
    IsExact found content ↔ (0 < count → count ≤ 9 → bigEndian content = 0) := by
  have size : (content.take count).length = count := List.length_take_of_le (Nat.le_of_lt cut)
  have front := value_take_le content count
  rw [← bigEndian_eq, ← bigEndian_eq] at front
  constructor
  · intro exact some few
    obtain ⟨number, read, reduced⟩ := reads.exists_number (by omega) (by omega)
    have same := (exact number read).symm.trans reduced
    -- What is cut off makes the content's number at least 256 times that of the front.
    by_contra nonzero
    rw [bigEndian_eq] at nonzero
    have smaller := value_take_lt cut nonzero
    rw [← bigEndian_eq, ← bigEndian_eq] at smaller
    have low := Nat.mod_le (bigEndian (content.take count)) (2 ^ 64)
    omega
  · intro zeros number read
    obtain ⟨some, few, reduced⟩ := (reads number).mp read
    rw [size] at some few
    rw [zeros some few] at front ⊢
    rw [reduced, Nat.le_zero.mp front]
    exact Nat.zero_mod _

end ReadsCounter

namespace Cursor

theorem readsCounter {count base taken : Nat} {octets : Octets} (present : count ≤ octets.length) :
    ReadsCounter ((counter64Content count).run ⟨base, taken, octets⟩) (octets.take count) := by
  intro number
  rw [List.length_take_of_le present]
  unfold counter64Content
  split
  · next none => simp [Reading.run, fail, none]
  split
  · next many => simp [Reading.run, fail, Nat.not_le.mpr many]
  · next some few =>
      have given := octets_of_le (show count ≤ remaining ⟨base, taken, octets⟩ from present)
      have found : (do
          let content ← Cursor.octets count
          return Number.toUInt64 content : Reading UInt64) ⟨base, taken, octets⟩ =
            (.ok (Number.toUInt64 (octets.take count)), _) := Reading.bind_ok given
      rw [Reading.run, found]
      simp [Nat.pos_of_ne_zero some, Nat.not_lt.mp few, Number.toUInt64_eq_iff]

end Cursor

namespace Binding

theorem open?_written {binding : Binding} {types : List ValueType}
    (accepted : binding.type ∈ types) :
    (∃ taken, binding.open? types =
      .ok (⟨0, taken, binding.content⟩, Length.announced binding.content.length)) ∨
    Length.maxLength < Length.announced binding.content.length ∧
      ∃ error, binding.open? types = .error error := by
  rw [open?, if_pos accepted, toTlv_eq]
  obtain beyond | bounded := Nat.lt_or_ge Length.maxLength
    (Length.announced binding.content.length)
  · obtain ⟨error, after, unopened⟩ := Cursor.header_written_beyond binding.type.tag beyond
    exact .inr ⟨beyond, error, by rw [unopened]⟩
  · obtain ⟨taken, opened⟩ := Cursor.header_written binding.type.tag bounded
    exact .inl ⟨taken, by rw [opened]⟩

theorem readsCounter {binding : Binding} (counter : binding.type = .counter64) :
    ReadsCounter binding.toUInt64
      (binding.content.take (Length.announced binding.content.length)) := by
  have present := Length.announced_le binding.content.length
  have accepted : binding.type ∈ [ValueType.counter64] := List.mem_singleton.mpr counter
  rw [toUInt64, if_pos counter]
  obtain ⟨taken, opened⟩ | ⟨beyond, error, unopened⟩ := open?_written accepted
  · rw [opened]
    exact Cursor.readsCounter present
  · intro number
    have limit : 9 < Length.maxLength := by decide
    rw [unopened, List.length_take_of_le present]
    constructor
    · intro read
      cases read
    · rintro ⟨-, few, -⟩
      omega

/-- Content of one to nine octets gives its number modulo `2 ^ 64` wherever it is read from. The
number is that of the content unless nine octets begin with another one than zero, or the content
is so long that its length no longer fits four octets. -/
theorem counter_exact_iff (name : Oid) (content : Octets) :
    (∀ base taken rest,
      let found := (Cursor.counter64Content content.length).run ⟨base, taken, content ++ rest⟩
      ReadsCounter found content ∧
        (IsExact found content ↔ (content.length = 9 → content.headD 0 = 0))) ∧
    let found := toUInt64 ⟨name, .counter64, content⟩
    let front := content.take (Length.announced content.length)
    ReadsCounter found front ∧
      (content.length < 2 ^ 32 → front = content ∧
        (IsExact found content ↔ (content.length = 9 → content.headD 0 = 0))) ∧
      (2 ^ 32 ≤ content.length →
        (IsExact found content ↔
          (0 < front.length → front.length ≤ 9 → bigEndian content = 0))) := by
  constructor
  · intro base taken rest
    have within : content.length ≤ (content ++ rest).length := by simp
    have reads : ReadsCounter (Reading.run _ ⟨base, taken, _⟩) _ := Cursor.readsCounter within
    rw [List.take_left] at reads
    exact ⟨reads, reads.isExact_iff⟩
  · have reads : ReadsCounter (toUInt64 ⟨name, .counter64, content⟩) _ := readsCounter rfl
    refine ⟨reads, fun fits => ?_, fun long => ?_⟩
    · have whole : content.take (Length.announced content.length) = content := by
        rw [Length.announced_of_lt fits, List.take_length]
      rw [whole] at reads ⊢
      exact ⟨rfl, reads.isExact_iff⟩
    · have cut : Length.announced content.length < content.length :=
        Nat.lt_of_lt_of_le (Nat.mod_lt _ (by decide)) long
      rw [List.length_take_of_le (Nat.le_of_lt cut)]
      exact reads.isExact_iff_of_cut cut

def wrapped : Octets := [0x01, 0x00, 0x00, 0x00, 0x00, 0x00, 0x00, 0x00, 0x05]

theorem not_isExact_wrapped :
    (Cursor.counter64Content 9).run (Cursor.ofOctets wrapped) = .ok 5 ∧
      toUInt64 ⟨.root, .counter64, wrapped⟩ = .ok 5 ∧ bigEndian wrapped = 2 ^ 64 + 5 ∧
      ¬ IsExact ((Cursor.counter64Content 9).run (Cursor.ofOctets wrapped)) wrapped ∧
      ¬ IsExact (toUInt64 ⟨.root, .counter64, wrapped⟩) wrapped := by
  have read : (Cursor.counter64Content 9).run (Cursor.ofOctets wrapped) = .ok 5 := by
    decide +kernel
  have found : toUInt64 ⟨.root, .counter64, wrapped⟩ = .ok 5 := by decide +kernel
  have number : bigEndian wrapped = 2 ^ 64 + 5 := by decide +kernel
  have differs : (5 : UInt64).toNat ≠ bigEndian wrapped := by
    rw [number]
    decide
  exact ⟨read, found, number, fun exact => differs (exact 5 read),
    fun exact => differs (exact 5 found)⟩

end Binding
end RoadsideSnmp
