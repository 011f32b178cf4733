import RoadsideSnmp.Proofs.Ber.Reads
import RoadsideSnmp.Proofs.Ber.Yields

/-! How far a tagged value reaches. Tag and length field say where it ends, so a reading inside it
sees nothing of what stands behind it, and a value that is cut short is not entered. -/
namespace RoadsideSnmp

open Ber

namespace Cursor

variable {α : Type} {cursor after : Cursor} {tag : UInt8} {count : Nat}
  {field content octets value front : Octets}

theorem of_length_ok (read : length cursor = (.ok count, after)) :
    ∃ field rest, Length.IsField field count ∧ cursor.rest = field ++ rest ∧
      after = ⟨cursor.base, cursor.taken + field.length, rest⟩ := by
  unfold length at read
  split at read
  · next found width decoded =>
      obtain ⟨same, rfl⟩ := Prod.mk.inj read
      obtain rfl := Except.ok.inj same
      obtain ⟨field, rest, whole, rfl, announces⟩ := Length.isField_of_decode decoded
      exact ⟨field, rest, announces, whole, by simp [advance, whole]⟩
  · simp at read

theorem of_require_ok {fault : Nat → DecodeFault}
    (read : require count fault cursor = (.ok (), after)) :
    count ≤ cursor.rest.length ∧ after = cursor := by
  unfold require at read
  split at read
  · simp [fail] at read
  · next present => exact ⟨Nat.not_lt.mp present, (Prod.mk.inj read).2.symm⟩

theorem of_measured_ok {β : Type} {fault : Nat → Nat → DecodeFault} {give : Nat → β} {result : β}
    (read : (do
      let count ← length
      require count (fault count)
      return give count : Reading β) cursor = (.ok result, after)) :
    ∃ count field rest, result = give count ∧ Length.IsField field count ∧
      cursor.rest = field ++ rest ∧ count ≤ rest.length ∧
        after = ⟨cursor.base, cursor.taken + field.length, rest⟩ := by
  obtain ⟨count, behind, measured, more⟩ := Reading.of_bind_ok read
  obtain ⟨_, same, required, given⟩ := Reading.of_bind_ok more
  obtain ⟨field, rest, announces, whole, rfl⟩ := of_length_ok measured
  obtain ⟨present, rfl⟩ := of_require_ok required
  obtain ⟨result, rfl⟩ := Prod.mk.inj given
  exact ⟨count, field, rest, (Except.ok.inj result).symm, announces, whole, present, rfl⟩

theorem of_expectTag_ok (read : expectTag tag cursor = (.ok count, after)) :
    ∃ field rest, Length.IsField field count ∧ cursor.rest = tag :: (field ++ rest) ∧
      count ≤ rest.length ∧
        after = ⟨cursor.base, cursor.taken + (field.length + 1), rest⟩ := by
  unfold expectTag at read
  split at read
  · simp [fail] at read
  · next actual behind first =>
      split at read
      · simp [fail] at read
      · next same =>
          obtain ⟨count, field, rest, rfl, announces, whole, present, rfl⟩ := of_measured_ok read
          have inside : behind = field ++ rest := by simpa [advance, first] using whole
          refine ⟨field, rest, announces, ?_, present, ?_⟩
          · rw [first, not_not.mp same, inside]
          · simp [advance, Nat.add_assoc, Nat.add_comm 1]

theorem of_header_ok (read : header cursor = (.ok (tag, count), after)) :
    ∃ field rest, Length.IsField field count ∧ cursor.rest = tag :: (field ++ rest) ∧
      count ≤ rest.length ∧
        after = ⟨cursor.base, cursor.taken + (field.length + 1), rest⟩ := by
  obtain ⟨first, behind, taken, more⟩ := Reading.of_bind_ok read
  unfold octet at taken
  split at taken
  · simp [fail] at taken
  · next actual remaining start =>
      obtain ⟨same, rfl⟩ := Prod.mk.inj taken
      obtain rfl := Except.ok.inj same
      obtain ⟨_, field, rest, given, announces, whole, present, rfl⟩ := of_measured_ok more
      obtain ⟨rfl, rfl⟩ := Prod.mk.inj given
      have inside : remaining = field ++ rest := by simpa [advance, start] using whole
      refine ⟨field, rest, announces, ?_, present, ?_⟩
      · rw [start, inside]
      · simp [advance, Nat.add_assoc, Nat.add_comm 1]

theorem tlv_eq_ok_iff : tlv cursor = (.ok value, after) ↔
    ∃ tag field content rest, Length.IsField field content.length ∧
      value = (tag :: field) ++ content ∧ cursor.rest = value ++ rest ∧
        after = ⟨cursor.base, cursor.taken + value.length, rest⟩ := by
  constructor
  · intro read
    unfold tlv at read
    split at read
    · next tag count inside opened =>
        obtain ⟨given, rfl⟩ := Prod.mk.inj read
        obtain ⟨field, rest, announces, whole, present, rfl⟩ := of_header_ok opened
        have width : (rest.take count).length = count := List.length_take_of_le present
        have split : cursor.rest = (tag :: field) ++ rest := whole
        have front : value = (tag :: field) ++ rest.take count := by
          have cut : cursor.rest.take ((tag :: field).length + count) =
              (tag :: field) ++ rest.take count := by
            rw [split]
            exact List.take_length_add_append count
          rw [← cut, ← Except.ok.inj given]
          simp [advance, Nat.add_assoc]
        refine ⟨tag, field, rest.take count, rest.drop count, by rwa [width], front, ?_, ?_⟩
        · rw [front, List.append_assoc, List.take_append_drop, split]
        · simp [advance, front, width, Nat.add_assoc, Nat.add_comm 1]
    · simp at read
  · rintro ⟨tag, field, content, rest, announces, rfl, whole, rfl⟩
    have reads : Reads header (tag :: field) (content ++ rest) _ :=
      Reads.header tag announces (by simp)
    have opened := reads cursor.base cursor.taken
    rw [← List.append_assoc, ← whole] at opened
    have cut : cursor.rest.take ((tag :: field).length + content.length) =
        (tag :: field) ++ content := by
      rw [whole, List.append_assoc, List.take_length_add_append, List.take_left]
    rw [tlv, opened]
    simpa [advance, Nat.add_assoc, Nat.add_comm 1] using cut

theorem tlv_run_eq_ok_iff : tlv.run (ofOctets octets) = .ok value ↔
    ∃ tag field content rest, Length.IsField field content.length ∧
      value = (tag :: field) ++ content ∧ octets = value ++ rest := by
  constructor
  · intro read
    obtain ⟨tag, field, content, rest, announces, front, whole, -⟩ :=
      tlv_eq_ok_iff.mp (Prod.ext read rfl)
    exact ⟨tag, field, content, rest, announces, front, whole⟩
  · rintro ⟨tag, field, content, rest, announces, front, whole⟩
    exact congrArg Prod.fst
      (tlv_eq_ok_iff.mpr ⟨tag, field, content, rest, announces, front, whole, rfl⟩)

theorem constructed_eq_ok_iff {inside : Cursor} : constructed tag cursor = (.ok inside, after) ↔
    ∃ field content rest, Length.IsField field content.length ∧
      cursor.rest = (tag :: field) ++ (content ++ rest) ∧
        inside = ⟨cursor.base + (cursor.taken + (field.length + 1)), 0, content⟩ ∧
          after = ⟨cursor.base, cursor.taken + (field.length + 1) + content.length, rest⟩ := by
  constructor
  · intro read
    obtain ⟨count, middle, tagged, entered⟩ := Reading.of_bind_ok read
    obtain ⟨field, rest, announces, whole, present, rfl⟩ := of_expectTag_ok tagged
    have width : (rest.take count).length = count := List.length_take_of_le present
    rw [← width] at announces
    have split : cursor.rest = (tag :: field) ++ (rest.take count ++ rest.drop count) := by
      rw [List.take_append_drop]
      exact whole
    have opened := Reads.constructed tag announces (rest.drop count) cursor.base cursor.taken
    rw [← split, read] at opened
    obtain ⟨given, same⟩ := Prod.mk.inj opened
    exact ⟨field, rest.take count, rest.drop count, announces, split, Except.ok.inj given, same⟩
  · rintro ⟨field, content, rest, announces, whole, rfl, rfl⟩
    have opened := Reads.constructed tag announces rest cursor.base cursor.taken
    rwa [← whole] at opened

section

variable {inner : Reading α} {result : α} {rest : Octets}

theorem nested_of_opened {outer : Reading Cursor} {inside : Cursor}
    (opened : outer cursor = (.ok inside, after)) :
    nested outer inner cursor = (inner.run inside, after) := Reading.bind_ok opened

theorem nested_run_of_value (announces : Length.IsField field content.length) (rest : Octets) :
    (nested (constructed tag) inner).run (ofOctets ((tag :: field) ++ content ++ rest)) =
      inner.run ⟨field.length + 1, 0, content⟩ := by
  have opened := Reads.constructed tag announces rest 0 0
  rw [Nat.zero_add, Nat.zero_add] at opened
  rw [Reading.run, ofOctets, List.append_assoc, nested_of_opened opened]

theorem nested_run_of_refused {error : DecodeError}
    (refused : expectTag tag cursor = (.error error, after)) :
    (nested (constructed tag) inner).run cursor = .error error := by
  have unopened : constructed tag cursor = _ := Reading.bind_error refused
  rw [Reading.run, nested, Reading.bind_error unopened]

theorem nested_run_of_ne {other : UInt8} (differs : other ≠ tag) (rest : Octets) :
    (nested (constructed tag) inner).run (ofOctets (other :: rest)) =
      .error ⟨0, .unexpectedTag tag other⟩ := by
  have refused : expectTag tag (ofOctets (other :: rest)) =
      (.error ⟨0, .unexpectedTag tag other⟩, ofOctets (other :: rest)) := by
    simp only [expectTag, ofOctets, ne_eq, differs, not_false_eq_true, if_true]
    rfl
  exact nested_run_of_refused refused

theorem of_nested_run_ok {inner : Reading α} {result : α}
    (read : (nested (constructed tag) inner).run (ofOctets octets) = .ok result) :
    ∃ field content rest, Length.IsField field content.length ∧
      octets = (tag :: field) ++ content ++ rest := by
  obtain ⟨inside, _, opened, -⟩ := Reading.of_bind_ok (Prod.ext read rfl)
  obtain ⟨field, content, rest, announces, whole, -⟩ := constructed_eq_ok_iff.mp opened
  exact ⟨field, content, rest, announces, by rwa [List.append_assoc]⟩

theorem expectTag_cons (tag : UInt8) (behind : Octets) :
    expectTag tag (ofOctets (tag :: behind)) = (do
      let count ← length
      require count (.insufficient count)
      return count : Reading Nat) ⟨0, 1, behind⟩ := by
  simp only [expectTag, ofOctets, ne_eq, not_true_eq_false, if_false]
  rfl

theorem nested_run_of_cut_field (announces : Length.IsField field count) (begins : front <+: field)
    (cut : front ≠ field) :
    (nested (constructed tag) inner).run (ofOctets (tag :: front)) = .error ⟨1, .truncated⟩ := by
  have unmeasured : length ⟨0, 1, front⟩ = (.error ⟨1, .truncated⟩, ⟨0, 1, front⟩) := by
    have decoded : Length.decode front (offset ⟨0, 1, front⟩) = _ :=
      Length.decode_of_cut announces begins cut 1
    rw [length, decoded]
  exact nested_run_of_refused ((expectTag_cons tag front).trans (Reading.bind_error unmeasured))

theorem nested_run_of_cut_content (announces : Length.IsField field count)
    (short : front.length < count) :
    (nested (constructed tag) inner).run (ofOctets (tag :: (field ++ front))) =
      .error ⟨field.length + 1, .insufficient count front.length⟩ := by
  have measured : Reads length field front count := Reads.length announces
  have missing : require count (.insufficient count) ⟨0, 1 + field.length, front⟩ =
      (.error ⟨field.length + 1, .insufficient count front.length⟩,
        ⟨0, 1 + field.length, front⟩) := by
    simp [require, remaining, short, fail, offset, Nat.add_comm]
  exact nested_run_of_refused ((expectTag_cons tag (field ++ front)).trans
    ((Reading.bind_ok (measured 0 1)).trans (Reading.bind_error missing)))

theorem nested_run_of_cut (announces : Length.IsField field content.length)
    (begins : front <+: (tag :: field) ++ content) (cut : front ≠ (tag :: field) ++ content) :
    ∃ error, (nested (constructed tag) inner).run (ofOctets front) = .error error ∧
      (error.fault = .truncated ∨
        ∃ available, error.fault = .insufficient content.length available) := by
  match front with
  | [] => exact ⟨⟨0, .truncated⟩, rfl, .inl rfl⟩
  | first :: behind =>
      obtain ⟨rfl, inside⟩ := List.cons_prefix_cons.mp begins
      -- the beginning ends in the length field, or behind it in the content
      obtain early | late := Nat.lt_or_ge behind.length field.length
      · have inField : behind <+: field :=
          List.prefix_of_prefix_length_le inside (List.prefix_append field content) early.le
        have cutField : behind ≠ field := fun same => by simp [same] at early
        exact ⟨_, nested_run_of_cut_field announces inField cutField, .inl rfl⟩
      · obtain ⟨part, rfl⟩ :=
          List.prefix_of_prefix_length_le (List.prefix_append field content) inside late
        have inContent := (List.prefix_append_right_inj field).mp inside
        have short : part.length < content.length := by
          refine lt_of_le_of_ne inContent.length_le fun same => cut ?_
          rw [inContent.eq_of_length same, List.cons_append]
        exact ⟨_, nested_run_of_cut_content announces short, .inr ⟨_, rfl⟩⟩

end

/-- Octets behind a whole value change nothing, and neither does leaving them out. -/
theorem nested_run_append (inner : Reading α) (read : tlv.run (ofOctets octets) = .ok value)
    (more : Octets) : (nested (constructed tag) inner).run (ofOctets (octets ++ more)) =
      (nested (constructed tag) inner).run (ofOctets value) := by
  obtain ⟨first, field, content, rest, announces, rfl, rfl⟩ := tlv_run_eq_ok_iff.mp read
  by_cases same : first = tag
  · subst same
    have alone : (nested (constructed first) inner).run (ofOctets ((first :: field) ++ content)) =
        inner.run ⟨field.length + 1, 0, content⟩ := by
      rw [← nested_run_of_value announces [], List.append_nil]
    rw [List.append_assoc _ rest, nested_run_of_value announces, alone]
  · simp only [List.cons_append]
    rw [nested_run_of_ne same, nested_run_of_ne same]

end Cursor
end RoadsideSnmp
