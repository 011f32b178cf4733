import RoadsideSnmp.Message
import RoadsideSnmp.Proofs.Ber.Extent

/-! Where a reader of tagged values stops. The tag and the length in front of a value are read in
three ways, which agree with one another. A reader that wants one tag takes the content that the
length announces, no more and no less, so that when it succeeds it stops where the value could
have been skipped; what it reads inside a constructed value does not matter to that. -/
namespace RoadsideSnmp

open Ber

namespace Cursor

theorem advance_zero (cursor : Cursor) : cursor.advance 0 = cursor := rfl

theorem advance_advance (cursor : Cursor) (first second : Nat) :
    (cursor.advance first).advance second = cursor.advance (first + second) := by
  simp [advance, Nat.add_assoc]

section

variable {cursor after : Cursor} {tag : UInt8} {count width : Nat}

theorem of_decodeTagged_ok {octets : Octets} {base : Nat}
    (decoded : Length.decodeTagged octets base tag = .ok (count, width)) :
    ∃ behind less, octets = tag :: behind ∧ width = less + 1 ∧
      Length.decode behind (base + 1) = .ok (count, less) := by
  unfold Length.decodeTagged at decoded
  split at decoded
  · simp at decoded
  · next actual behind =>
      split at decoded
      · simp at decoded
      · next same =>
          obtain ⟨⟨length, less⟩, found, pair⟩ := map_eq_ok_iff.mp decoded
          obtain ⟨rfl, rfl⟩ := Prod.mk.inj pair
          exact ⟨behind, less, by rw [not_not.mp same], rfl, found⟩

theorem length_behind_tag {actual : UInt8} {behind : Octets}
    (first : cursor.rest = actual :: behind) : length (cursor.advance 1) =
      match Length.decode behind (cursor.offset + 1) with
      | .ok (count, width) => (.ok count, cursor.advance (width + 1))
      | .error error => (.error error, cursor.advance 1) := by
  have inside : (cursor.advance 1).rest = behind := by simp [advance, first]
  have offset : (cursor.advance 1).offset = cursor.offset + 1 := rfl
  rw [length, inside, offset]
  cases Length.decode behind (cursor.offset + 1) with
  | error error => rfl
  | ok pair =>
      dsimp only
      rw [advance_advance, Nat.add_comm 1]

theorem expectTag_of_decodeTagged
    (decoded : Length.decodeTagged cursor.rest cursor.offset tag = .ok (count, width)) :
    expectTag tag cursor = (do
      require count (.insufficient count)
      return count : Reading Nat) (cursor.advance width) := by
  obtain ⟨behind, less, first, rfl, found⟩ := of_decodeTagged_ok decoded
  have measured : length (cursor.advance 1) = (.ok count, cursor.advance (less + 1)) := by
    rw [length_behind_tag first, found]
  unfold expectTag
  rw [first]
  dsimp only
  rw [if_neg (not_not_intro rfl), Reading.bind_ok measured]

theorem expectTag_of_refused {error : DecodeError}
    (refused : Length.decodeTagged cursor.rest cursor.offset tag = .error error) :
    (expectTag tag).run cursor = .error error := by
  unfold Reading.run expectTag
  cases first : cursor.rest with
  | nil =>
      rw [first] at refused
      obtain rfl := Except.error.inj refused
      rfl
  | cons actual behind =>
      rw [first, Length.decodeTagged] at refused
      dsimp only
      by_cases differs : actual ≠ tag
      · rw [if_pos differs] at refused ⊢
        obtain rfl := Except.error.inj refused
        rfl
      · rw [if_neg differs] at refused ⊢
        cases found : Length.decode behind (cursor.offset + 1) with
        | ok pair => simp [found, Except.map] at refused
        | error fault =>
            obtain rfl : fault = error := by simpa [found, Except.map] using refused
            have unmeasured : length (cursor.advance 1) = (.error fault, cursor.advance 1) := by
              rw [length_behind_tag first, found]
            rw [Reading.bind_error unmeasured]

theorem expectTag_eq_ok_iff : expectTag tag cursor = (.ok count, after) ↔
    ∃ width, Length.decodeTagged cursor.rest cursor.offset tag = .ok (count, width) ∧
      after = cursor.advance width ∧ count ≤ after.remaining := by
  constructor
  · intro read
    cases decoded : Length.decodeTagged cursor.rest cursor.offset tag with
    | error error =>
        have refused := expectTag_of_refused decoded
        rw [Reading.run, read] at refused
        simp at refused
    | ok pair =>
        obtain ⟨length, width⟩ := pair
        rw [expectTag_of_decodeTagged decoded] at read
        obtain ⟨_, same, required, given⟩ := Reading.of_bind_ok read
        obtain ⟨present, rfl⟩ := of_require_ok required
        obtain ⟨found, rfl⟩ := Prod.mk.inj given
        obtain rfl := Except.ok.inj found
        exact ⟨width, rfl, rfl, present⟩
  · rintro ⟨width, decoded, rfl, present⟩
    have required : require count (.insufficient count) (cursor.advance width) =
        (.ok (), cursor.advance width) := if_neg (Nat.not_lt.mpr present)
    rw [expectTag_of_decodeTagged decoded, Reading.bind_ok required]
    rfl

theorem header_of_expectTag (read : expectTag tag cursor = (.ok count, after)) :
    header cursor = (.ok (tag, count), after) := by
  obtain ⟨field, rest, announces, whole, present, rfl⟩ := of_expectTag_ok read
  have found := Reads.header tag announces present cursor.base cursor.taken
  rwa [List.cons_append, ← whole] at found

theorem skip_of_header (read : header cursor = (.ok (tag, count), after)) :
    skip cursor = (.ok (), after.advance count) := by
  rw [skip, Reading.bind_ok (show tlv cursor = (.ok _, after.advance count) by rw [tlv, read])]
  rfl

end

section

variable {α β : Type} {count more : Nat} {reading : Reading α} {next : α → Reading β}

def Takes (count : Nat) (reading : Reading α) : Prop :=
  ∀ cursor after result, reading cursor = (.ok result, after) → after = cursor.advance count

namespace Takes

theorem bind (first : Takes count reading) (second : ∀ found, Takes more (next found)) :
    Takes (count + more) (reading >>= next) := by
  intro cursor after result read
  obtain ⟨found, middle, front, back⟩ := Reading.of_bind_ok read
  rw [second found _ _ _ back, first _ _ _ front, advance_advance]

theorem fail (fault : DecodeFault) : Takes count (Cursor.fail fault : Reading α) := by
  intro cursor after result read
  simp [Cursor.fail] at read

theorem lift (result : Except DecodeError α) : Takes 0 (Reading.lift result) :=
  fun _ _ _ read => (Prod.mk.inj read).2.symm

theorem pure (result : α) : Takes 0 (Pure.pure result : Reading α) := lift (.ok result)

theorem octets (count : Nat) : Takes count (Cursor.octets count) := by
  intro cursor after result read
  unfold Cursor.octets at read
  split at read
  · simp [Cursor.fail] at read
  · exact (Prod.mk.inj read).2.symm

theorem number (convert : Octets → α) (count : Nat) : Takes count (do
    let content ← Cursor.octets count
    return convert content : Reading α) :=
  (octets count).bind fun content => pure (convert content)

theorem integerContent (count : Nat) : Takes count (Cursor.integerContent count) := by
  unfold Cursor.integerContent
  split
  · exact fail _
  · exact number Number.toInt32 count

theorem unsignedContent (count : Nat) : Takes count (Cursor.unsignedContent count) := by
  unfold Cursor.unsignedContent
  split
  · exact fail _
  · exact number Number.toUInt32 count

theorem counter64Content (count : Nat) : Takes count (Cursor.counter64Content count) := by
  unfold Cursor.counter64Content
  split
  · exact fail _
  split
  · exact fail _
  · exact number Number.toUInt64 count

theorem objectIdContent (count : Nat) : Takes count (do
    let start ← position
    let content ← Cursor.octets count
    Reading.lift ((Oid.ofContent content).mapError (·.shift start)) : Reading Oid) := by
  have still : Takes 0 position := fun _ _ _ read => (Prod.mk.inj read).2.symm
  have whole := still.bind fun start => (octets count).bind fun content =>
    lift ((Oid.ofContent content).mapError (·.shift start))
  rwa [Nat.zero_add] at whole

theorem inner (count : Nat) : Takes count (Cursor.inner count) := by
  intro cursor after result read
  unfold Cursor.inner at read
  split at read
  · next content behind found =>
      obtain ⟨-, rfl⟩ := Prod.mk.inj read
      exact octets count _ _ _ found
  · simp at read

end Takes

/-- Where it succeeds, the value in front of it could have been skipped to the same place. -/
def EndsBehind (reading : Reading α) : Prop :=
  ∀ cursor after result, reading cursor = (.ok result, after) → skip cursor = (.ok (), after)

namespace EndsBehind

theorem tagged (tag : UInt8) {content : Nat → Reading α}
    (takes : ∀ count, Takes count (content count)) : EndsBehind (expectTag tag >>= content) := by
  intro cursor after result read
  obtain ⟨count, middle, opened, inside⟩ := Reading.of_bind_ok read
  rw [takes count _ _ _ inside]
  exact skip_of_header (header_of_expectTag opened)

theorem null : EndsBehind Cursor.null := by
  refine tagged Tag.null fun count => ?_
  split
  · exact .fail _
  · next none =>
      rw [not_not.mp none]
      exact .pure ()

theorem ipAddress : EndsBehind Cursor.ipAddress := by
  refine tagged Tag.ipAddress fun count => ?_
  split
  · exact .fail _
  · next four =>
      rw [not_not.mp four]
      exact .octets 4

theorem nested {outer : Reading Cursor} (ends : EndsBehind outer) (content : Reading α) :
    EndsBehind (Cursor.nested outer content) := by
  intro cursor after result read
  obtain ⟨inside, middle, opened, found⟩ := Reading.of_bind_ok read
  rw [Takes.lift _ _ _ _ found, advance_zero]
  exact ends _ _ _ opened

theorem constructed (tag : UInt8) : EndsBehind (Cursor.constructed tag) := tagged tag Takes.inner

end EndsBehind

end

inductive IsTyped : {α : Type} → Reading α → Prop
  | integer : IsTyped integer
  | unsigned (tag : UInt8) : IsTyped (unsigned tag)
  | counter64 (tag : UInt8) : IsTyped (counter64 tag)
  | octetString : IsTyped octetString
  | null : IsTyped null
  | objectId : IsTyped objectId
  | ipAddress : IsTyped ipAddress
  | sequence : IsTyped sequence
  | constructed (tag : UInt8) : IsTyped (constructed tag)
  | binding : IsTyped binding
  | bindings : IsTyped bindings
  | message : IsTyped message

theorem IsTyped.endsBehind {α : Type} {reading : Reading α} (typed : IsTyped reading) :
    EndsBehind reading := by
  cases typed with
  | integer => exact .tagged Tag.integer Takes.integerContent
  | unsigned tag => exact .tagged tag Takes.unsignedContent
  | counter64 tag => exact .tagged tag Takes.counter64Content
  | octetString => exact .tagged Tag.octetString Takes.octets
  | null => exact .null
  | objectId => exact .tagged Tag.objectId Takes.objectIdContent
  | ipAddress => exact .ipAddress
  | sequence => exact .constructed Tag.sequence
  | constructed tag => exact .constructed tag
  | binding => exact .nested (.constructed Tag.sequence) namedValue
  | bindings => exact .nested (.constructed Tag.sequence) _
  | message => exact .nested (.constructed Tag.sequence) messageContent

/-- The expected tag is read as tag and length are decoded, faults and their offsets included, and
wherever a reader of one tagged value succeeds, the value ends where it would have been skipped. -/
theorem ends_behind_value :
    (∀ (tag : UInt8) (cursor : Cursor),
      (∀ count after, expectTag tag cursor = (.ok count, after) ↔
        ∃ width, Length.decodeTagged cursor.rest cursor.offset tag = .ok (count, width) ∧
          after = cursor.advance width ∧ count ≤ after.remaining) ∧
      ∀ error, Length.decodeTagged cursor.rest cursor.offset tag = .error error →
        (expectTag tag).run cursor = .error error) ∧
    ∀ {α : Type} {reading : Reading α}, IsTyped reading → EndsBehind reading :=
  ⟨fun _ _ => ⟨fun _ _ => expectTag_eq_ok_iff, fun _ => expectTag_of_refused⟩,
    fun typed => typed.endsBehind⟩

def roundabout : Cursor := ⟨3, 2, [0x02, 0x83, 0x00, 0x00, 0x02, 0xFF, 0x05, 0x30]⟩

theorem ends_behind_value_roundabout :
    integer roundabout = (.ok (-251), ⟨3, 9, [0x30]⟩) ∧
      skip roundabout = (.ok (), ⟨3, 9, [0x30]⟩) ∧
      expectTag Tag.integer roundabout = (.ok 2, roundabout.advance 5) ∧
      (expectTag Tag.octetString).run roundabout = .error ⟨5, .unexpectedTag 0x04 0x02⟩ := by
  have read : integer roundabout = (.ok (-251), ⟨3, 9, [0x30]⟩) := by decide +kernel
  obtain ⟨headers, readers⟩ := ends_behind_value
  refine ⟨read, readers .integer _ _ _ read, ?_, ?_⟩
  · exact ((headers Tag.integer roundabout).1 2 _).mpr ⟨5, by decide, rfl, by decide⟩
  · exact (headers Tag.octetString roundabout).2 _ (by decide)

end Cursor
end RoadsideSnmp
