import RoadsideSnmp.Proofs.Ber.Extent
import RoadsideSnmp.Proofs.Binding

/-! Lists of bindings. The content of a list is read binding after binding, and this comes to the
same as cutting it into whole values and reading each of them alone: the list is read just when the
values use up the content and each is a sequence that is a binding, and then it is these bindings.
A binding takes six octets at least, so the octets bound the number of rounds. -/
namespace RoadsideSnmp

open Ber

section

variable {α β : Type} {least more : Nat} {reading : Reading α} {next : α → Reading β}

/-- Where it succeeds it has taken so many octets at least, and with these in front of it it does
the same wherever it stands. -/
def Portable (least : Nat) (reading : Reading α) : Prop :=
  ∀ cursor after result, reading cursor = (.ok result, after) →
    ∃ octets, least ≤ octets.length ∧ cursor.rest = octets ++ after.rest ∧
      Reads reading octets after.rest result

namespace Portable

theorem bind (first : Portable least reading) (second : ∀ found, Portable more (next found)) :
    Portable (least + more) (reading >>= next) := by
  intro cursor after result read
  obtain ⟨found, middle, front, back⟩ := Reading.of_bind_ok read
  obtain ⟨taken, enough, start, reads⟩ := first _ _ _ front
  obtain ⟨later, rest, stop, onward⟩ := second found _ _ _ back
  rw [stop] at start reads
  refine ⟨taken ++ later, ?_, ?_, reads.bind onward⟩
  · rw [List.length_append]
    exact Nat.add_le_add enough rest
  · rw [start, List.append_assoc]

theorem lift (result : Except DecodeError α) : Portable 0 (Reading.lift result) := by
  intro cursor after value read
  obtain ⟨found, rfl⟩ := Prod.mk.inj read
  exact ⟨[], Nat.zero_le _, rfl, .lift found⟩

theorem pure (result : α) : Portable 0 (Pure.pure result : Reading α) := lift (.ok result)

theorem octets (count : Nat) : Portable 0 (Cursor.octets count) := by
  intro cursor after content read
  unfold Cursor.octets at read
  split at read
  · simp [Cursor.fail] at read
  · next present =>
      obtain ⟨found, rfl⟩ := Prod.mk.inj read
      obtain rfl := Except.ok.inj found
      have width : (cursor.rest.take count).length = count :=
        List.length_take_of_le (Nat.not_lt.mp present)
      have reads : Reads _ _ (cursor.rest.drop count) _ := Reads.octets (cursor.rest.take count)
      rw [width] at reads
      exact ⟨_, Nat.zero_le _, (List.take_append_drop count cursor.rest).symm, reads⟩

theorem expectTag (tag : UInt8) : Portable 2 (Cursor.expectTag tag) := by
  intro cursor after count read
  obtain ⟨field, rest, announces, whole, present, rfl⟩ := Cursor.of_expectTag_ok read
  have some := announces.length_pos
  exact ⟨tag :: field, by rw [List.length_cons]; omega, whole, .expectTag tag announces present⟩

theorem header : Portable 2 Cursor.header := by
  intro cursor after ⟨tag, count⟩ read
  obtain ⟨field, rest, announces, whole, present, rfl⟩ := Cursor.of_header_ok read
  have some := announces.length_pos
  exact ⟨tag :: field, by rw [List.length_cons]; omega, whole, .header tag announces present⟩

theorem objectIdContent (count : Nat) : Portable 0 (do
    let start ← Cursor.position
    let content ← Cursor.octets count
    Reading.lift ((Oid.ofContent content).mapError (·.shift start)) : Reading Oid) := by
  intro cursor after oid read
  obtain ⟨start, middle, here, read⟩ := Reading.of_bind_ok read
  obtain ⟨-, rfl⟩ := Prod.mk.inj here
  obtain ⟨content, behind, front, found⟩ := Reading.of_bind_ok read
  obtain ⟨taken, -, first, reads⟩ := octets count _ _ _ front
  obtain ⟨given, rfl⟩ := Prod.mk.inj found
  have known := mapError_eq_ok_iff.mp given
  refine ⟨taken, Nat.zero_le _, first, .position fun start => reads.last (.lift ?_)⟩
  exact mapError_eq_ok_iff.mpr known

theorem objectId : Portable 2 Cursor.objectId := (expectTag _).bind objectIdContent

theorem value : Portable 2 Cursor.value :=
  header.bind fun _ => (octets _).bind fun _ => pure _

theorem namedValue : Portable 4 Cursor.namedValue :=
  objectId.bind fun _ => value.bind fun _ => pure _

theorem run_of_run (portable : Portable least reading) {base taken : Nat} {octets : Octets}
    {result : α} (read : reading.run ⟨base, taken, octets⟩ = .ok result) (base' taken' : Nat) :
    reading.run ⟨base', taken', octets⟩ = .ok result := by
  obtain ⟨front, -, whole, reads⟩ := portable _ _ _ (Prod.ext read rfl)
  dsimp only at whole
  rw [whole, Reading.run, reads base' taken']

theorem le_length (portable : Portable least reading) {cursor : Cursor} {result : α}
    (read : reading.run cursor = .ok result) : least ≤ cursor.rest.length := by
  obtain ⟨front, enough, whole, -⟩ := portable _ _ _ (Prod.ext read rfl)
  rw [whole, List.length_append]
  omega

end Portable

end

/-- The octets are a sequence that is a binding by itself. -/
def Binding.IsAlone (value : Octets) (binding : Binding) : Prop :=
  value.head? = some Tag.sequence ∧ ofOctets value = .ok binding

namespace Cursor

variable {cursor after : Cursor} {field content value rest : Octets} {values : List Octets}
  {binding : Binding} {list : List Binding} {room other : Nat}

inductive Values : Cursor → List Octets → Prop
  | none {cursor : Cursor} (empty : cursor.rest = []) : Values cursor []
  | next {cursor after : Cursor} {value : Octets} {values : List Octets}
      (read : tlv cursor = (.ok value, after)) (later : Values after values) :
      Values cursor (value :: values)

theorem Values.anywhere (cut : Values cursor values) (base taken : Nat) :
    Values ⟨base, taken, cursor.rest⟩ values := by
  induction cut generalizing base taken with
  | none empty => exact .none empty
  | next read later ih =>
      obtain ⟨tag, field, content, rest, announces, front, whole, rfl⟩ := tlv_eq_ok_iff.mp read
      exact .next (tlv_eq_ok_iff.mpr ⟨tag, field, content, rest, announces, front, whole, rfl⟩)
        (ih base _)

theorem rest_ne_nil_of_tlv (read : tlv cursor = (.ok value, after)) : cursor.rest ≠ [] := by
  obtain ⟨tag, field, content, rest, -, rfl, whole, -⟩ := tlv_eq_ok_iff.mp read
  simp [whole]

theorem ofOctets_sequence (announces : Length.IsField field content.length) :
    Binding.ofOctets ((Tag.sequence :: field) ++ content) =
      namedValue.run ⟨field.length + 1, 0, content⟩ := by
  have first : (Cursor.ofOctets ((Tag.sequence :: field) ++ content)).peek? = some Tag.sequence := rfl
  have alone : Cursor.binding.run (ofOctets ((Tag.sequence :: field) ++ content ++ [])) = _ :=
    nested_run_of_value announces []
  rw [List.append_nil] at alone
  rw [Binding.ofOctets, if_pos first]
  exact alone

theorem binding_eq_ok_iff : Cursor.binding cursor = (.ok binding, after) ↔
    ∃ value, tlv cursor = (.ok value, after) ∧ Binding.IsAlone value binding := by
  constructor
  · intro read
    obtain ⟨inside, middle, opened, found⟩ := Reading.of_bind_ok read
    obtain ⟨given, rfl⟩ := Prod.mk.inj found
    obtain ⟨field, content, rest, announces, whole, rfl, rfl⟩ := constructed_eq_ok_iff.mp opened
    refine ⟨(Tag.sequence :: field) ++ content, tlv_eq_ok_iff.mpr
      ⟨_, field, content, rest, announces, rfl, by rwa [List.append_assoc], ?_⟩, rfl, ?_⟩
    · simp [Nat.add_assoc, Nat.add_comm 1]
    · rw [ofOctets_sequence announces]
      exact Portable.namedValue.run_of_run given _ _
  · rintro ⟨value, read, first, alone⟩
    obtain ⟨tag, field, content, rest, announces, rfl, whole, rfl⟩ := tlv_eq_ok_iff.mp read
    obtain rfl : tag = Tag.sequence := Option.some.inj first
    rw [ofOctets_sequence announces] at alone
    rw [List.append_assoc] at whole
    have opened := constructed_eq_ok_iff.mpr ⟨field, content, rest, announces, whole, rfl, rfl⟩
    rw [Cursor.binding, sequence, nested_of_opened opened, Portable.namedValue.run_of_run alone]
    simp [Nat.add_assoc, Nat.add_comm 1]

theorem length_of_binding_ok (read : Cursor.binding cursor = (.ok binding, after)) :
    after.rest.length + 6 ≤ cursor.rest.length := by
  obtain ⟨value, whole, first, alone⟩ := binding_eq_ok_iff.mp read
  obtain ⟨tag, field, content, rest, announces, rfl, split, rfl⟩ := tlv_eq_ok_iff.mp whole
  obtain rfl : tag = Tag.sequence := Option.some.inj first
  rw [ofOctets_sequence announces] at alone
  have four : 4 ≤ content.length := Portable.namedValue.le_length alone
  have some := announces.length_pos
  rw [split]
  simp only [List.length_append, List.length_cons]
  omega

theorem bindingsUpTo_of_nil (room : Nat) (empty : cursor.rest = []) :
    bindingsUpTo room cursor = (.ok [], cursor) := by
  cases room with
  | zero => rfl
  | succ room => exact if_pos (List.isEmpty_iff.mpr empty)

theorem bindingsUpTo_congr (enough : cursor.rest.length < 6 * room)
    (also : cursor.rest.length < 6 * other) : bindingsUpTo room cursor = bindingsUpTo other cursor := by
  induction room generalizing cursor other with
  | zero => omega
  | succ room ih =>
      obtain ⟨other, rfl⟩ : ∃ less, other = less + 1 := ⟨other - 1, by omega⟩
      by_cases empty : cursor.rest = []
      · rw [bindingsUpTo_of_nil _ empty, bindingsUpTo_of_nil _ empty]
      · rw [bindingsUpTo_succ room empty, bindingsUpTo_succ other empty]
        match read : Cursor.binding cursor with
        | (.error error, after) => rw [Reading.bind_error read, Reading.bind_error read]
        | (.ok first, after) =>
            have fewer := length_of_binding_ok read
            have same : bindingsUpTo room after = bindingsUpTo other after :=
              ih (by omega) (by omega)
            rw [Reading.bind_ok read, Reading.bind_ok read]
            match later : bindingsUpTo other after with
            | (.error error, stop) =>
                rw [Reading.bind_error later, Reading.bind_error (same.trans later)]
            | (.ok list, stop) => rw [Reading.bind_ok later, Reading.bind_ok (same.trans later)]

theorem bindingsUpTo_run_eq_ok_iff (enough : cursor.rest.length < 6 * room) :
    (bindingsUpTo room).run cursor = .ok list ↔
      ∃ values, Values cursor values ∧ List.Forall₂ Binding.IsAlone values list := by
  -- on the rounds, which do not run out since each takes six octets at least
  induction room generalizing cursor list with
  | zero => omega
  | succ room ih =>
      by_cases empty : cursor.rest = []
      · rw [Reading.run, bindingsUpTo_of_nil _ empty, Except.ok.injEq]
        constructor
        · rintro rfl
          exact ⟨[], .none empty, .nil⟩
        · rintro ⟨values, cut, alone⟩
          cases cut with
          | none =>
              cases alone
              rfl
          | next read => exact absurd empty (rest_ne_nil_of_tlv read)
      · rw [Reading.run, bindingsUpTo_succ room empty]
        constructor
        · intro read
          obtain ⟨first, middle, front, more⟩ := Reading.of_bind_ok (Prod.ext read rfl)
          obtain ⟨others, stop, later, same⟩ := Reading.of_bind_ok more
          obtain rfl := Except.ok.inj (congrArg Prod.fst same)
          have fewer := length_of_binding_ok front
          obtain ⟨value, whole, alone⟩ := binding_eq_ok_iff.mp front
          obtain ⟨values, cut, all⟩ := (ih (by omega)).mp (congrArg Prod.fst later)
          exact ⟨value :: values, .next whole cut, .cons alone all⟩
        · rintro ⟨values, cut, all⟩
          cases cut with
          | none nothing => exact absurd nothing empty
          | next read cut =>
              cases all with
              | cons alone all =>
                  have front := binding_eq_ok_iff.mpr ⟨_, read, alone⟩
                  have fewer := length_of_binding_ok front
                  have later := (ih (by omega)).mpr ⟨_, cut, all⟩
                  rw [Reading.bind_ok front, Reading.bind_ok (Prod.ext later rfl)]
                  rfl

theorem length_le_of_values (cut : Values cursor values)
    (all : List.Forall₂ Binding.IsAlone values list) : 6 * list.length ≤ cursor.rest.length := by
  induction cut generalizing list with
  | none =>
      cases all
      exact Nat.zero_le _
  | next read cut ih =>
      cases all with
      | cons alone all =>
          have fewer := length_of_binding_ok (binding_eq_ok_iff.mpr ⟨_, read, alone⟩)
          have later := ih all
          rw [List.length_cons]
          omega

/-- The content is a list of these bindings, one value after another. -/
def Lists (content : Octets) (list : List Binding) : Prop :=
  ∃ values, Values (ofOctets content) values ∧ List.Forall₂ Binding.IsAlone values list

theorem bindingsUpTo_run_remaining (enough : cursor.rest.length < 6 * room) :
    (bindingsUpTo cursor.remaining).run cursor = (bindingsUpTo room).run cursor := by
  refine congrArg Prod.fst ?_
  by_cases empty : cursor.rest = []
  · rw [bindingsUpTo_of_nil _ empty, bindingsUpTo_of_nil _ empty]
  · have some : 0 < cursor.rest.length := List.length_pos_iff.mpr empty
    exact bindingsUpTo_congr (show _ < 6 * cursor.rest.length by omega) enough

theorem bindings_run_of_opened {inside : Cursor} (opened : sequence cursor = (.ok inside, after)) :
    bindings.run cursor = (bindingsUpTo inside.remaining).run inside := by
  have read : bindings cursor = _ := nested_of_opened opened
  rw [Reading.run, read]
  rfl

/-- A sequence is read as a list of bindings just when its content falls into whole values of which
each is a binding by itself, and then the bindings are those, in order, one for six octets at most;
otherwise nothing of it is read. The rounds end by themselves. -/
theorem bindings_run_eq_ok_iff (announces : Length.IsField field content.length)
    (whole : cursor.rest = (Tag.sequence :: field) ++ (content ++ rest)) :
    (∀ list, bindings.run cursor = .ok list ↔ Lists content list) ∧
    (∀ list, Lists content list → list.length ≤ content.length / 6) ∧
    ((∀ list, ¬ Lists content list) → ∃ error, bindings.run cursor = .error error) ∧
    ∃ inside after, sequence cursor = (.ok inside, after) ∧ inside.rest = content ∧
      ∀ room, content.length / 6 < room →
        (bindingsUpTo room).run inside = bindings.run cursor := by
  have opened := constructed_eq_ok_iff.mpr ⟨field, content, rest, announces, whole, rfl, rfl⟩
  generalize cursor.base + (cursor.taken + (field.length + 1)) = base at opened
  have rounds (room : Nat) (enough : content.length / 6 < room) :
      (bindingsUpTo room).run ⟨base, 0, content⟩ = bindings.run cursor := by
    have inside : (⟨base, 0, content⟩ : Cursor).rest.length < 6 * room := by
      dsimp only
      omega
    rw [bindings_run_of_opened opened, bindingsUpTo_run_remaining inside]
  have reads (list : List Binding) : bindings.run cursor = .ok list ↔ Lists content list := by
    rw [← rounds (content.length / 6 + 1) (Nat.lt_succ_self _),
      bindingsUpTo_run_eq_ok_iff (by dsimp only; omega)]
    constructor
    · rintro ⟨values, cut, all⟩
      exact ⟨values, cut.anywhere 0 0, all⟩
    · rintro ⟨values, cut, all⟩
      exact ⟨values, cut.anywhere base 0, all⟩
  refine ⟨reads, ?_, fun none => ?_, _, _, opened, rfl, rounds⟩
  · rintro list ⟨values, cut, all⟩
    have bound : 6 * list.length ≤ content.length := length_le_of_values cut all
    omega
  · match found : bindings.run cursor with
    | .ok list => exact absurd ((reads list).mp found) (none list)
    | .error error => exact ⟨error, rfl⟩

def paddedContent : Octets :=
  [0x30, 0x08, 0x06, 0x01, 0x2B, 0x05, 0x00, 0xAA, 0xBB, 0xCC, 0x30, 0x04, 0x06, 0x00, 0x05, 0x00]

def paddedList : Cursor := ⟨3, 2, (Tag.sequence :: [0x81, 0x10]) ++ (paddedContent ++ [0x30])⟩

theorem bindings_run_eq_ok_iff_paddedList :
    bindings.run paddedList = .ok [⟨.ofNats [1, 3], .null, []⟩, ⟨.root, .null, []⟩] ∧
      Lists paddedContent [⟨.ofNats [1, 3], .null, []⟩, ⟨.root, .null, []⟩] ∧
      ∃ inside after, sequence paddedList = (.ok inside, after) ∧
        (bindingsUpTo 3).run inside = .ok [⟨.ofNats [1, 3], .null, []⟩, ⟨.root, .null, []⟩] := by
  have announces : Length.IsField [0x81, 0x10] paddedContent.length :=
    .long (by decide) (by decide) (by decide) (by decide)
  have whole : paddedList.rest = (Tag.sequence :: [0x81, 0x10]) ++ (paddedContent ++ [0x30]) := rfl
  have read : bindings.run paddedList =
      .ok [⟨.ofNats [1, 3], .null, []⟩, ⟨.root, .null, []⟩] := by decide +kernel
  obtain ⟨reads, -, -, inside, after, opened, -, rounds⟩ := bindings_run_eq_ok_iff announces whole
  exact ⟨read, (reads _).mp read, inside, after, opened, (rounds 3 (by decide)).trans read⟩

end Cursor
end RoadsideSnmp
