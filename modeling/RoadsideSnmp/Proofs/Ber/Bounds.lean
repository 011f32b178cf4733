import RoadsideSnmp.Message
import RoadsideSnmp.Proofs.Ber.Extent

/-! Readings of octets from anywhere stay where they are. Whether a reading succeeds or fails, its
cursor goes on past octets that are there, what it gives is cut out of them, and a fault that it
reports lies among them. Each way of putting readings together keeps this, so every reader of a
tagged value, a binding or a message has it from its parts. -/
namespace RoadsideSnmp

open Ber

namespace Cursor

/-- A later state of a cursor, with the octets between the two. -/
structure Passes (before : Cursor) (front : Octets) (after : Cursor) : Prop where
  base : after.base = before.base
  taken : after.taken = before.taken + front.length
  rest : before.rest = front ++ after.rest

namespace Passes

variable {before middle after : Cursor} {front back : Octets}

theorem refl (cursor : Cursor) : cursor.Passes [] cursor := ⟨rfl, rfl, rfl⟩

theorem trans (first : before.Passes front middle) (second : middle.Passes back after) :
    before.Passes (front ++ back) after where
  base := second.base.trans first.base
  taken := by rw [second.taken, first.taken, List.length_append, Nat.add_assoc]
  rest := by rw [first.rest, second.rest, List.append_assoc]

theorem offset (passes : before.Passes front after) :
    after.offset = before.offset + front.length := by
  rw [Cursor.offset, Cursor.offset, passes.base, passes.taken, Nat.add_assoc]

theorem take_rest (passes : before.Passes front after) :
    before.rest.take (after.taken - before.taken) = front := by
  rw [passes.taken, passes.rest, Nat.add_sub_cancel_left, List.take_left]

theorem advance {cursor : Cursor} {count : Nat} (present : count ≤ cursor.rest.length) :
    cursor.Passes (cursor.rest.take count) (cursor.advance count) where
  base := rfl
  taken := by
    rw [List.length_take_of_le present]
    rfl
  rest := (List.take_append_drop count cursor.rest).symm

end Passes

def Ahead (cursor : Cursor) (start : Nat) (slice : Octets) : Prop :=
  ∃ front back, cursor.rest = front ++ (slice ++ back) ∧ start = cursor.offset + front.length

theorem Ahead.mono {before middle : Cursor} {front slice : Octets} {start : Nat}
    (ahead : middle.Ahead start slice) (passes : before.Passes front middle) :
    before.Ahead start slice := by
  obtain ⟨between, back, rest, rfl⟩ := ahead
  refine ⟨front ++ between, back, ?_, ?_⟩
  · rw [passes.rest, rest, List.append_assoc]
  · rw [passes.offset, List.length_append, Nat.add_assoc]

end Cursor

section

variable {α : Type}

/-- What a reading that began at `before` may have come to. -/
structure Sound (Gives : Cursor → Cursor → α → Prop) (before : Cursor)
    (outcome : Except DecodeError α × Cursor) : Prop where
  passes : ∃ front, before.Passes front outcome.2
  gives : ∀ result, outcome.1 = .ok result → Gives before outcome.2 result
  fault : ∀ error, outcome.1 = .error error →
    before.offset ≤ error.offset ∧ error.offset ≤ outcome.2.offset

/-- Wherever it begins, what it gives is as `Gives` says of the cursor before and after. -/
def Keeps (reading : Reading α) (Gives : Cursor → Cursor → α → Prop) : Prop :=
  ∀ cursor, Sound Gives cursor (reading cursor)

def Anything (_before _after : Cursor) (_result : α) : Prop := True

def Passed (before after : Cursor) (octets : Octets) : Prop := before.Passes octets after

def Ends (before after : Cursor) (octets : Octets) : Prop :=
  ∃ front, before.Passes (front ++ octets) after

def Opens (before after inside : Cursor) : Prop :=
  ∃ front content, before.Passes (front ++ content) after ∧
    inside = ⟨before.offset + front.length, 0, content⟩

def Shows (parts : α → List Octets) (before after : Cursor) (result : α) : Prop :=
  ∀ part ∈ parts result, ∃ start, before.Ahead start part ∧ start + part.length ≤ after.offset

def Lasting (Gives : Cursor → Cursor → α → Prop) : Prop :=
  ∀ {before front middle after result}, before.Passes front middle →
    Gives middle after result → Gives before after result

variable {before after : Cursor} {octets : Octets} {parts : α → List Octets}

theorem lasting_anything : Lasting (Anything (α := α)) := fun _ _ => trivial

theorem lasting_ends : Lasting Ends := by
  rintro before front middle after octets passes ⟨between, ends⟩
  refine ⟨front ++ between, ?_⟩
  rw [List.append_assoc]
  exact passes.trans ends

theorem lasting_opens : Lasting Opens := by
  rintro before front middle after inside passes ⟨between, content, ends, rfl⟩
  refine ⟨front ++ between, content, ?_, ?_⟩
  · rw [List.append_assoc]
    exact passes.trans ends
  · rw [passes.offset, List.length_append, Nat.add_assoc]

theorem lasting_shows : Lasting (Shows parts) := by
  intro before front middle after result passes cut part inside
  obtain ⟨start, ahead, stop⟩ := cut part inside
  exact ⟨start, ahead.mono passes, stop⟩

theorem Shows.extend {middle : Cursor} {result : α} (shown : Shows parts before middle result)
    (passes : middle.Passes octets after) : Shows parts before after result := by
  intro part inside
  obtain ⟨start, ahead, stop⟩ := shown part inside
  have offset := passes.offset
  exact ⟨start, ahead, by omega⟩

namespace Opens

variable {inside : Cursor}

theorem offset_le (opens : Opens before after inside) : before.offset ≤ inside.offset := by
  obtain ⟨front, content, -, rfl⟩ := opens
  exact Nat.le_add_right before.offset front.length

theorem le_offset (opens : Opens before after inside) {front : Octets} {later : Cursor}
    (passes : inside.Passes front later) : later.offset ≤ after.offset := by
  obtain ⟨header, content, outer, rfl⟩ := opens
  have whole : content = front ++ later.rest := passes.rest
  have inner : later.offset = before.offset + header.length + front.length := passes.offset
  rw [inner, outer.offset, whole]
  simp only [List.length_append]
  omega

theorem ahead (opens : Opens before after inside) {start : Nat} {slice : Octets}
    (ahead : inside.Ahead start slice) : before.Ahead start slice := by
  obtain ⟨header, content, outer, rfl⟩ := opens
  obtain ⟨front, back, rest, rfl⟩ := ahead
  have whole : content = front ++ (slice ++ back) := rest
  refine ⟨header ++ front, back ++ after.rest, ?_, ?_⟩
  · rw [outer.rest, whole]
    simp only [List.append_assoc]
  · rw [List.length_append, ← Nat.add_assoc]
    rfl

end Opens

theorem Ends.shows (ends : Ends before after octets) :
    Shows (fun octets => [octets]) before after octets := by
  obtain ⟨front, passes⟩ := ends
  intro part inside
  obtain rfl := List.mem_singleton.mp inside
  refine ⟨before.offset + front.length, ⟨front, after.rest, ?_, rfl⟩, ?_⟩
  · rw [passes.rest, List.append_assoc]
  · rw [passes.offset, List.length_append, Nat.add_assoc]

end

namespace Sound

variable {α β : Type} {Gives : Cursor → Cursor → α → Prop} {Wholly : Cursor → Cursor → β → Prop}
  {before middle after : Cursor} {front : Octets}

theorem ok {result : α} (passes : before.Passes front after) (gives : Gives before after result) :
    Sound Gives before (.ok result, after) where
  passes := ⟨front, passes⟩
  gives _ same := Except.ok.inj same ▸ gives
  fault error failed := by simp at failed

theorem error {error : DecodeError} (passes : before.Passes front after)
    (low : before.offset ≤ error.offset) (high : error.offset ≤ after.offset) :
    Sound Gives before (.error error, after) where
  passes := ⟨front, passes⟩
  gives result found := by simp at found
  fault _ same := Except.error.inj same ▸ ⟨low, high⟩

theorem fail (fault : DecodeFault) : Sound Gives before (Cursor.fail fault before) :=
  error (.refl before) (Nat.le_refl _) (Nat.le_refl _)

theorem failed {outcome : Except DecodeError α × Cursor} {fault : DecodeError}
    (sound : Sound Gives before outcome) (same : outcome.1 = .error fault) :
    Sound Wholly before (.error fault, outcome.2) := by
  obtain ⟨front, passes⟩ := sound.passes
  obtain ⟨low, high⟩ := sound.fault fault same
  exact error passes low high

theorem onward {Other : Cursor → Cursor → α → Prop} {outcome : Except DecodeError α × Cursor}
    (sound : Sound Gives middle outcome) (passes : before.Passes front middle)
    (join : ∀ {back after result}, middle.Passes back after → Gives middle after result →
      Other before after result) : Sound Other before outcome := by
  obtain ⟨back, more⟩ := sound.passes
  constructor
  · exact ⟨front ++ back, passes.trans more⟩
  · exact fun result found => join more (sound.gives result found)
  · intro error failed
    obtain ⟨low, high⟩ := sound.fault error failed
    have offset := passes.offset
    exact ⟨by omega, high⟩

theorem later {outcome : Except DecodeError α × Cursor} (sound : Sound Gives middle outcome)
    (passes : before.Passes front middle) (lasting : Lasting Gives) :
    Sound Gives before outcome :=
  sound.onward passes fun _ => lasting passes

theorem bind {reading : Reading α} {next : α → Reading β}
    (first : Sound Gives before (reading before))
    (second : ∀ {found front middle}, before.Passes front middle → Gives before middle found →
      Sound Wholly before (next found middle)) :
    Sound Wholly before ((reading >>= next) before) := by
  match read : reading before with
  | (.ok found, middle) =>
      rw [read] at first
      rw [Reading.bind_ok read]
      obtain ⟨front, passes⟩ := first.passes
      exact second passes (first.gives found rfl)
  | (.error fault, middle) =>
      rw [read] at first
      rw [Reading.bind_error read]
      exact first.failed rfl

end Sound

namespace Keeps

variable {α β : Type} {Gives : Cursor → Cursor → α → Prop} {Wholly : Cursor → Cursor → β → Prop}
  {reading : Reading α} {next : α → Reading β} {parts : α → List Octets}

theorem weaken {Other : Cursor → Cursor → α → Prop} (keeps : Keeps reading Gives)
    (gives : ∀ {before after result}, Gives before after result → Other before after result) :
    Keeps reading Other := fun cursor =>
  ⟨(keeps cursor).passes, fun result found => gives ((keeps cursor).gives result found),
    (keeps cursor).fault⟩

theorem fail (fault : DecodeFault) : Keeps (Cursor.fail fault) Gives := fun _ => .fail fault

theorem andThen (first : Keeps reading Gives) (second : ∀ found, Keeps (next found) Wholly)
    (lasting : Lasting Wholly) : Keeps (reading >>= next) Wholly := fun cursor =>
  (first cursor).bind fun {found _ middle} passes _ => (second found middle).later passes lasting

theorem map (change : α → β) (keeps : Keeps reading Gives)
    (gives : ∀ {before after found}, Gives before after found →
      Wholly before after (change found)) :
    Keeps (reading >>= fun found => pure (change found)) Wholly := fun cursor =>
  (keeps cursor).bind fun passes given => .ok passes (gives given)

theorem nested {outer : Reading Cursor} {content : Reading α} (opens : Keeps outer Opens)
    (inner : Keeps content (Shows parts)) : Keeps (Cursor.nested outer content) (Shows parts) := by
  intro cursor
  refine (opens cursor).bind fun {inside _ middle} passes opened => ?_
  have sound := inner inside
  obtain ⟨taken, within⟩ := sound.passes
  have low := opened.offset_le
  have high := opened.le_offset within
  constructor
  · exact ⟨_, passes⟩
  · intro result found part among
    obtain ⟨start, ahead, stop⟩ := sound.gives result found part among
    exact ⟨start, opened.ahead ahead, Nat.le_trans stop high⟩
  · intro error failed
    obtain ⟨above, below⟩ := sound.fault error failed
    exact ⟨Nat.le_trans low above, Nat.le_trans below high⟩

end Keeps

theorem Ber.Length.offset_of_decode {octets : Octets} {base : Nat} {error : DecodeError}
    (failed : decode octets base = .error error) : error.offset = base := by
  unfold decode at failed
  split at failed
  · rw [← Except.error.inj failed]
  · dsimp only at failed
    split at failed
    · rw [← Except.error.inj failed]
    split at failed
    · simp at failed
    split at failed
    · rw [← Except.error.inj failed]
    split at failed
    · rw [← Except.error.inj failed]
    split at failed
    · rw [← Except.error.inj failed]
    · simp at failed

namespace Oid

theorem offset_of_readNumbers {octets : Octets} {offset number room : Nat} {midway : Bool}
    {error : DecodeError} (failed : readNumbers octets offset number midway room = .error error) :
    offset ≤ error.offset ∧ error.offset ≤ offset + octets.length := by
  induction octets generalizing offset number midway room with
  | nil =>
      unfold readNumbers at failed
      split at failed
      · rw [← Except.error.inj failed]
        exact ⟨Nat.le_refl _, Nat.le_refl _⟩
      · simp at failed
  | cons octet octets ih =>
      unfold readNumbers at failed
      split at failed
      · rw [← Except.error.inj failed]
        exact ⟨Nat.le_refl _, Nat.le_add_right _ _⟩
      dsimp only at failed
      split at failed
      · have inside := ih failed
        rw [List.length_cons]
        omega
      split at failed
      · rw [← Except.error.inj failed, List.length_cons]
        dsimp only
        omega
      · next room =>
          cases rest : readNumbers octets (offset + 1) 0 false room with
          | ok numbers => simp [rest, Except.map] at failed
          | error inner =>
              obtain rfl : inner = error := by simpa [rest, Except.map] using failed
              have inside := ih rest
              rw [List.length_cons]
              omega

theorem offset_of_ofContent {octets : Octets} {error : DecodeError}
    (failed : ofContent octets = .error error) : error.offset ≤ octets.length := by
  unfold ofContent at failed
  cases read : readNumbers octets 0 0 false (maxArcs - 1) with
  | ok numbers => simp [read, Except.map] at failed
  | error inner =>
      have inside := offset_of_readNumbers read
      obtain rfl : inner = error := by simpa [read, Except.map] using failed
      omega

end Oid

namespace Keeps

theorem octet : Keeps Cursor.octet Anything := by
  intro cursor
  unfold Cursor.octet
  split
  · exact .fail .truncated
  · next first rest same =>
      exact .ok (Cursor.Passes.advance (by simp [same])) trivial

theorem length : Keeps Cursor.length Anything := by
  intro cursor
  unfold Cursor.length
  split
  · next count width decoded =>
      obtain ⟨field, rest, whole, rfl, -⟩ := Length.isField_of_decode decoded
      exact .ok (Cursor.Passes.advance (by simp [whole])) trivial
  · next error failed =>
      have offset := Length.offset_of_decode failed
      exact .error (.refl cursor) offset.ge offset.le

theorem octets (count : Nat) : Keeps (Cursor.octets count) Passed := by
  intro cursor
  unfold Cursor.octets
  split
  · exact .fail _
  · next present =>
      have passes := Cursor.Passes.advance (Nat.not_lt.mp present)
      exact .ok passes passes

theorem require (count : Nat) (fault : Nat → DecodeFault) :
    Keeps (Cursor.require count fault) Anything := by
  intro cursor
  unfold Cursor.require
  split
  · exact .fail _
  · exact .ok (.refl cursor) trivial

theorem measured {β : Type} (fault : Nat → Nat → DecodeFault) (give : Nat → β) :
    Keeps (do
      let count ← Cursor.length
      Cursor.require count (fault count)
      return give count : Reading β) Anything :=
  length.andThen (fun count => (require count (fault count)).map (fun _ => give count)
    fun _ => trivial) lasting_anything

theorem expectTag (tag : UInt8) : Keeps (Cursor.expectTag tag) Anything := by
  intro cursor
  unfold Cursor.expectTag
  split
  · exact .fail .truncated
  · next actual rest same =>
      split
      · exact .fail _
      · exact (measured .insufficient id _).later (Cursor.Passes.advance (by simp [same]))
          lasting_anything

theorem header : Keeps Cursor.header Anything :=
  octet.andThen (fun tag => measured (fun _ _ => .overflow) fun count => (tag, count))
    lasting_anything

theorem tagged {α : Type} {Gives : Cursor → Cursor → α → Prop} (tag : UInt8)
    {next : Nat → Reading α} (content : ∀ count, Keeps (next count) Gives)
    (lasting : Lasting Gives) : Keeps (Cursor.expectTag tag >>= next) Gives :=
  (expectTag tag).andThen content lasting

theorem number {α : Type} (convert : Octets → α) (count : Nat) :
    Keeps (do
      let content ← Cursor.octets count
      return convert content : Reading α) Anything :=
  (octets count).map convert fun _ => trivial

theorem integerContent (count : Nat) : Keeps (Cursor.integerContent count) Anything := by
  unfold Cursor.integerContent
  split
  · exact fail _
  · exact number Number.toInt32 count

theorem integer : Keeps Cursor.integer Anything :=
  tagged Tag.integer integerContent lasting_anything

theorem unsignedContent (count : Nat) : Keeps (Cursor.unsignedContent count) Anything := by
  unfold Cursor.unsignedContent
  split
  · exact fail _
  · exact number Number.toUInt32 count

theorem unsigned (tag : UInt8) : Keeps (Cursor.unsigned tag) Anything :=
  tagged tag unsignedContent lasting_anything

theorem counter64Content (count : Nat) : Keeps (Cursor.counter64Content count) Anything := by
  unfold Cursor.counter64Content
  split
  · exact fail _
  split
  · exact fail _
  · exact number Number.toUInt64 count

theorem counter64 (tag : UInt8) : Keeps (Cursor.counter64 tag) Anything :=
  tagged tag counter64Content lasting_anything

theorem lastOctets (count : Nat) : Keeps (Cursor.octets count) Ends :=
  (octets count).weaken fun passes => ⟨[], passes⟩

theorem octetString : Keeps Cursor.octetString Ends :=
  tagged Tag.octetString lastOctets lasting_ends

theorem null : Keeps Cursor.null Anything := by
  refine tagged Tag.null (fun count cursor => ?_) lasting_anything
  split
  · exact .fail _
  · exact .ok (.refl cursor) trivial

theorem objectId : Keeps Cursor.objectId Anything := by
  refine tagged Tag.objectId (fun count cursor => ?_) lasting_anything
  refine (octets count cursor).bind fun {content _ middle} _ passes => ?_
  unfold Reading.lift
  cases read : Oid.ofContent content with
  | ok oid => exact .ok passes trivial
  | error fault =>
      have inside := Oid.offset_of_ofContent read
      refine .error passes (Nat.le_add_right _ _) ?_
      rw [passes.offset]
      exact Nat.add_le_add_left inside _

theorem ipAddress : Keeps Cursor.ipAddress Ends := by
  refine tagged Tag.ipAddress (fun count cursor => ?_) lasting_ends
  split
  · exact .fail _
  · exact lastOctets 4 cursor

theorem inner (count : Nat) : Keeps (Cursor.inner count) Opens := by
  intro cursor
  have sound := octets count cursor
  unfold Cursor.inner
  split
  · next content after read =>
      rw [read] at sound
      have passes := sound.gives content rfl
      exact .ok passes ⟨[], content, passes, rfl⟩
  · next error after read =>
      rw [read] at sound
      exact sound.failed rfl

theorem constructed (tag : UInt8) : Keeps (Cursor.constructed tag) Opens :=
  tagged tag inner lasting_opens

theorem tlv : Keeps Cursor.tlv Passed := by
  intro cursor
  have sound := header cursor
  unfold Cursor.tlv
  split
  · next tag count inside opened =>
      rw [opened] at sound
      obtain ⟨field, front⟩ := sound.passes
      have present : count ≤ inside.rest.length := by
        obtain ⟨_, _, -, -, present, rfl⟩ := Cursor.of_header_ok opened
        exact present
      have passes := front.trans (Cursor.Passes.advance present)
      dsimp only
      rw [passes.take_rest]
      exact .ok passes passes
  · next error after read =>
      rw [read] at sound
      exact sound.failed rfl

theorem skip : Keeps Cursor.skip Anything := tlv.map (fun _ => ()) fun _ => trivial

theorem value : Keeps Cursor.value (Shows fun found => [found.2]) :=
  header.andThen (fun _ => (lastOctets _).map _ Ends.shows) lasting_shows

theorem namedValue : Keeps Cursor.namedValue (Shows fun found => [found.content]) :=
  objectId.andThen (fun _ => value.map _ id) lasting_shows

theorem binding : Keeps Cursor.binding (Shows fun found => [found.content]) :=
  nested (constructed Tag.sequence) namedValue

theorem bindingsUpTo (room : Nat) :
    Keeps (Cursor.bindingsUpTo room) (Shows (List.map Binding.content)) := by
  induction room with
  | zero =>
      intro cursor
      exact .ok (.refl cursor) (by simp [Shows])
  | succ room ih =>
      intro cursor
      unfold Cursor.bindingsUpTo
      split
      · exact .ok (.refl cursor) (by simp [Shows])
      · refine (binding cursor).bind fun {first _ middle} passes shown => ?_
        have others : Keeps (Cursor.bindingsUpTo room >>= fun rest => pure (first :: rest))
            (fun before after found => ∃ rest, found = first :: rest ∧
              Shows (List.map Binding.content) before after rest) :=
          ih.map (first :: ·) fun shown => ⟨_, rfl, shown⟩
        refine (others middle).onward passes fun more ⟨rest, same, cut⟩ => ?_
        rw [same]
        exact List.forall_mem_cons.mpr ⟨shown.extend more _ (by simp), lasting_shows passes cut⟩

theorem bindings : Keeps Cursor.bindings (Shows (List.map Binding.content)) :=
  nested (constructed Tag.sequence) fun cursor => bindingsUpTo cursor.remaining cursor

theorem version : Keeps Cursor.version Anything := by
  intro cursor
  refine (integer cursor).bind fun {number _ middle} passes _ => ?_
  have offset := passes.offset
  cases ProtocolVersion.ofCode? number with
  | some version => exact .ok passes trivial
  | none => exact .error passes (Nat.le_refl cursor.offset) (by dsimp only [Cursor.position]; omega)

theorem pduKind : Keeps Cursor.pduKind Anything := by
  intro cursor
  unfold Cursor.pduKind
  split
  · exact .fail _
  split
  · exact .fail _
  · exact .fail _
  · exact .ok (.refl cursor) trivial

theorem bindingsIfAny : Keeps Cursor.bindingsIfAny (Shows (List.map Binding.content)) := by
  intro cursor
  unfold Cursor.bindingsIfAny
  split
  · exact .ok (.refl cursor) (by simp [Shows])
  · exact bindings cursor

theorem pduBody (version : ProtocolVersion) (community : String) (kind : PduKind) :
    Keeps (Cursor.pduBody version community kind)
      (Shows fun message => message.bindings.map Binding.content) :=
  integer.andThen (fun _ => integer.andThen (fun _ => integer.andThen (fun _ =>
    bindingsIfAny.map _ id) lasting_shows) lasting_shows) lasting_shows

theorem messageContent : Keeps Cursor.messageContent
    (Shows fun message => message.bindings.map Binding.content) :=
  version.andThen (fun version => octetString.andThen (fun _ => pduKind.andThen (fun kind =>
    nested (constructed kind.tag) (pduBody version _ kind)) lasting_shows) lasting_shows)
    lasting_shows

theorem message : Keeps Cursor.message
    (Shows fun message => message.bindings.map Binding.content) :=
  nested (constructed Tag.sequence) messageContent

end Keeps
end RoadsideSnmp
