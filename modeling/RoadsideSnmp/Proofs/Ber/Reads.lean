import RoadsideSnmp.Ber.Cursor
import RoadsideSnmp.Proofs.Ber.Length
import RoadsideSnmp.Proofs.Ber.Number
import RoadsideSnmp.Proofs.Ber.Tlv
import RoadsideSnmp.Proofs.Oid.Content

/-! Readings that succeed. `Reads` says what a reading makes of the octets in front of it,
wherever in the outermost string it stands; the readers of tagged values follow the writers.
Length fields bound what can be read, so each law about a value is about content of at most
`maxLength` octets. -/
namespace RoadsideSnmp

open Ber

/-- The reading takes `octets`, leaves `rest` and gives the result. -/
def Reads {α : Type} (reading : Reading α) (octets rest : Octets) (result : α) : Prop :=
  ∀ base taken, reading ⟨base, taken, octets ++ rest⟩ =
    (.ok result, ⟨base, taken + octets.length, rest⟩)

namespace Reads

variable {α β : Type} {rest : Octets}

theorem pure (result : α) : Reads (Pure.pure result : Reading α) [] rest result := by
  intro base taken
  rfl

theorem bind {reading : Reading α} {next : α → Reading β} {front back : Octets} {found : α}
    {result : β} (first : Reads reading front (back ++ rest) found)
    (second : Reads (next found) back rest result) :
    Reads (reading >>= next) (front ++ back) rest result := by
  intro base taken
  rw [List.append_assoc, Reading.bind_ok (first base taken), second, List.length_append,
    Nat.add_assoc]

theorem look {reading : Reading α} {next : α → Reading β} {octets : Octets} {found : α}
    {result : β} (first : Reads reading [] (octets ++ rest) found)
    (second : Reads (next found) octets rest result) :
    Reads (reading >>= next) octets rest result :=
  bind first second

theorem last {reading : Reading α} {next : α → Reading β} {octets : Octets} {found : α}
    {result : β} (first : Reads reading octets rest found)
    (second : Reads (next found) [] rest result) :
    Reads (reading >>= next) octets rest result := by
  have whole := @bind _ _ rest reading next octets [] found result first second
  rwa [List.append_nil] at whole

theorem position {next : Nat → Reading α} {octets : Octets} {result : α}
    (read : ∀ offset, Reads (next offset) octets rest result) :
    Reads (Cursor.position >>= next) octets rest result := by
  intro base taken
  rw [Reading.bind_ok (show Cursor.position _ = _ from rfl)]
  exact read _ base taken

theorem lift {result : Except DecodeError α} {value : α} (found : result = .ok value) :
    Reads (Reading.lift result) [] rest value := by
  intro base taken
  rw [found]
  rfl

theorem octet (first : UInt8) : Reads Cursor.octet [first] rest first := by
  intro base taken
  rfl

theorem octets (content : Octets) : Reads (Cursor.octets content.length) content rest content := by
  intro base taken
  simp [Cursor.octets, Cursor.remaining, Cursor.advance]

theorem length {field : Octets} {length : Nat} (announces : Length.IsField field length) :
    Reads Cursor.length field rest length := by
  intro base taken
  simp [Cursor.length, Length.decode_of_isField announces, Cursor.advance]

theorem require {count : Nat} (present : count ≤ rest.length) (fault : Nat → DecodeFault) :
    Reads (Cursor.require count fault) [] rest () := by
  intro base taken
  simp [Cursor.require, Cursor.remaining, Nat.not_lt.mpr present]

theorem expectTag (tag : UInt8) {field : Octets} {count : Nat}
    (announces : Length.IsField field count) (present : count ≤ rest.length) :
    Reads (Cursor.expectTag tag) (tag :: field) rest count := by
  have measured : Reads (do
      let count ← Cursor.length
      Cursor.require count (.insufficient count)
      return count : Reading Nat) field rest count :=
    last (length announces) (look (require present _) (pure count))
  intro base taken
  have after := measured base (taken + 1)
  simp only [Cursor.expectTag, List.cons_append, ne_eq, not_true_eq_false, if_false]
  refine Eq.trans ?_ (after.trans ?_)
  · rfl
  · simp [Nat.add_assoc, Nat.add_comm 1]

theorem header (tag : UInt8) {field : Octets} {count : Nat}
    (announces : Length.IsField field count) (present : count ≤ rest.length) :
    Reads Cursor.header (tag :: field) rest (tag, count) := by
  show Reads Cursor.header ([tag] ++ field) rest (tag, count)
  exact bind (octet tag) (last (length announces) (look (require present _) (pure (tag, count))))

variable {content : Octets}

theorem tagged (tag : UInt8) {next : Nat → Reading α} {result : α}
    (bounded : content.length ≤ Length.maxLength)
    (read : Reads (next content.length) content rest result) :
    Reads (Cursor.expectTag tag >>= next) (tlv tag content) rest result :=
  bind (expectTag tag (Length.isField_encode bounded) (by simp)) read

theorem anyTag (tag : UInt8) {next : UInt8 × Nat → Reading α} {result : α}
    (bounded : content.length ≤ Length.maxLength)
    (read : Reads (next (tag, content.length)) content rest result) :
    Reads (Cursor.header >>= next) (tlv tag content) rest result :=
  bind (header tag (Length.isField_encode bounded) (by simp)) read

theorem integerContent (some : content ≠ []) :
    Reads (Cursor.integerContent content.length) content rest (Number.toInt32 content) := by
  have count : content.length ≠ 0 := by simpa using some
  rw [Cursor.integerContent, if_neg count]
  exact last (octets content) (pure _)

theorem integer (number : Int32) :
    Reads Cursor.integer (tlv Tag.integer (Number.ofInt32 number)) rest number := by
  have short := Number.length_ofInt32_le number
  have read : Reads _ _ rest _ := integerContent (Number.ofInt32_ne_nil number)
  rw [Number.toInt32_ofInt32] at read
  exact tagged Tag.integer (Nat.le_trans short (by decide)) read

theorem octetString (bounded : content.length ≤ Length.maxLength) :
    Reads Cursor.octetString (tlv Tag.octetString content) rest content :=
  tagged Tag.octetString bounded (octets content)

theorem objectId {oid : Oid} (faithful : oid.IsFaithful)
    (bounded : oid.toContent.length ≤ Length.maxLength) :
    Reads Cursor.objectId (tlv Tag.objectId oid.toContent) rest oid := by
  refine tagged Tag.objectId bounded (position fun start => last (octets _) (lift ?_))
  rw [Oid.ofContent_toContent_of_isFaithful faithful]
  rfl

theorem constructed (tag : UInt8) {field : Octets}
    (announces : Length.IsField field content.length) (rest : Octets) (base taken : Nat) :
    Cursor.constructed tag ⟨base, taken, (tag :: field) ++ (content ++ rest)⟩ =
      (.ok ⟨base + (taken + (field.length + 1)), 0, content⟩,
        ⟨base, taken + (field.length + 1) + content.length, rest⟩) := by
  have present : content.length ≤ (content ++ rest).length := by simp
  have opened := expectTag tag announces present base taken
  have inside : Reads _ _ rest _ := octets content
  rw [Cursor.constructed, Reading.bind_ok opened, Cursor.inner, inside base]
  rfl

theorem nested (tag : UInt8) {inner : Reading α} {result : α}
    (bounded : content.length ≤ Length.maxLength) (read : Reads inner content [] result) :
    Reads (Cursor.nested (Cursor.constructed tag) inner) (tlv tag content) rest result := by
  intro base taken
  have opened := constructed tag (Length.isField_encode bounded) rest base taken
  have found := read (base + (taken + ((Length.encode content.length).length + 1))) 0
  rw [List.append_nil] at found
  rw [tlv_eq, List.append_assoc, Cursor.nested, Reading.bind_ok opened, Reading.lift, Reading.run,
    found]
  simp [Nat.add_assoc, Nat.add_comm 1]

theorem run {reading : Reading α} {octets : Octets} {result : α}
    (read : Reads reading octets rest result) :
    reading.run (Cursor.ofOctets (octets ++ rest)) = .ok result := by
  rw [Reading.run, Cursor.ofOctets, read 0 0]

end Reads
end RoadsideSnmp
