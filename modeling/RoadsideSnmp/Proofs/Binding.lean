import RoadsideSnmp.Binding
import RoadsideSnmp.Proofs.Ber.Reads

/-! Bindings and lists of bindings read back from what is written. A binding comes back whole if
its name is the root or can be encoded and its type is one that a reader can give. -/
namespace RoadsideSnmp

open Ber

/-- No tag that has a type of its own is kept as an unknown one. -/
def ValueType.IsNormal (type : ValueType) : Prop :=
  ∀ tag, type = .unknown tag → ∀ other ∈ known, other.tag ≠ tag

theorem ValueType.mem_known_or_unknown (type : ValueType) :
    type ∈ known ∨ ∃ tag, type = .unknown tag := by
  cases type with
  | unknown tag => exact .inr ⟨tag, rfl⟩
  | pdu kind =>
      left
      cases kind <;> decide
  | _ =>
      left
      decide

theorem ValueType.ofTag_tag_of_isNormal {type : ValueType} (normal : type.IsNormal) :
    ofTag type.tag = type := by
  obtain named | ⟨tag, rfl⟩ := mem_known_or_unknown type
  · exact ofTag_tag_of_known type named
  · have absent : known.find? (fun other => decide (other.tag = tag)) = none := by
      rw [List.find?_eq_none]
      intro other inside
      simpa using normal tag rfl other inside
    rw [ValueType.tag, ofTag, absent]
    rfl

namespace Binding

theorem toSequence_eq (binding : Binding) : binding.toSequence =
    tlv Tag.sequence (tlv Tag.objectId binding.name.toContent ++
      tlv binding.type.tag binding.content) := by
  refine Writer.written_eq (Writer.pushConstructed_eq _ ?_)
  simp only [pushValue, Writer.pushOid, Writer.pushTlv_eq, Writer.push_push]

theorem push_eq (binding : Binding) (writer : Writer) :
    binding.push writer = writer.push binding.toSequence := by
  rw [toSequence_eq, push, pushAs]
  apply Writer.pushConstructed_eq
  simp only [pushValue, Writer.pushOid, Writer.pushTlv_eq, Writer.push_push]

theorem foldr_push_eq (bindings : List Binding) (writer : Writer) :
    bindings.foldr push writer = writer.push (bindings.flatMap toSequence) := by
  induction bindings with
  | nil => rfl
  | cons binding bindings ih =>
      rw [List.foldr_cons, ih, push_eq, Writer.push_push, List.flatMap_cons]

theorem pushAll_eq (bindings : List Binding) (writer : Writer) :
    pushAll bindings writer = writer.push (tlv Tag.sequence (bindings.flatMap toSequence)) := by
  rw [pushAll, Writer.pushSequence]
  exact Writer.pushConstructed_eq _ (foldr_push_eq bindings writer)

structure IsFaithful (binding : Binding) : Prop where
  name : binding.name.IsFaithful
  type : binding.type.IsNormal

theorem length_le_toSequence (binding : Binding) :
    binding.name.toContent.length + binding.content.length ≤ binding.toSequence.length := by
  rw [toSequence_eq]
  refine Nat.le_trans ?_ (length_le_tlv _ _)
  rw [List.length_append]
  exact Nat.add_le_add (length_le_tlv _ _) (length_le_tlv _ _)

theorem length_flatMap_toSequence_ge (bindings : List Binding) :
    bindings.length ≤ (bindings.flatMap toSequence).length := by
  induction bindings with
  | nil => exact Nat.le_refl 0
  | cons binding bindings ih =>
      have some : 0 < binding.toSequence.length := by
        rw [toSequence_eq]
        exact List.length_pos_iff.mpr (tlv_ne_nil _ _)
      rw [List.flatMap_cons, List.length_append, List.length_cons]
      omega

end Binding

theorem Cursor.bindingsUpTo_succ (room : Nat) {cursor : Cursor} (some : cursor.rest ≠ []) :
    bindingsUpTo (room + 1) cursor = (do
      let first ← binding
      let rest ← bindingsUpTo room
      return first :: rest : Reading (List Binding)) cursor := by
  have unread : ¬ cursor.isEmpty = true := by simpa [isEmpty] using some
  exact if_neg unread

namespace Reads

variable {rest : Octets}

theorem value {type : ValueType} {content : Octets} (normal : type.IsNormal)
    (bounded : content.length ≤ Length.maxLength) :
    Reads Cursor.value (tlv type.tag content) rest (type, content) := by
  refine anyTag type.tag bounded (last (octets content) ?_)
  rw [ValueType.ofTag_tag_of_isNormal normal]
  exact pure (type, content)

theorem namedValue {binding : Binding} (faithful : binding.IsFaithful)
    (name : binding.name.toContent.length ≤ Length.maxLength)
    (content : binding.content.length ≤ Length.maxLength) :
    Reads Cursor.namedValue (tlv Tag.objectId binding.name.toContent ++
      tlv binding.type.tag binding.content) rest binding :=
  bind (objectId faithful.name name) (last (value faithful.type content) (pure binding))

theorem binding {binding : Binding} (faithful : binding.IsFaithful)
    (bounded : binding.toSequence.length ≤ Length.maxLength) :
    Reads Cursor.binding binding.toSequence rest binding := by
  have parts := binding.length_le_toSequence
  have inside : (tlv Tag.objectId binding.name.toContent ++
      tlv binding.type.tag binding.content).length ≤ binding.toSequence.length := by
    rw [Binding.toSequence_eq]
    exact length_le_tlv _ _
  rw [Binding.toSequence_eq]
  exact nested Tag.sequence (by omega) (namedValue faithful (by omega) (by omega))

theorem bindingsUpTo {bindings : List Binding} {room : Nat}
    (faithful : ∀ binding ∈ bindings, binding.IsFaithful)
    (bounded : (bindings.flatMap Binding.toSequence).length ≤ Length.maxLength)
    (enough : bindings.length ≤ room) :
    Reads (Cursor.bindingsUpTo room) (bindings.flatMap Binding.toSequence) [] bindings := by
  induction bindings generalizing room with
  | nil =>
      intro base taken
      cases room <;> rfl
  | cons first bindings ih =>
      rw [List.flatMap_cons, List.length_append] at bounded
      obtain ⟨room, rfl⟩ : ∃ less, room = less + 1 := ⟨room - 1, by simp at enough; omega⟩
      have front : Reads Cursor.binding first.toSequence
          (bindings.flatMap Binding.toSequence ++ []) first :=
        binding (faithful first List.mem_cons_self) (by omega)
      have others := ih (fun other inside => faithful other (List.mem_cons_of_mem _ inside))
        (by omega) (show bindings.length ≤ room by simpa using enough)
      have some : first.toSequence ++ bindings.flatMap Binding.toSequence ≠ [] := by
        simp [Binding.toSequence_eq, tlv_ne_nil]
      have whole : Reads (do
          let first ← Cursor.binding
          let rest ← Cursor.bindingsUpTo room
          return first :: rest : Reading (List Binding))
          (first.toSequence ++ bindings.flatMap Binding.toSequence) [] (first :: bindings) :=
        bind front (last others (pure (first :: bindings)))
      intro base taken
      rw [List.flatMap_cons, Cursor.bindingsUpTo_succ room (by simpa using some)]
      exact whole base taken

theorem bindings {bindings : List Binding}
    (faithful : ∀ binding ∈ bindings, binding.IsFaithful)
    (bounded : (bindings.flatMap Binding.toSequence).length ≤ Length.maxLength) :
    Reads Cursor.bindings (tlv Tag.sequence (bindings.flatMap Binding.toSequence)) rest
      bindings := by
  refine nested Tag.sequence bounded fun base taken => ?_
  refine bindingsUpTo faithful bounded ?_ base taken
  simpa [Cursor.remaining] using Binding.length_flatMap_toSequence_ge bindings

end Reads
end RoadsideSnmp
