import RoadsideSnmp.Proofs.Binding
import RoadsideSnmp.Proofs.Binding.Number

/-! A binding written in each of the three layouts that are told apart by the first tag: a sequence
of name and value, a name followed by a value, a value alone. Whatever stands behind it, each is
read back as what it was; only a value that is itself a sequence or an identifier cannot stand
alone, since its own tag announces another layout. -/
namespace RoadsideSnmp

open Ber

theorem Oid.length_toContent_le_of_isFaithful {oid : Oid} (faithful : oid.IsFaithful) :
    oid.toContent.length ≤ Length.maxLength := by
  have size := size_le_of_isFaithful faithful
  have arcs : maxArcs = 128 := rfl
  have limit : Length.maxLength = 16777215 := rfl
  have octets := oid.length_toContent_le
  omega

theorem ValueType.tag_ne {type other : ValueType} (normal : type.IsNormal)
    (named : other ∈ known) (differs : type ≠ other) : type.tag ≠ other.tag := by
  intro same
  refine differs ?_
  rw [← ofTag_tag_of_isNormal normal, same, ofTag_tag_of_known other named]

theorem Writer.written_pushOid (oid : Oid) :
    written (pushOid oid) = tlv Tag.objectId oid.toContent :=
  written_eq (pushTlv_eq _ _ _)

namespace Binding

variable {binding : Binding}

theorem ofOctets_toSequence (faithful : binding.IsFaithful)
    (bounded : binding.toSequence.length ≤ Length.maxLength) (trailing : Octets) :
    ofOctets (binding.toSequence ++ trailing) = .ok binding := by
  have first : (Cursor.ofOctets (binding.toSequence ++ trailing)).peek? = some Tag.sequence := by
    rw [toSequence_eq]
    rfl
  rw [ofOctets, if_pos first]
  exact (Reads.binding faithful bounded).run

theorem ofOctets_named (faithful : binding.IsFaithful)
    (bounded : binding.content.length ≤ Length.maxLength) (trailing : Octets) :
    ofOctets (Writer.written (Writer.pushOid binding.name) ++ binding.toTlv ++ trailing) =
      .ok binding := by
  have name := Oid.length_toContent_le_of_isFaithful faithful.name
  have first : (Cursor.ofOctets (tlv Tag.objectId binding.name.toContent ++
      tlv binding.type.tag binding.content ++ trailing)).peek? = some Tag.objectId := rfl
  have neither : some Tag.objectId ≠ some Tag.sequence := by decide
  rw [Writer.written_pushOid, toTlv_eq, ofOctets, first, if_neg neither, if_pos rfl]
  exact (Reads.namedValue faithful name bounded).run

theorem ofOctets_toTlv (normal : binding.type.IsNormal)
    (bounded : binding.content.length ≤ Length.maxLength) (sequence : binding.type ≠ .sequence)
    (objectId : binding.type ≠ .objectId) (trailing : Octets) :
    ofOctets (binding.toTlv ++ trailing) = .ok { binding with name := Oid.root } := by
  have reads : Reads _ _ trailing _ := Reads.value normal bounded
  have first : (Cursor.ofOctets (binding.toTlv ++ trailing)).peek? = some binding.type.tag := by
    rw [toTlv_eq]
    rfl
  have notSequence : some binding.type.tag ≠ some Tag.sequence := fun same =>
    ValueType.tag_ne normal (by decide) sequence (Option.some.inj same)
  have notObjectId : some binding.type.tag ≠ some Tag.objectId := fun same =>
    ValueType.tag_ne normal (by decide) objectId (Option.some.inj same)
  rw [ofOctets, first, if_neg notSequence, if_neg notObjectId, toTlv_eq, reads.run]
  rfl

/-- Each layout of a binding is read back as what was written, whatever follows it. -/
theorem reads_every_layout (faithful : binding.IsFaithful) (trailing : Octets) :
    (binding.toSequence.length ≤ Length.maxLength →
      ofOctets (binding.toSequence ++ trailing) = .ok binding) ∧
    (binding.content.length ≤ Length.maxLength →
      ofOctets (Writer.written (Writer.pushOid binding.name) ++ binding.toTlv ++ trailing) =
          .ok binding ∧
        (binding.type ≠ .sequence → binding.type ≠ .objectId →
          ofOctets (binding.toTlv ++ trailing) = .ok { binding with name := .root })) :=
  ⟨fun bounded => ofOctets_toSequence faithful bounded trailing, fun bounded =>
    ⟨ofOctets_named faithful bounded trailing, fun sequence objectId =>
      ofOctets_toTlv faithful.type bounded sequence objectId trailing⟩⟩

def misleading : Binding :=
  ⟨.ofNats [1, 3, 6, 1, 4, 1, 1206], .unknown 0x31, 0x30 :: 0x81 :: List.replicate 200 0x06⟩

theorem reads_every_layout_misleading :
    ofOctets (misleading.toSequence ++ [0x30, 0x06]) = .ok misleading ∧
      ofOctets (Writer.written (Writer.pushOid misleading.name) ++ misleading.toTlv ++
        [0x30, 0x06]) = .ok misleading ∧
      ofOctets (misleading.toTlv ++ [0x30, 0x06]) = .ok { misleading with name := .root } := by
  have type : misleading.type.IsNormal := by
    intro tag named
    obtain rfl := ValueType.unknown.inj named
    decide
  have faithful : misleading.IsFaithful := ⟨.inr (by decide), type⟩
  obtain ⟨sequence, values⟩ := reads_every_layout faithful [0x30, 0x06]
  obtain ⟨named, alone⟩ := values (by decide +kernel)
  exact ⟨sequence (by decide +kernel), named, alone (by decide) (by decide)⟩

end Binding
end RoadsideSnmp
