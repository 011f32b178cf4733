import RoadsideSnmp.Proofs.Binding.Layout

/-! Bindings that are made of values. A value is written and read back, so a binding holds its
content alone as long as the content may be announced. Numbers, identifiers and addresses always
may; an octet string of more than `maxLength` octets may not, and what is then kept of it is not
the string: its length stands in front of it, or it ends where four octets of length say. -/
namespace RoadsideSnmp

open Ber

namespace Cursor

variable {content : Octets}

theorem header_written (tag : UInt8)
    (bounded : Length.announced content.length ≤ Length.maxLength) :
    ∃ taken, header (ofOctets (Ber.tlv tag content)) =
      (.ok (tag, Length.announced content.length), ⟨0, taken, content⟩) := by
  have read : Reads _ _ content _ := Reads.header tag (Length.isField_encode_announced bounded)
    (Length.announced_le content.length)
  have found := read 0 0
  rw [← Ber.tlv_eq] at found
  exact ⟨_, found⟩

theorem header_written_beyond (tag : UInt8)
    (beyond : Length.maxLength < Length.announced content.length) :
    ∃ error after, header (ofOctets (Ber.tlv tag content)) = (.error error, after) := by
  let inside : Cursor := ⟨0, 1, Length.encode content.length ++ content⟩
  have first : octet (ofOctets (Ber.tlv tag content)) = (.ok tag, inside) := rfl
  have decoded := Length.decode_encode_beyond beyond content inside.offset
  let fault : DecodeFault := .lengthExceedsMax (Length.announced content.length) Length.maxLength
  have unmeasured : length inside = (.error ⟨inside.offset, fault⟩, inside) := by
    rw [length, decoded]
  exact ⟨_, _, (Reading.bind_ok first).trans (Reading.bind_error unmeasured)⟩

theorem octets_of_le {cursor : Cursor} {count : Nat} (present : count ≤ cursor.remaining) :
    octets count cursor = (.ok (cursor.rest.take count), cursor.advance count) :=
  if_neg (Nat.not_lt.mpr present)

theorem value_written (tag : UInt8)
    (bounded : Length.announced content.length ≤ Length.maxLength) :
    value.run (ofOctets (Ber.tlv tag content)) =
      .ok (.ofTag tag, content.take (Length.announced content.length)) := by
  obtain ⟨taken, opened⟩ := header_written tag bounded
  have given := octets_of_le (show _ ≤ remaining ⟨0, taken, content⟩ from
    Length.announced_le content.length)
  rw [Reading.run, value, Reading.bind_ok opened]
  exact congrArg Prod.fst (Reading.bind_ok given)

theorem value_written_beyond (tag : UInt8)
    (beyond : Length.maxLength < Length.announced content.length) :
    ∃ error, value.run (ofOctets (Ber.tlv tag content)) = .error error := by
  obtain ⟨error, after, unopened⟩ := header_written_beyond tag beyond
  exact ⟨error, congrArg Prod.fst (Reading.bind_error unopened)⟩

end Cursor

namespace Binding

/-- What is left of content that has been written and read back. -/
def kept (content : Octets) : Octets :=
  if Length.announced content.length ≤ Length.maxLength then
    content.take (Length.announced content.length)
  else Octets.ofNat 4 content.length ++ content

theorem kept_of_le {content : Octets} (bounded : content.length ≤ Length.maxLength) :
    kept content = content := by
  have same := Length.announced_of_le bounded
  rw [kept, same, if_pos bounded, List.take_length]

theorem kept_eq_self_iff {content : Octets} :
    kept content = content ↔ content.length ≤ Length.maxLength := by
  refine ⟨fun whole => ?_, kept_of_le⟩
  have size := congrArg List.length whole
  unfold kept at size
  split at size
  · next bounded =>
      rw [List.length_take] at size
      omega
  · rw [List.length_append, Octets.length_ofNat] at size
    omega

theorem ofWritten_pushTlv (name : Oid) (tag : UInt8) (content : Octets) :
    ofWritten name (Writer.pushTlv tag content) = ⟨name, .ofTag tag, kept content⟩ := by
  have octets : Writer.written (Writer.pushTlv tag content) = tlv tag content :=
    Writer.written_eq (Writer.pushTlv_eq _ _ _)
  unfold ofWritten kept
  rw [octets]
  dsimp only
  by_cases bounded : Length.announced content.length ≤ Length.maxLength
  · rw [if_pos bounded, Cursor.value_written tag bounded]
  · -- Tag and one octet are taken off, but the length field has five octets.
    have beyond := Nat.not_le.mp bounded
    have longer := Nat.lt_of_lt_of_le beyond (Length.announced_le content.length)
    obtain ⟨error, unread⟩ := Cursor.value_written_beyond tag beyond
    rw [if_neg bounded, unread, tlv, Length.encode_beyond longer]
    rfl

theorem ofWritten_eq {type : ValueType} {content : Octets} (known : type ∈ ValueType.known)
    (bounded : content.length ≤ Length.maxLength) (name : Oid) :
    ofWritten name (Writer.pushTlv type.tag content) = ⟨name, type, content⟩ := by
  rw [ofWritten_pushTlv, kept_of_le bounded, ValueType.ofTag_tag_of_known type known]

theorem read_again {α : Type} {name : Oid} {type : ValueType} {content : Octets}
    {types : List ValueType} {reading : Reading α} {value : α} (accepted : type ∈ types)
    (bounded : content.length ≤ Length.maxLength)
    (reads : Reads reading (tlv type.tag content) [] value) :
    (do
      let _ ← Binding.open? ⟨name, type, content⟩ types
      reading.run (Cursor.ofOctets (toTlv ⟨name, type, content⟩))) = Except.ok value := by
  let binding : Binding := ⟨name, type, content⟩
  obtain ⟨taken, opened⟩ := open?_eq (show binding.type ∈ types from accepted) bounded
  have found := reads.run
  rw [List.append_nil] at found
  rw [opened, toTlv_eq]
  exact found

/-- The binding holds this content alone under its type, and its accessor gives the value. -/
structure Holds {α : Type} (binding : Binding) (name : Oid) (type : ValueType) (content : Octets)
    (accessor : Binding → Except DecodeError α) (value : α) : Prop where
  whole : binding = ⟨name, type, content⟩
  gives : accessor binding = .ok value

theorem le_maxLength_of_le_five {length : Nat} (few : length ≤ 5) : length ≤ Length.maxLength :=
  Nat.le_trans few (by decide)

theorem holds_integer (name : Oid) (number : Int32) : Holds (integer name number) name .integer
    (Number.ofInt32 number) toInt32 number := by
  have bounded : (Number.ofInt32 number).length ≤ Length.maxLength :=
    le_maxLength_of_le_five (Nat.le_succ_of_le (Number.length_ofInt32_le number))
  have known : ValueType.integer ∈ ValueType.known := by decide
  have whole : integer name number = ⟨name, .integer, Number.ofInt32 number⟩ := by
    show ofWritten name (Writer.pushTlv ValueType.integer.tag _) = _
    exact ofWritten_eq known bounded name
  refine ⟨whole, ?_⟩
  rw [whole, toInt32_eq List.mem_cons_self (Number.ofInt32_ne_nil number) bounded,
    Number.toInt32_ofInt32]

theorem holds_unsigned (name : Oid) {type : ValueType} (sized : type.isUnsigned32 = true)
    (number : UInt32) : Holds (unsigned name type number) name type (Number.ofUInt32 number)
      toUInt32 number := by
  have bounded : (Number.ofUInt32 number).length ≤ Length.maxLength :=
    le_maxLength_of_le_five (Number.length_guarded_le _)
  have known : type ∈ ValueType.known ∧ type ∈ integerTypes := by
    cases type with
    | counter32 | gauge32 | timeTicks => decide
    | _ => exact absurd sized Bool.false_ne_true
  have whole : unsigned name type number = ⟨name, type, Number.ofUInt32 number⟩ := by
    show ofWritten name (Writer.pushTlv type.tag _) = _
    exact ofWritten_eq known.1 bounded name
  refine ⟨whole, ?_⟩
  rw [whole, toUInt32_eq known.2 (Number.isShortest_ofUInt32 number).some bounded,
    Number.toUInt32_ofUInt32]

theorem octetString_eq (name : Oid) (content : Octets) :
    octetString name content = ⟨name, .octetString, kept content⟩ := by
  show ofWritten name (Writer.pushTlv Tag.octetString content) = _
  exact ofWritten_pushTlv name Tag.octetString content

theorem holds_octetString_iff {name : Oid} {content : Octets} :
    Holds (octetString name content) name .octetString content toOctets content ↔
      content.length ≤ Length.maxLength := by
  refine ⟨fun held => ?_, fun bounded => ?_⟩
  · have made := (octetString_eq name content).symm.trans held.whole
    exact kept_eq_self_iff.mp (congrArg Binding.content made)
  · have whole := octetString_eq name content
    rw [kept_of_le bounded] at whole
    let binding : Binding := ⟨name, .octetString, content⟩
    have accepted : binding.type ∈ [ValueType.octetString, .opaqueData] := List.mem_cons_self
    obtain ⟨taken, opened⟩ := open?_eq accepted bounded
    refine ⟨whole, ?_⟩
    rw [whole, toOctets, opened]
    rfl

theorem holds_objectId (name : Oid) {value : Oid} (valid : value.validate = .ok ()) :
    ∃ binding, objectId name value = .ok binding ∧
      Holds binding name .objectId value.toContent toOid value := by
  have bounded := Oid.length_toContent_le_of_isFaithful (.inr valid)
  have made : objectId name value = .ok ⟨name, .objectId, value.toContent⟩ := by
    rw [objectId, Oid.toContentChecked, valid]
    rfl
  exact ⟨_, made, rfl, read_again List.mem_cons_self bounded (.objectId (.inr valid) bounded)⟩

theorem holds_ipAddress (name : Oid) {address : Octets} (four : address.length = 4) :
    Holds (ipAddress name address) name .ipAddress address toIpAddress address := by
  have bounded : address.length ≤ Length.maxLength := le_maxLength_of_le_five (by omega)
  have inside : Reads (Cursor.octets 4) address [] address := by
    rw [← four]
    exact .octets address
  have reads : Reads Cursor.ipAddress (Ber.tlv Tag.ipAddress address) [] address := by
    refine .tagged Tag.ipAddress bounded ?_
    rw [four]
    exact inside
  exact ⟨rfl, read_again List.mem_cons_self bounded reads⟩

theorem null_eq (name : Oid) : null name = ⟨name, .null, []⟩ := by
  have known : ValueType.null ∈ ValueType.known := by decide
  show ofWritten name (Writer.pushTlv ValueType.null.tag []) = _
  exact ofWritten_eq known (Nat.zero_le _) name

/-- Each factory makes a binding that holds the content of its value and nothing else, a number's
as short as it can be, and the accessor of its type gives the value back. An octet string is held
so up to the greatest length that is read, and beyond it never. -/
theorem made_of_values (name : Oid) :
    null name = ⟨name, .null, []⟩ ∧
    (∀ number, Number.IsShortest (Number.ofInt32 number) number.toInt ∧
      Holds (integer name number) name .integer (Number.ofInt32 number) toInt32 number) ∧
    (∀ type number, type.isUnsigned32 = true →
      Number.IsShortest (Number.ofUInt32 number) number.toNat ∧
        Holds (unsigned name type number) name type (Number.ofUInt32 number) toUInt32 number) ∧
    (∀ content, octetString name content = ⟨name, .octetString, kept content⟩ ∧
      (Holds (octetString name content) name .octetString content toOctets content ↔
        content.length ≤ Length.maxLength)) ∧
    (∀ value, value.validate = .ok () → ∃ binding, objectId name value = .ok binding ∧
      Holds binding name .objectId value.toContent toOid value) ∧
    ∀ address, address.length = 4 →
      Holds (ipAddress name address) name .ipAddress address toIpAddress address :=
  ⟨null_eq name,
    fun number => ⟨Number.isShortest_ofInt32 number, holds_integer name number⟩,
    fun _ number sized => ⟨Number.isShortest_ofUInt32 number, holds_unsigned name sized number⟩,
    fun content => ⟨octetString_eq name content, holds_octetString_iff⟩,
    fun _ => holds_objectId name, fun _ => holds_ipAddress name⟩

theorem made_of_values_mixed :
    Holds (integer .root (-129)) .root .integer [0xFF, 0x7F] toInt32 (-129) ∧
    Holds (unsigned .root .timeTicks 0xFFFFFFFF) .root .timeTicks [0x00, 0xFF, 0xFF, 0xFF, 0xFF]
      toUInt32 0xFFFFFFFF ∧
    Holds (octetString .root (List.replicate 300 0x30)) .root .octetString
      (List.replicate 300 0x30) toOctets (List.replicate 300 0x30) ∧
    (∃ binding, objectId .root (.ofNats [1, 3, 6, 1, 4, 1, 1206]) = .ok binding ∧
      Holds binding .root .objectId [0x2B, 0x06, 0x01, 0x04, 0x01, 0x89, 0x36] toOid
        (.ofNats [1, 3, 6, 1, 4, 1, 1206])) ∧
    Holds (ipAddress .root [192, 168, 0, 1]) .root .ipAddress [192, 168, 0, 1] toIpAddress
      [192, 168, 0, 1] := by
  obtain ⟨-, signed, sized, strings, identifiers, addresses⟩ := made_of_values .root
  have negative : Number.ofInt32 (-129) = [0xFF, 0x7F] := by decide +kernel
  have greatest : Number.ofUInt32 0xFFFFFFFF = [0x00, 0xFF, 0xFF, 0xFF, 0xFF] := by decide +kernel
  have arcs : (Oid.ofNats [1, 3, 6, 1, 4, 1, 1206]).toContent =
      [0x2B, 0x06, 0x01, 0x04, 0x01, 0x89, 0x36] := by decide +kernel
  refine ⟨?_, ?_, ?_, ?_, addresses _ rfl⟩
  · rw [← negative]
    exact (signed (-129)).2
  · rw [← greatest]
    exact (sized .timeTicks 0xFFFFFFFF rfl).2
  · refine (strings _).2.mpr ?_
    rw [List.length_replicate]
    decide
  · rw [← arcs]
    exact identifiers _ (by decide)

def overlong : Octets := List.replicate 0x1000000 0x41

/-- The four octets of its length stay in front. -/
theorem octetString_overlong :
    octetString .root overlong = ⟨.root, .octetString, [0x01, 0x00, 0x00, 0x00] ++ overlong⟩ ∧
      ¬ Holds (octetString .root overlong) .root .octetString overlong toOctets overlong := by
  have size : overlong.length = 0x1000000 := List.length_replicate
  have beyond : ¬ Length.announced 0x1000000 ≤ Length.maxLength := by decide
  have field : Octets.ofNat 4 0x1000000 = [0x01, 0x00, 0x00, 0x00] := by decide
  constructor
  · rw [octetString_eq, kept, size, if_neg beyond, field]
  · rw [holds_octetString_iff, size]
    exact beyond

end Binding
end RoadsideSnmp
