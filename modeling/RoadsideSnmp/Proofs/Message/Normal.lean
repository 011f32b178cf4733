import RoadsideSnmp.Proofs.Ber.Yields
import RoadsideSnmp.Proofs.Message.RoundTrip

/-! Messages from anywhere. A reader accepts many encodings of one message; whatever it makes of
them is in a normal form, and the normal form is what a writer writes of it: reading, writing and
reading again loses nothing that the first reading kept. -/
namespace RoadsideSnmp

open Ber

theorem ValueType.isNormal_ofTag (tag : UInt8) : (ofTag tag).IsNormal := by
  intro unknown same other named taken
  have known : ofTag unknown = other := by
    rw [← taken]
    exact ofTag_tag_of_known other named
  have whole : (ofTag tag).tag = unknown := by rw [same, ValueType.tag]
  rw [← whole, tag_ofTag, same] at known
  rw [← known] at named
  simp [ValueType.known, PduKind.all] at named

theorem ErrorStatus.isNormal_ofCode (code : Int32) : (ofCode code).IsNormal := by
  intro unknown same other named taken
  have known : ofCode unknown = other := by
    rw [← taken]
    exact ofCode_code_of_named other named
  have whole : (ofCode code).code = unknown := by rw [same, ErrorStatus.code]
  rw [← whole, code_ofCode, same] at known
  rw [← known] at named
  simp [ErrorStatus.named] at named

theorem Binding.isFaithful_null {name : Oid} (faithful : name.IsFaithful) :
    (null name).IsFaithful :=
  ⟨faithful, ValueType.isNormal_ofTag Ber.Tag.null⟩

/-- What a message must be to come back whole. -/
structure Message.IsNormal (message : Message) : Prop where
  kind : message.kind ≠ .trap
  status : message.status.IsNormal
  bindings : ∀ binding ∈ message.bindings, binding.IsFaithful

namespace Yields

theorem value : Yields Cursor.value fun found => found.1.IsNormal :=
  andThen fun header => andThen fun _ => pure (ValueType.isNormal_ofTag header.1)

theorem namedValue : Yields Cursor.namedValue Binding.IsFaithful :=
  bind objectId fun _ name => bind value fun _ type => pure ⟨name, type⟩

theorem bindingsUpTo (room : Nat) :
    Yields (Cursor.bindingsUpTo room) fun bindings => ∀ binding ∈ bindings, binding.IsFaithful := by
  induction room with
  | zero => exact pure (by simp)
  | succ room ih =>
      intro cursor after result read
      unfold Cursor.bindingsUpTo at read
      split at read
      · obtain rfl := Except.ok.inj (congrArg Prod.fst read)
        simp
      · have first : Yields Cursor.binding Binding.IsFaithful := nested namedValue
        have whole : Yields (do
            let first ← Cursor.binding
            let rest ← Cursor.bindingsUpTo room
            return first :: rest : Reading (List Binding))
            fun bindings => ∀ binding ∈ bindings, binding.IsFaithful :=
          bind first fun _ good => bind ih fun _ others =>
            pure (List.forall_mem_cons.mpr ⟨good, others⟩)
        exact whole _ _ _ read

theorem bindings :
    Yields Cursor.bindings fun bindings => ∀ binding ∈ bindings, binding.IsFaithful :=
  nested fun cursor => bindingsUpTo cursor.remaining cursor

theorem bindingsIfAny :
    Yields Cursor.bindingsIfAny fun bindings => ∀ binding ∈ bindings, binding.IsFaithful := by
  intro cursor after result read
  unfold Cursor.bindingsIfAny at read
  split at read
  · obtain rfl := Except.ok.inj (congrArg Prod.fst read)
    simp
  · exact bindings _ _ _ read

theorem pduKind : Yields Cursor.pduKind (· ≠ .trap) := by
  intro cursor after kind read
  unfold Cursor.pduKind at read
  split at read
  · simp [Cursor.fail] at read
  split at read
  · simp [Cursor.fail] at read
  · simp [Cursor.fail] at read
  · next readable _ =>
      obtain rfl := Except.ok.inj (congrArg Prod.fst read)
      exact readable

theorem pduBody (version : ProtocolVersion) (community : String) {kind : PduKind}
    (readable : kind ≠ .trap) : Yields (Cursor.pduBody version community kind) Message.IsNormal :=
  andThen fun _ => andThen fun status => andThen fun _ => bind bindingsIfAny fun _ faithful =>
    pure ⟨readable, ErrorStatus.isNormal_ofCode status, faithful⟩

theorem message : Yields Cursor.message Message.IsNormal :=
  nested (andThen fun version => andThen fun _ => bind pduKind fun _ readable =>
    nested (pduBody version _ readable))

end Yields

namespace Message

theorem isNormal_of_decode {octets : Octets} {message : Message}
    (decoded : decode octets = .ok message) : message.IsNormal :=
  Yields.message.run decoded

theorem decode_encode_of_isNormal {message : Message} (normal : message.IsNormal)
    (bounded : message.content.length ≤ Length.maxLength) :
    decode message.encode = .ok message := by
  have reads : Reads Cursor.message message.encode [] message :=
    Reads.message normal.bindings normal.status normal.kind bounded
  have read := reads.run
  rwa [List.append_nil] at read

/-- Whatever octets a message came from, if it can be announced it comes back from being written,
its content being what `encode_eq` says. -/
theorem reads_again {octets : Octets} {message : Message} (decoded : decode octets = .ok message) :
    (∀ binding ∈ message.bindings, binding.name = .root ∨ binding.name.validate = .ok ()) ∧
      (message.content.length ≤ Length.maxLength → decode message.encode = .ok message) := by
  have normal := isNormal_of_decode decoded
  exact ⟨fun binding inside => (normal.bindings binding inside).name,
    decode_encode_of_isNormal normal⟩

/-- Long lengths for short values, padded numbers, a padded name and one that is empty, octets that
are not text, and more octets at the end of everything. -/
def paddedOctets : Octets :=
  [0x30, 0x81, 0x30, 0x02, 0x02, 0x00, 0x01, 0x04, 0x81, 0x02, 0xFF, 0x41, 0xA2, 0x24,
    0x02, 0x05, 0xFF, 0xFF, 0xFF, 0xFF, 0xF9, 0x02, 0x01, 0x00, 0x02, 0x01, 0x00,
    0x30, 0x82, 0x00, 0x12, 0x30, 0x0A, 0x06, 0x04, 0x80, 0x2B, 0x80, 0x06, 0x04, 0x01, 0x7E, 0x00,
    0x30, 0x04, 0x06, 0x00, 0x05, 0x00, 0xAA, 0xBB, 0xCC]

def paddedMessage : Message :=
  ⟨.v2c, "\uFFFDA", .response, -7, .noError, 0,
    [⟨.ofNats [1, 3, 6], .octetString, [0x7E]⟩, ⟨.root, .null, []⟩]⟩

theorem reads_again_paddedOctets : decode paddedOctets = .ok paddedMessage ∧
    paddedMessage.encode ≠ paddedOctets ∧ decode paddedMessage.encode = .ok paddedMessage := by
  have decoded : decode paddedOctets = .ok paddedMessage := by decide +kernel
  have bounded : paddedMessage.content.length ≤ Length.maxLength := by decide +kernel
  exact ⟨decoded, by decide +kernel, (reads_again decoded).2 bounded⟩

end Message
end RoadsideSnmp
