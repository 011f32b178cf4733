import RoadsideSnmp.Message
import RoadsideSnmp.Proofs.Binding
import RoadsideSnmp.Proofs.Pmpp.Framing
import RoadsideSnmp.Proofs.Text.Utf8

/-! A message reads back from what is written of it, alone and in a frame. The main statement is
about every message whose names can be encoded, whose types and status are such as a reader
gives, and whose content a length field may announce. -/
namespace RoadsideSnmp

open Ber

def ErrorStatus.IsNormal (status : ErrorStatus) : Prop :=
  ∀ code, status = .unknown code → ∀ other ∈ named, other.code ≠ code

theorem ErrorStatus.mem_named_or_unknown (status : ErrorStatus) :
    status ∈ named ∨ ∃ code, status = .unknown code := by
  cases status with
  | unknown code => exact .inr ⟨code, rfl⟩
  | _ =>
      left
      decide

theorem ErrorStatus.ofCode_code_of_isNormal {status : ErrorStatus} (normal : status.IsNormal) :
    ofCode status.code = status := by
  obtain named | ⟨code, rfl⟩ := mem_named_or_unknown status
  · exact ofCode_code_of_named status named
  · have absent : ErrorStatus.named.find? (fun other => decide (other.code = code)) = none := by
      rw [List.find?_eq_none]
      intro other inside
      simpa using normal code rfl other inside
    rw [ErrorStatus.code, ofCode, absent]
    rfl

namespace Message

def unitContent (message : Message) : Octets :=
  tlv Tag.integer (Number.ofInt32 message.requestId) ++
    (tlv Tag.integer (Number.ofInt32 message.status.code) ++
      (tlv Tag.integer (Number.ofInt32 message.index) ++
        tlv Tag.sequence (message.bindings.flatMap Binding.toSequence)))

def content (message : Message) : Octets :=
  tlv Tag.integer (Number.ofInt32 message.version.code) ++
    (tlv Tag.octetString (Utf8.encodeText message.community) ++
      tlv message.kind.tag message.unitContent)

theorem pushPdu_eq (message : Message) (writer : Writer) :
    message.pushPdu writer = writer.push (tlv message.kind.tag message.unitContent) := by
  apply Writer.pushConstructed_eq
  simp only [Binding.pushAll_eq, Writer.pushInteger, Writer.pushTlv_eq, Writer.push_push,
    unitContent]

theorem encode_eq (message : Message) : message.encode = tlv Tag.sequence message.content := by
  apply Writer.written_eq
  rw [push, Writer.pushSequence]
  apply Writer.pushConstructed_eq
  simp only [pushPdu_eq, Writer.pushInteger, Writer.pushOctetString, Writer.pushTlv_eq,
    Writer.push_push, content]

theorem length_content_le {message : Message} {binding : Binding}
    (single : message.bindings = [binding]) : message.content.length ≤
      (Utf8.encodeText message.community).length +
        (5 * binding.name.size + binding.content.length) + 76 := by
  have integer (number : Int32) : (tlv Tag.integer (Number.ofInt32 number)).length ≤ 10 :=
    Nat.le_trans (length_tlv_le _ _) (Nat.add_le_add_right (Number.length_ofInt32_le number) 6)
  have version := integer message.version.code
  have requestId := integer message.requestId
  have status := integer message.status.code
  have index := integer message.index
  have name := Nat.le_trans (length_tlv_le Tag.objectId binding.name.toContent)
    (Nat.add_le_add_right binding.name.length_toContent_le 6)
  have value := length_tlv_le binding.type.tag binding.content
  have sequence := length_tlv_le Tag.sequence
    (tlv Tag.objectId binding.name.toContent ++ tlv binding.type.tag binding.content)
  have list := length_tlv_le Tag.sequence binding.toSequence
  have text := length_tlv_le Tag.octetString (Utf8.encodeText message.community)
  have unit := length_tlv_le message.kind.tag message.unitContent
  simp only [content, unitContent, single, List.flatMap_cons, List.flatMap_nil, List.append_nil,
    List.length_append, Binding.toSequence_eq] at *
  omega

theorem name_of_validate {message : Message} (valid : message.validate = .ok ()) :
    ∀ binding ∈ message.bindings, binding.name.validate = .ok () := by
  unfold validate at valid
  generalize message.bindings = bindings at valid
  induction bindings with
  | nil => simp
  | cons first bindings ih =>
      obtain ⟨⟨⟩, name, others⟩ := bind_eq_ok_iff.mp valid
      exact List.forall_mem_cons.mpr ⟨name, ih others⟩

end Message

namespace Reads

variable {rest : Octets}

theorem version (version : ProtocolVersion) :
    Reads Cursor.version (tlv Tag.integer (Number.ofInt32 version.code)) rest version := by
  refine position fun start => last (integer version.code) ?_
  rw [ProtocolVersion.ofCode?_code]
  exact pure version

theorem pduKind {kind : PduKind} (readable : kind ≠ .trap) (content : Octets) :
    Reads Cursor.pduKind [] (tlv kind.tag content ++ rest) kind := by
  intro base taken
  have peeked : Cursor.peek? ⟨base, taken, tlv kind.tag content ++ rest⟩ = some kind.tag := rfl
  simp only [Cursor.pduKind, List.nil_append, peeked, PduKind.ofTag?_tag]
  cases kind with
  | trap => exact absurd rfl readable
  | _ => rfl

theorem bindingsIfAny {bindings : List Binding}
    (faithful : ∀ binding ∈ bindings, binding.IsFaithful)
    (bounded : (bindings.flatMap Binding.toSequence).length ≤ Length.maxLength) :
    Reads Cursor.bindingsIfAny (tlv Tag.sequence (bindings.flatMap Binding.toSequence)) rest
      bindings :=
  Reads.bindings faithful bounded

theorem pduBody {message : Message} (faithful : ∀ binding ∈ message.bindings, binding.IsFaithful)
    (status : message.status.IsNormal)
    (bounded : message.unitContent.length ≤ Length.maxLength) :
    Reads (Cursor.pduBody message.version message.community message.kind) message.unitContent
      rest message := by
  have list := length_le_tlv Tag.sequence (message.bindings.flatMap Binding.toSequence)
  simp only [Message.unitContent, List.length_append] at bounded
  refine bind (integer _) (bind (integer _) (bind (integer _)
    (last (bindingsIfAny faithful (by omega)) ?_)))
  rw [ErrorStatus.ofCode_code_of_isNormal status]
  exact pure message

theorem message {message : Message} (faithful : ∀ binding ∈ message.bindings, binding.IsFaithful)
    (status : message.status.IsNormal) (kind : message.kind ≠ .trap)
    (bounded : message.content.length ≤ Length.maxLength) :
    Reads Cursor.message message.encode rest message := by
  have text := length_le_tlv Tag.octetString (Utf8.encodeText message.community)
  have unit := length_le_tlv message.kind.tag message.unitContent
  have parts := bounded
  simp only [Message.content, List.length_append] at parts
  rw [Message.encode_eq]
  refine nested Tag.sequence bounded (bind (version _) (bind (octetString (by omega))
    (look (pduKind kind _) ?_)))
  rw [Utf8.decodeLossy_encodeText]
  exact nested message.kind.tag (by omega) (pduBody faithful status (by omega))

end Reads

namespace Message

theorem decode_encode {message : Message} (kind : message.kind ≠ .trap)
    (valid : message.validate = .ok ())
    (types : ∀ binding ∈ message.bindings, binding.type.IsNormal)
    (status : message.status.IsNormal)
    (bounded : message.content.length ≤ Length.maxLength) :
    decode message.encode = .ok message := by
  have faithful : ∀ binding ∈ message.bindings, binding.IsFaithful := fun binding inside =>
    ⟨.inr (name_of_validate valid binding inside), types binding inside⟩
  have reads : Reads Cursor.message message.encode [] message :=
    Reads.message faithful status kind bounded
  have read := reads.run
  rwa [List.append_nil] at read

theorem decodeFramed_packet {message : Message} {address protocolId : Octets} {control : UInt8}
    {station : Pmpp.Station}
    (made : Pmpp.Station.make address control protocolId = .ok station)
    (decoded : decode message.encode = .ok message) :
    decodeFramed (message.packet (some station)) =
      .ok (message, ⟨some station, message.encode, .valid⟩) := by
  simp [decodeFramed, packet, Pmpp.unframe_frame made, decoded, bind, Except.bind, pure,
    Except.pure]

/-- Field for field, alone and in a frame for any station. -/
theorem reads_back (message : Message) (kind : message.kind ≠ .trap)
    (valid : message.validate = .ok ())
    (types : ∀ binding ∈ message.bindings, binding.type.IsNormal)
    (status : message.status.IsNormal)
    (bounded : message.content.length ≤ Length.maxLength) :
    decode message.encode = .ok message ∧
      ∀ address control protocolId station,
        Pmpp.Station.make address control protocolId = .ok station →
        decodeFramed (message.packet (some station)) =
          .ok (message, ⟨some station, message.encode, .valid⟩) := by
  have decoded := decode_encode kind valid types status bounded
  refine ⟨decoded, fun address control protocolId station made => ?_⟩
  exact decodeFramed_packet made decoded

def refusalExample : Message :=
  ⟨.v2c, "straße", .response, -7, .unknown 99, 1,
    [⟨.ofNats [2, 999, 3], .unknown 0x9F, [0x7D, 0x7E, 0x00]⟩]⟩

theorem reads_back_refusalExample :
    decode refusalExample.encode = .ok refusalExample ∧
      decodeFramed (refusalExample.packet (some .standard)) =
        .ok (refusalExample, ⟨some .standard, refusalExample.encode, .valid⟩) := by
  have types : ∀ binding ∈ refusalExample.bindings, binding.type.IsNormal := by
    intro binding inside tag named
    obtain rfl := List.mem_singleton.mp inside
    obtain rfl := ValueType.unknown.inj named
    decide
  have status : refusalExample.status.IsNormal := by
    intro code named
    obtain rfl := ErrorStatus.unknown.inj named
    decide
  have whole := reads_back refusalExample (by decide) (by decide) types status (by decide)
  exact ⟨whole.1, whole.2 [0x05] 0x03 [0xC1] .standard (by decide)⟩

end Message
end RoadsideSnmp
