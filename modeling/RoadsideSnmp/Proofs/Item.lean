import Mathlib.Data.Nat.Digits.Lemmas
import RoadsideSnmp.Item
import RoadsideSnmp.Proofs.Ber.Backwards
import RoadsideSnmp.Proofs.Message.RoundTrip

/-! What a tree of items is written as, said from the front. A value is its tag, the shortest field
for the length of its content, and the content; of two items side by side the later one stands
first. The writer holds these octets, and counts them, after every step at any depth; a buffer that
grows at its end holds them the other way round. -/
namespace RoadsideSnmp

open Ber

namespace Forward

def number (number : Nat) : Octets := ((Nat.digits 256 number).map UInt8.ofNat).reverse

def length (length : Nat) : Octets :=
  if length < 128 then [UInt8.ofNat length]
  else UInt8.ofNat (128 + (number length).length) :: number length

def tlv (tag : UInt8) (content : Octets) : Octets := [tag] ++ length content.length ++ content

abbrev Fits (lengths : List Nat) : Prop := ∀ length ∈ lengths, length < 2 ^ 32

def integer (number : Int32) : Octets := tlv Tag.integer (Number.ofInt32 number)

def named (binding : Binding) : Octets :=
  tlv Tag.objectId binding.name.toContent ++ tlv binding.type.tag binding.content

def binding (binding : Binding) : Octets := tlv Tag.sequence (named binding)

def bindings (bindings : List Binding) : Octets := tlv Tag.sequence (bindings.flatMap binding)

def bindingLengths (binding : Binding) : List Nat :=
  [(named binding).length, binding.name.toContent.length, binding.content.length]

def listLengths (bindings : List Binding) : List Nat :=
  (bindings.flatMap binding).length :: bindings.flatMap bindingLengths

def unitContent (message : Message) : Octets :=
  integer message.requestId ++ integer message.status.code ++ integer message.index ++
    bindings message.bindings

def pdu (message : Message) : Octets := tlv message.kind.tag (unitContent message)

def pduLengths (message : Message) : List Nat :=
  [(unitContent message).length, (Number.ofInt32 message.requestId).length,
    (Number.ofInt32 message.status.code).length, (Number.ofInt32 message.index).length] ++
    listLengths message.bindings

end Forward

namespace Item

mutual

def forward : Item → Octets
  | .octets front => front
  | .length number => Forward.length number
  | .tag octet => [octet]
  | .tlv octet content => Forward.tlv octet content
  | .constructed octet items => Forward.tlv octet (forwardAll items)
  | .sequence items => Forward.tlv Tag.sequence (forwardAll items)
  | .integer number => Forward.integer number
  | .counter64 number => Forward.tlv Tag.counter64 (Number.ofUInt64 number)
  | .unsigned octet number => Forward.tlv octet (Number.ofUInt32 number)
  | .octetString content => Forward.tlv Tag.octetString content
  | .null => Forward.tlv Tag.null []
  | .objectId oid => Forward.tlv Tag.objectId oid.toContent
  | .ipAddress address => Forward.tlv Tag.ipAddress address
  | .binding one => Forward.binding one
  | .bindings all => Forward.bindings all
  | .pdu message => Forward.pdu message

def forwardAll : List Item → Octets
  | [] => []
  | item :: items => forwardAll items ++ forward item

end

mutual

/-- Every length that an item says: of each content in it, and those it is given. -/
def lengths : Item → List Nat
  | .octets _ | .tag _ => []
  | .length number => [number]
  | .tlv _ content | .octetString content | .ipAddress content => [content.length]
  | .constructed _ items | .sequence items => (forwardAll items).length :: lengthsAll items
  | .integer number => [(Number.ofInt32 number).length]
  | .counter64 number => [(Number.ofUInt64 number).length]
  | .unsigned _ number => [(Number.ofUInt32 number).length]
  | .null => [0]
  | .objectId oid => [oid.toContent.length]
  | .binding one => Forward.bindingLengths one
  | .bindings all => Forward.listLengths all
  | .pdu message => Forward.pduLengths message

def lengthsAll : List Item → List Nat
  | [] => []
  | item :: items => lengths item ++ lengthsAll items

end

mutual

/-- The writer after each step that an item takes, those inside it first. -/
def states : Item → Writer → List Writer
  | .constructed octet items, writer =>
      statesAll items writer ++ [(constructed octet items).write writer]
  | .sequence items, writer => statesAll items writer ++ [(sequence items).write writer]
  | item, writer => [item.write writer]

def statesAll : List Item → Writer → List Writer
  | [], _ => []
  | item :: items, writer => states item writer ++ statesAll items (item.write writer)

end

mutual

/-- What there is after each of these steps, in front of what there was before. -/
def progress : Item → Octets → List Octets
  | .constructed octet items, back =>
      progressAll items back ++ [(constructed octet items).forward ++ back]
  | .sequence items, back => progressAll items back ++ [(sequence items).forward ++ back]
  | item, back => [item.forward ++ back]

def progressAll : List Item → Octets → List Octets
  | [], _ => []
  | item :: items, back => progress item back ++ progressAll items (item.forward ++ back)

end

end Item

namespace Forward

theorem ofNat_length_digits (number : Nat) :
    Octets.ofNat (Nat.digits 256 number).length number = Forward.number number := by
  induction number using Nat.strong_induction_on with
  | _ number ih =>
      obtain rfl | positive := Nat.eq_zero_or_pos number
      · rfl
      · have less : number / 256 < number := Nat.div_lt_self positive (by decide)
        have octet : UInt8.ofNat (number % 256) = UInt8.ofNat number := UInt8.ofNat_mod_size
        rw [Forward.number, Nat.digits_def' (by decide) positive, List.length_cons, Octets.ofNat,
          ih _ less, List.map_cons, List.reverse_cons, octet]
        rfl

theorem length_digits (number : Nat) : (Nat.digits 256 number).length = Octets.size number := by
  apply Nat.le_antisymm
  · exact (Nat.digits_length_le_iff (by decide) number).mpr (Octets.lt_pow_size number)
  · exact Octets.size_le (Nat.lt_base_pow_length_digits (by decide))

theorem encode_eq {length : Nat} (fits : length < 2 ^ 32) :
    Length.encode length = Forward.length length := by
  unfold Length.encode Forward.length
  by_cases short : length < 128
  · rw [if_pos (Nat.le_of_lt_succ short), if_pos short]
  · have four : Octets.size length ≤ 4 := Octets.size_le fits
    have digits := ofNat_length_digits length
    rw [length_digits] at digits
    rw [if_neg (by omega), if_neg short, Nat.min_eq_right four, ← digits]
    dsimp only
    rw [Octets.length_ofNat]

theorem tlv_eq (tag : UInt8) {content : Octets} (fits : content.length < 2 ^ 32) :
    Ber.tlv tag content = Forward.tlv tag content := by
  rw [Ber.tlv, encode_eq fits]
  rfl

theorem Fits.single {length : Nat} (fits : Fits [length]) : length < 2 ^ 32 :=
  fits length (List.mem_singleton_self length)

theorem toSequence_eq {binding : Binding} (fits : Fits (bindingLengths binding)) :
    binding.toSequence = Forward.binding binding := by
  obtain ⟨whole, parts⟩ := List.forall_mem_cons.mp fits
  obtain ⟨name, value⟩ := List.forall_mem_cons.mp parts
  rw [binding.toSequence_eq, tlv_eq _ name, tlv_eq _ (Fits.single value)]
  exact tlv_eq Tag.sequence whole

theorem flatMap_toSequence_eq {bindings : List Binding}
    (fits : Fits (bindings.flatMap bindingLengths)) :
    bindings.flatMap Binding.toSequence = bindings.flatMap binding := by
  induction bindings with
  | nil => rfl
  | cons first others ih =>
      rw [List.flatMap_cons, Fits, List.forall_mem_append] at fits
      rw [List.flatMap_cons, List.flatMap_cons, toSequence_eq fits.1, ih fits.2]

theorem bindings_eq {bindings : List Binding} (fits : Fits (listLengths bindings)) :
    Ber.tlv Tag.sequence (bindings.flatMap Binding.toSequence) = Forward.bindings bindings := by
  obtain ⟨whole, parts⟩ := List.forall_mem_cons.mp fits
  rw [flatMap_toSequence_eq parts]
  exact tlv_eq Tag.sequence whole

theorem unitContent_eq {message : Message} (fits : Fits (pduLengths message)) :
    message.unitContent = Forward.unitContent message := by
  obtain ⟨numbers, list⟩ := List.forall_mem_append.mp fits
  have integer {number : Int32} (small : (Number.ofInt32 number).length < 2 ^ 32) :
      Ber.tlv Tag.integer (Number.ofInt32 number) = Forward.integer number := tlv_eq _ small
  rw [Message.unitContent, bindings_eq list, integer (numbers _ (by simp)),
    integer (numbers _ (by simp)), integer (numbers _ (by simp)), Forward.unitContent]
  simp only [List.append_assoc]

theorem pdu_eq {message : Message} (fits : Fits (pduLengths message)) :
    Ber.tlv message.kind.tag message.unitContent = Forward.pdu message := by
  rw [unitContent_eq fits]
  exact tlv_eq _ (fits _ (by simp [pduLengths]))

end Forward

namespace Writer

def holding (octets : Octets) : Writer := ⟨octets, octets.length⟩

theorem push_holding (front back : Octets) :
    (holding back).push front = holding (front ++ back) := by
  rw [push, holding, holding, List.length_append, Nat.add_comm]

theorem pushTlv_forward {content : Octets} (fits : Forward.Fits [content.length]) (tag : UInt8)
    (writer : Writer) : writer.pushTlv tag content = writer.push (Forward.tlv tag content) := by
  rw [pushTlv_eq, Forward.tlv_eq tag fits.single]

end Writer

namespace Item

open Forward (Fits)

mutual

theorem write_eq (item : Item) (fits : Fits item.lengths) (writer : Writer) :
    item.write writer = writer.push item.forward := by
  cases item with
  | octets front => rfl
  | length number =>
      rw [write, Writer.pushLength, Forward.encode_eq fits.single, forward]
  | tag octet => rfl
  | tlv octet content => exact Writer.pushTlv_forward fits octet writer
  | constructed octet items =>
      obtain ⟨whole, inside⟩ := List.forall_mem_cons.mp fits
      have content := writeAll_eq items inside writer
      rw [write, Writer.pushConstructed_eq octet content, Forward.tlv_eq octet whole, forward]
  | sequence items =>
      obtain ⟨whole, inside⟩ := List.forall_mem_cons.mp fits
      have content := writeAll_eq items inside writer
      rw [write, Writer.pushSequence, Writer.pushConstructed_eq _ content,
        Forward.tlv_eq _ whole, forward]
  | integer number => exact Writer.pushTlv_forward fits _ writer
  | counter64 number => exact Writer.pushTlv_forward fits _ writer
  | unsigned octet number => exact Writer.pushTlv_forward fits octet writer
  | octetString content => exact Writer.pushTlv_forward fits _ writer
  | null =>
      have none : Fits [([] : Octets).length] := fits
      exact Writer.pushTlv_forward none _ writer
  | objectId oid => exact Writer.pushTlv_forward fits _ writer
  | ipAddress address => exact Writer.pushTlv_forward fits _ writer
  | binding one => rw [write, Binding.push_eq, Forward.toSequence_eq fits, forward]
  | bindings all => rw [write, Binding.pushAll_eq, Forward.bindings_eq fits, forward]
  | pdu message => rw [write, Message.pushPdu_eq, Forward.pdu_eq fits, forward]

theorem writeAll_eq (items : List Item) (fits : Fits (lengthsAll items)) (writer : Writer) :
    writeAll items writer = writer.push (forwardAll items) := by
  cases items with
  | nil =>
      rw [writeAll_nil, forwardAll]
      rfl
  | cons item items =>
      obtain ⟨first, others⟩ := List.forall_mem_append.mp fits
      rw [writeAll_cons, write_eq item first, writeAll_eq items others, Writer.push_push,
        forwardAll]

end

mutual

theorem states_eq (item : Item) (fits : Fits item.lengths) (back : Octets) :
    item.states (.holding back) = (item.progress back).map .holding := by
  have whole := item.write_eq fits (.holding back)
  rw [Writer.push_holding] at whole
  cases item with
  | constructed octet items =>
      have inside := statesAll_eq items (List.forall_mem_cons.mp fits).2 back
      rw [states, progress, inside, whole, List.map_append, List.map_singleton]
  | sequence items =>
      have inside := statesAll_eq items (List.forall_mem_cons.mp fits).2 back
      rw [states, progress, inside, whole, List.map_append, List.map_singleton]
  | _ => exact congrArg List.singleton whole

theorem statesAll_eq (items : List Item) (fits : Fits (lengthsAll items)) (back : Octets) :
    statesAll items (.holding back) = (progressAll items back).map .holding := by
  cases items with
  | nil => rfl
  | cons item items =>
      obtain ⟨first, others⟩ := List.forall_mem_append.mp fits
      rw [statesAll, progressAll, List.map_append, states_eq item first, item.write_eq first,
        Writer.push_holding, statesAll_eq items others]

end

end Item

namespace Backwards

def pushInteger (number : Int32) (buffer : Octets) : Octets :=
  pushTlv Tag.integer (Number.ofInt32 number) buffer

def pushBinding (binding : Binding) (buffer : Octets) : Octets :=
  pushConstructed Tag.sequence (fun buffer =>
    pushTlv Tag.objectId binding.name.toContent
      (pushTlv binding.type.tag binding.content buffer)) buffer

def pushBindings (bindings : List Binding) (buffer : Octets) : Octets :=
  pushConstructed Tag.sequence (fun buffer => bindings.foldr pushBinding buffer) buffer

def pushPdu (message : Message) (buffer : Octets) : Octets :=
  pushConstructed message.kind.tag (fun buffer =>
    pushInteger message.requestId (pushInteger message.status.code
      (pushInteger message.index (pushBindings message.bindings buffer)))) buffer

namespace Backs

variable {buffer : Octets} {writer : Writer}

theorem pushInteger (backs : Backs buffer writer) (number : Int32) :
    Backs (Backwards.pushInteger number buffer) (writer.pushInteger number) :=
  backs.pushTlv Tag.integer (Number.ofInt32 number)

theorem pushBinding (backs : Backs buffer writer) (binding : Binding) :
    Backs (Backwards.pushBinding binding buffer) (binding.push writer) := by
  unfold Backwards.pushBinding Binding.push Binding.pushAs
  refine backs.pushConstructed Tag.sequence ?_
  have value := backs.pushTlv binding.type.tag binding.content
  exact value.pushTlv Tag.objectId binding.name.toContent

theorem pushBindings (backs : Backs buffer writer) (bindings : List Binding) :
    Backs (Backwards.pushBindings bindings buffer) (Binding.pushAll bindings writer) := by
  unfold Backwards.pushBindings Binding.pushAll
  refine backs.pushConstructed Tag.sequence ?_
  induction bindings with
  | nil => exact backs
  | cons binding others ih => exact ih.pushBinding binding

theorem pushPdu (backs : Backs buffer writer) (message : Message) :
    Backs (Backwards.pushPdu message buffer) (message.pushPdu writer) := by
  unfold Backwards.pushPdu Message.pushPdu
  refine backs.pushConstructed message.kind.tag ?_
  have list := backs.pushBindings message.bindings
  exact ((list.pushInteger message.index).pushInteger message.status.code).pushInteger
    message.requestId

end Backs
end Backwards

namespace Item

open Backwards (Backs)
open Forward (Fits)

mutual

/-- What a step adds to a buffer that grows at its end. -/
def extend : Item → Octets → Octets
  | .octets front, buffer => Backwards.push front buffer
  | .length number, buffer => Backwards.pushLength number buffer
  | .tag octet, buffer => Backwards.pushTag octet buffer
  | .tlv octet content, buffer => Backwards.pushTlv octet content buffer
  | .constructed octet items, buffer => Backwards.pushConstructed octet (extendAll items) buffer
  | .sequence items, buffer => Backwards.pushConstructed Tag.sequence (extendAll items) buffer
  | .integer number, buffer => Backwards.pushInteger number buffer
  | .counter64 number, buffer =>
      Backwards.pushTlv Tag.counter64 (Backwards.unsignedContent 8 number.toNat) buffer
  | .unsigned octet number, buffer =>
      Backwards.pushTlv octet (Backwards.unsignedContent 4 number.toNat) buffer
  | .octetString content, buffer => Backwards.pushTlv Tag.octetString content buffer
  | .null, buffer => Backwards.pushTlv Tag.null [] buffer
  | .objectId oid, buffer => Backwards.pushTlv Tag.objectId oid.toContent buffer
  | .ipAddress address, buffer => Backwards.pushTlv Tag.ipAddress address buffer
  | .binding one, buffer => Backwards.pushBinding one buffer
  | .bindings all, buffer => Backwards.pushBindings all buffer
  | .pdu message, buffer => Backwards.pushPdu message buffer

def extendAll : List Item → Octets → Octets
  | [], buffer => buffer
  | item :: items, buffer => extendAll items (extend item buffer)

end

mutual

theorem backs_write (item : Item) {buffer : Octets} {writer : Writer}
    (backs : Backs buffer writer) : Backs (item.extend buffer) (item.write writer) := by
  cases item with
  | octets front => exact backs.push front
  | length number => exact backs.pushLength number
  | tag octet => exact backs.pushTag octet
  | tlv octet content => exact backs.pushTlv octet content
  | constructed octet items => exact backs.pushConstructed octet (backs_writeAll items backs)
  | sequence items => exact backs.pushConstructed Tag.sequence (backs_writeAll items backs)
  | integer number => exact backs.pushInteger number
  | counter64 number => exact backs.pushCounter64 number
  | unsigned octet number => exact backs.pushUnsigned octet number
  | octetString content => exact backs.pushTlv Tag.octetString content
  | null => exact backs.pushTlv Tag.null []
  | objectId oid => exact backs.pushTlv Tag.objectId oid.toContent
  | ipAddress address => exact backs.pushTlv Tag.ipAddress address
  | binding one => exact backs.pushBinding one
  | bindings all => exact backs.pushBindings all
  | pdu message => exact backs.pushPdu message

theorem backs_writeAll (items : List Item) {buffer : Octets} {writer : Writer}
    (backs : Backs buffer writer) : Backs (extendAll items buffer) (writeAll items writer) := by
  cases items with
  | nil => simpa [extendAll] using backs
  | cons item items =>
      rw [extendAll, writeAll_cons]
      exact backs_writeAll items (backs_write item backs)

end

/-- Every tree of items is written as it is said from the front, and counted on the way; a buffer
that grows at its end has it the other way round. -/
theorem written_forward (items : List Item) (fits : Fits (lengthsAll items)) :
    Writer.written (writeAll items) = forwardAll items ∧
    (writeAll items .empty).size = (forwardAll items).length ∧
    statesAll items .empty = (progressAll items []).map .holding ∧
    (extendAll items []).reverse = forwardAll items := by
  have whole := writeAll_eq items fits (.holding [])
  rw [Writer.push_holding, List.append_nil] at whole
  have octets := congrArg Writer.octets whole
  refine ⟨octets, congrArg Writer.size whole, statesAll_eq items fits [], ?_⟩
  exact (backs_writeAll items .empty).octets.symm.trans octets

def mixed : List Item :=
  [.null, .constructed 0xA2 [.sequence [.octetString (List.replicate 200 0x41)],
    .binding ⟨⟨[1, 3, 6, 1]⟩, .integer, [5]⟩, .integer 7], .length 70000, .tag 0x04]

theorem written_forward_mixed : Fits (lengthsAll mixed) ∧
    Writer.written (writeAll mixed) = forwardAll mixed ∧
    (writeAll mixed .empty).size = (forwardAll mixed).length ∧
    statesAll mixed .empty = (progressAll mixed []).map .holding ∧
    (extendAll mixed []).reverse = forwardAll mixed ∧
    (forwardAll mixed).take 9 = [0x04, 0x83, 0x01, 0x11, 0x70, 0xA2, 0x81, 0xDB, 0x02] ∧
    (statesAll mixed .empty).map Writer.size = [2, 205, 208, 218, 221, 224, 228, 229] :=
  have fits : Fits (lengthsAll mixed) := by decide +kernel
  have ⟨whole, size, states, back⟩ := written_forward mixed fits
  ⟨fits, whole, size, states, back, by decide +kernel, by decide +kernel⟩

end Item
end RoadsideSnmp
