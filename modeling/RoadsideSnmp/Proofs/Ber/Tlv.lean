import RoadsideSnmp.Ber.Writer
import RoadsideSnmp.Proofs.Ber.Length

/-! What a writer does, seen from the front. Every push puts octets of its own in front of what
was there, so a constructed value is its tag, the length of what was pushed inside, and that. -/
namespace RoadsideSnmp

namespace Ber

def tlv (tag : UInt8) (content : Octets) : Octets :=
  tag :: Length.encode content.length ++ content

theorem tlv_eq (tag : UInt8) (content : Octets) :
    tlv tag content = (tag :: Length.encode content.length) ++ content := rfl

theorem tlv_ne_nil (tag : UInt8) (content : Octets) : tlv tag content ≠ [] :=
  List.cons_ne_nil _ _

theorem length_le_tlv (tag : UInt8) (content : Octets) :
    content.length ≤ (tlv tag content).length := by
  rw [tlv_eq, List.length_append]
  exact Nat.le_add_left _ _

theorem length_tlv_le (tag : UInt8) (content : Octets) :
    (tlv tag content).length ≤ content.length + 6 := by
  have field := Length.length_encode_le content.length
  rw [tlv_eq, List.length_append, List.length_cons]
  omega

end Ber

namespace Writer

@[simp] theorem push_push (front back : Octets) (writer : Writer) :
    (writer.push back).push front = writer.push (front ++ back) := by
  simp only [push, List.append_assoc, List.length_append, mk.injEq, true_and]
  omega

theorem pushTlv_eq (tag : UInt8) (content : Octets) (writer : Writer) :
    writer.pushTlv tag content = writer.push (Ber.tlv tag content) := by
  simp only [pushTlv, pushLength, pushTag, push_push]
  rfl

theorem pushConstructed_eq (tag : UInt8) {content : Writer → Writer} {front : Octets}
    {writer : Writer} (pushed : content writer = writer.push front) :
    writer.pushConstructed tag content = writer.push (Ber.tlv tag front) := by
  have added : (writer.push front).size - writer.size = front.length :=
    Nat.add_sub_cancel_left _ _
  simp only [pushConstructed, pushed, added, pushLength, pushTag, push_push]
  rfl

theorem written_eq {content : Writer → Writer} {front : Octets}
    (pushed : content empty = empty.push front) : written content = front := by
  rw [written, pushed]
  exact List.append_nil front

end Writer
end RoadsideSnmp
