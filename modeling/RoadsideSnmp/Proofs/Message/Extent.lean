import RoadsideSnmp.Proofs.Ber.Extent
import RoadsideSnmp.Proofs.Message.Normal

/-! Where a message ends. The outermost value decides it: octets behind that value are not looked
at, and a part of that value that lacks its end is no message. -/
namespace RoadsideSnmp.Message

theorem decode_append {octets value : Octets}
    (read : Cursor.tlv.run (.ofOctets octets) = .ok value) (more : Octets) :
    decode (octets ++ more) = decode value :=
  Cursor.nested_run_append Cursor.messageContent read more

/-- Faults and their offsets included, the result is that of the leading value alone, whatever
follows it; and of a value that is a message no proper beginning is. -/
theorem outermost_decides (octets : Octets) :
    (∀ value more, Cursor.tlv.run (.ofOctets octets) = .ok value →
      decode (octets ++ more) = decode octets ∧ decode octets = decode value) ∧
    (∀ message, decode octets = .ok message →
      ∃ value, Cursor.tlv.run (.ofOctets octets) = .ok value ∧
        ∀ front, front <+: value → front ≠ value → ∃ error, decode front = .error error ∧
          (error.fault = .truncated ∨
            ∃ needed available, error.fault = .insufficient needed available)) := by
  constructor
  · intro value more read
    have alone := decode_append read []
    rw [List.append_nil] at alone
    exact ⟨(decode_append read more).trans alone.symm, alone⟩
  · intro message decoded
    obtain ⟨field, content, rest, announces, whole⟩ := Cursor.of_nested_run_ok decoded
    have read := Cursor.tlv_run_eq_ok_iff.mpr ⟨_, field, content, rest, announces, rfl, whole⟩
    refine ⟨_, read, fun front begins cut => ?_⟩
    obtain ⟨error, refused, fault⟩ := Cursor.nested_run_of_cut announces begins cut
    exact ⟨error, refused, fault.imp_right fun ⟨available, same⟩ => ⟨_, available, same⟩⟩

theorem outermost_decides_paddedOctets :
    Cursor.tlv.run (.ofOctets paddedOctets) = .ok (paddedOctets.take 51) ∧
      decode (paddedOctets ++ [0x30]) = decode (paddedOctets.take 51) ∧
      decode paddedOctets = .ok paddedMessage ∧
      ∃ error, decode (paddedOctets.take 50) = .error error := by
  have read : Cursor.tlv.run (.ofOctets paddedOctets) = .ok (paddedOctets.take 51) := by
    decide +kernel
  have decoded : decode paddedOctets = .ok paddedMessage := by decide +kernel
  have decides := outermost_decides paddedOctets
  obtain ⟨more, alone⟩ := decides.1 _ [0x30] read
  obtain ⟨value, same, cut⟩ := decides.2 _ decoded
  obtain rfl := Except.ok.inj (read.symm.trans same)
  obtain ⟨error, refused, -⟩ := cut (paddedOctets.take 50)
    ⟨[0xBB], by decide⟩ (by decide)
  exact ⟨read, more.trans alone, decoded, error, refused⟩

end RoadsideSnmp.Message
