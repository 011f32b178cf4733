import RoadsideSnmp.Proofs.Pmpp.Spans

/-! Frames among noise. The only flags of a frame are its first octet and its last, so noise without
flags around it does not hide it. A frame is made for just those stations whose address and protocol
identifier say themselves where they end. -/
namespace RoadsideSnmp.Pmpp

def Station.span (station : Station) (payload : Octets) : Octets :=
  stuff (station.octets ++ payload ++ checksumOctets (checksum (station.octets ++ payload)))

theorem frame_eq_flagged (station : Station) (payload : Octets) :
    frame station payload = flagged (station.span payload) := rfl

theorem Station.flag_notMem_span (station : Station) (payload : Octets) :
    flag ∉ station.span payload := flag_notMem_stuff _

theorem Station.minBody_le_length_span (station : Station) (payload : Octets) :
    minBody ≤ (station.span payload).length := by
  have content := station.octets_append_length_ge payload
  have sum (sum : UInt16) : (checksumOctets sum).length = 2 := rfl
  refine Nat.le_trans ?_ (length_le_length_stuff _)
  rw [List.length_append, sum, minBody]
  omega

theorem length_flagged (span : Octets) : (flagged span).length = span.length + 2 := by
  simp [flagged]

theorem flagged_getElem?_eq_flag_iff {span : Octets} (plain : flag ∉ span) (position : Nat) :
    (flagged span)[position]? = some flag ↔
      position = 0 ∨ position + 1 = (flagged span).length := by
  rw [length_flagged]
  match position with
  | 0 => simp [flagged]
  | position + 1 =>
      have behind : (flagged span)[position + 1]? = (span ++ [flag])[position]? := rfl
      rw [behind]
      obtain inside | rfl | beyond := Nat.lt_trichotomy position span.length
      · rw [List.getElem?_append_left inside]
        exact iff_of_false (fun found => plain (List.mem_of_getElem? found)) (by omega)
      · exact iff_of_true (by simp) (by omega)
      · have missing : (span ++ [flag])[position]? = none := by
          apply List.getElem?_eq_none
          rw [List.length_append, List.length_singleton]
          exact beyond
        exact iff_of_false (by simp [missing]) (by omega)

theorem unframe_frame_noise {before after address protocolId : Octets} {control : UInt8}
    {station : Station} (quiet : flag ∉ before) (still : flag ∉ after)
    (made : Station.make address control protocolId = .ok station) (payload : Octets) :
    unframe (before ++ frame station payload ++ after) false =
      .ok ⟨some station, payload, .valid⟩ := by
  rw [frame, unframe_noise quiet still (station.octets_append_length_ge payload)
    (Station.take?_of_make made payload), checkOf_checksumOctets]
  rfl

namespace Field

/-- One octet or two, of which the last alone has its low bit set. -/
def IsDelimited (octets : Octets) : Prop :=
  ∃ front last, octets = front ++ [last] ∧ front.length ≤ 1 ∧ endsAt last = true ∧
    ∀ octet ∈ front, endsAt octet = false

theorem octets_of_make {name : HeaderField} {octets : Octets} {field : Field}
    (made : make name octets = .ok field) : field.octets = octets ∧ IsDelimited octets := by
  unfold make at made
  split at made
  · next octet =>
      split at made
      · next ends =>
          obtain rfl := Except.ok.inj made
          exact ⟨rfl, [], octet, rfl, by simp, ends, by simp⟩
      · simp at made
  · next first second =>
      split at made
      · simp at made
      · next ends =>
          obtain rfl := Except.ok.inj made
          simp only [Bool.or_eq_true, Bool.not_eq_true', not_or, Bool.not_eq_true,
            Bool.not_eq_false] at ends
          exact ⟨rfl, [first], second, rfl, by simp, ends.2, by simpa using ends.1⟩
  · simp at made

theorem exists_make_iff (name : HeaderField) (octets : Octets) :
    (∃ field, make name octets = .ok field) ↔ IsDelimited octets := by
  constructor
  · rintro ⟨field, made⟩
    exact (octets_of_make made).2
  · rintro ⟨front, last, rfl, short, ends, goes⟩
    match front with
    | [] => exact ⟨.single last, if_pos ends⟩
    | [first] =>
        have on : endsAt first = false := goes first List.mem_cons_self
        exact ⟨.pair first last, if_neg (by simp [on, ends])⟩

end Field

namespace Station

theorem octets_of_make {address protocolId : Octets} {control : UInt8} {station : Station}
    (made : make address control protocolId = .ok station) :
    station.octets = address ++ control :: protocolId := by
  obtain ⟨first, rfl, second⟩ := fields_of_make made
  rw [octets, (Field.octets_of_make first).1, (Field.octets_of_make second).1]

theorem exists_make_iff (address : Octets) (control : UInt8) (protocolId : Octets) :
    (∃ station, make address control protocolId = .ok station) ↔
      Field.IsDelimited address ∧ Field.IsDelimited protocolId := by
  rw [← Field.exists_make_iff .address, ← Field.exists_make_iff .protocolId]
  constructor
  · rintro ⟨station, made⟩
    obtain ⟨first, -, second⟩ := fields_of_make made
    exact ⟨⟨_, first⟩, _, second⟩
  · rintro ⟨⟨first, madeFirst⟩, second, madeSecond⟩
    refine ⟨⟨first, control, second⟩, ?_⟩
    rw [make, madeFirst, madeSecond]
    rfl

end Station

/-- Fields that a station can have make a frame with flags at its ends alone, which opens to them
and to the payload in any noise that has no flags; other fields make none. -/
theorem frameFields_opens (address : Octets) (control : UInt8) (protocolId payload : Octets) :
    (∀ station, Station.make address control protocolId = .ok station →
      station.octets = address ++ control :: protocolId ∧
      frameFields address control protocolId payload = .ok (frame station payload) ∧
      (∀ position, (frame station payload)[position]? = some flag ↔
        position = 0 ∨ position + 1 = (frame station payload).length) ∧
      ∀ before after, flag ∉ before → flag ∉ after →
        unframe (before ++ frame station payload ++ after) false =
          .ok ⟨some station, payload, .valid⟩) ∧
    (∀ fault, Station.make address control protocolId = .error fault →
      frameFields address control protocolId payload = .error fault) ∧
    ((∃ sent, frameFields address control protocolId payload = .ok sent) ↔
      Field.IsDelimited address ∧ Field.IsDelimited protocolId) := by
  refine ⟨fun station made => ⟨Station.octets_of_make made, ?_, ?_, ?_⟩, fun fault refused => ?_, ?_⟩
  · rw [frameFields, made]
    rfl
  · exact flagged_getElem?_eq_flag_iff (station.flag_notMem_span payload)
  · exact fun before after quiet still => unframe_frame_noise quiet still made payload
  · rw [frameFields, refused]
    rfl
  · rw [← Station.exists_make_iff]
    unfold frameFields
    cases Station.make address control protocolId with
    | error fault => simp [Except.map]
    | ok station => simp [Except.map]

theorem frameFields_opens_hidden :
    Station.make [0x7C, 0x7F] 0x7E [0x7D] = .ok ⟨.pair 0x7C 0x7F, 0x7E, .single 0x7D⟩ ∧
      unframe ([0x7D, 0x5E] ++ frame ⟨.pair 0x7C 0x7F, 0x7E, .single 0x7D⟩ [0x7E, 0x05, 0x7D] ++
        [0x01]) false =
          .ok ⟨some ⟨.pair 0x7C 0x7F, 0x7E, .single 0x7D⟩, [0x7E, 0x05, 0x7D], .valid⟩ ∧
      Station.make [0x05, 0x7F] 0x03 [0xC1] = .error (.fieldExtension .address) ∧
      frameFields [0x05, 0x7F] 0x03 [0xC1] [0x30] = .error (.fieldExtension .address) := by
  have made : Station.make [0x7C, 0x7F] 0x7E [0x7D] =
      .ok ⟨.pair 0x7C 0x7F, 0x7E, .single 0x7D⟩ := rfl
  have refused : Station.make [0x05, 0x7F] 0x03 [0xC1] = .error (.fieldExtension .address) := rfl
  obtain ⟨-, -, -, opens⟩ :=
    (frameFields_opens [0x7C, 0x7F] 0x7E [0x7D] [0x7E, 0x05, 0x7D]).1 _ made
  exact ⟨made, opens _ _ (by decide) (by decide), refused,
    (frameFields_opens [0x05, 0x7F] 0x03 [0xC1] [0x30]).2.1 _ refused⟩

end RoadsideSnmp.Pmpp
