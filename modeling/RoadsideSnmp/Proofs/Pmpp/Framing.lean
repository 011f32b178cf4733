import RoadsideSnmp.Pmpp.Frame
import RoadsideSnmp.Proofs.Outcome
import RoadsideSnmp.Proofs.Pmpp.Stuffing

/-! A frame opens to the station and the payload that it was made of. Stuffing leaves no flag
inside, so the flags around a frame are its only ones, and unstuffing takes the pairs apart that
stuffing made. -/
namespace RoadsideSnmp.Pmpp

section

variable {noise span : Octets}

theorem ne_flag_of_mem (bare : flag ∉ noise) {octet : UInt8}
    (inside : octet ∈ noise) : octet ≠ flag :=
  fun same => bare (same ▸ inside)

theorem takeWhile_append (plain : flag ∉ span) (stream : Octets) :
    (span ++ stream).takeWhile (· ≠ flag) = span ++ stream.takeWhile (· ≠ flag) :=
  List.takeWhile_append_of_pos fun _ inside => decide_eq_true (ne_flag_of_mem plain inside)

theorem takeWhile_append_flag (plain : flag ∉ span) (after : Octets) :
    (span ++ flag :: after).takeWhile (· ≠ flag) = span := by
  rw [takeWhile_append plain, List.takeWhile_cons_of_neg (by simp), List.append_nil]

theorem beforeLastFlag?_of_notMem (bare : flag ∉ noise) :
    beforeLastFlag? noise = none := by
  induction noise with
  | nil => rfl
  | cons octet noise ih =>
      have first := ne_flag_of_mem bare List.mem_cons_self
      rw [beforeLastFlag?, ih fun inside => bare (List.mem_cons_of_mem octet inside)]
      exact if_neg first

theorem beforeLastFlag?_append (bare : flag ∉ noise) (front : Octets) :
    beforeLastFlag? (front ++ flag :: noise) = some front := by
  induction front with
  | nil =>
      rw [List.nil_append, beforeLastFlag?, beforeLastFlag?_of_notMem bare]
      exact if_pos rfl
  | cons octet front ih => rw [List.cons_append, beforeLastFlag?, ih]

theorem between?_noise {before after : Octets} (quiet : flag ∉ before) (still : flag ∉ after)
    (inside : Octets) :
    between? (before ++ flag :: (inside ++ flag :: after)) = some (before.length, inside) := by
  have rest : (before ++ flag :: (inside ++ flag :: after)).drop (before.length + 1) =
      inside ++ flag :: after := by
    simp
  rw [between?, takeWhile_append_flag quiet, rest, beforeLastFlag?_append still]
  rfl

end

namespace Field

theorem take?_of_make {name : HeaderField} {octets : Octets} {field : Field}
    (made : make name octets = .ok field) (rest : Octets) :
    take? (field.octets ++ rest) = some (field, rest) := by
  unfold make at made
  split at made
  · next octet =>
      split at made
      · next ends =>
          obtain rfl := Except.ok.inj made
          simp [take?, Field.octets, ends]
      · simp at made
  · next first second =>
      split at made
      · simp at made
      · next ends =>
          obtain rfl := Except.ok.inj made
          simp only [Bool.or_eq_true, not_or] at ends
          simp [take?, Field.octets, ends.1]
  · simp at made

end Field

namespace Station

theorem fields_of_make {address protocolId : Octets} {control : UInt8} {station : Station}
    (made : make address control protocolId = .ok station) :
    Field.make .address address = .ok station.address ∧ station.control = control ∧
      Field.make .protocolId protocolId = .ok station.protocolId := by
  obtain ⟨field, first, rest⟩ := bind_eq_ok_iff.mp made
  obtain ⟨other, second, same⟩ := bind_eq_ok_iff.mp rest
  obtain rfl := Except.ok.inj same
  exact ⟨first, rfl, second⟩

theorem take?_of_make {address protocolId : Octets} {control : UInt8} {station : Station}
    (made : make address control protocolId = .ok station) (rest : Octets) :
    take? (station.octets ++ rest) = some (station, rest) := by
  obtain ⟨address, -, protocolId⟩ := fields_of_make made
  have front := Field.take?_of_make address
    (station.control :: (station.protocolId.octets ++ rest))
  simp [take?, octets, front, Field.take?_of_make protocolId rest]

theorem octets_length_ge (station : Station) : 3 ≤ station.octets.length := by
  have some (field : Field) : 1 ≤ field.octets.length := by
    cases field <;> simp [Field.octets]
  have first := some station.address
  have second := some station.protocolId
  simp only [octets, List.length_append, List.length_cons]
  omega

end Station

theorem checkOf_checksumOctets (content : Octets) :
    checkOf content (checksumOctets (checksum content)) = .valid :=
  if_pos (ofChecksumOctets_checksumOctets (checksum content))

theorem unframe_noise {before after content payload : Octets} {station : Station} {sum : UInt16}
    (quiet : flag ∉ before) (still : flag ∉ after) (long : 3 ≤ content.length)
    (taken : Station.take? content = some (station, payload)) (keepHeader : Bool) :
    unframe (before ++ enclose content sum ++ after) keepHeader =
      .ok ⟨some station, if keepHeader then content else payload,
        checkOf content (checksumOctets sum)⟩ := by
  have sumLength : (checksumOctets sum).length = 2 := rfl
  have front : (content ++ checksumOctets sum).take content.length = content := by simp
  have back : (content ++ checksumOctets sum).drop content.length = checksumOctets sum := by simp
  have cut : (content ++ checksumOctets sum).length - 2 = content.length := by simp [sumLength]
  have enough : ¬ (content ++ checksumOctets sum).length < minBody := by
    simp only [List.length_append, sumLength, minBody]
    omega
  have stream : before ++ enclose content sum ++ after =
      before ++ flag :: (stuff (content ++ checksumOctets sum) ++ flag :: after) := by
    simp [enclose]
  simp only [unframe, stream, between?_noise quiet still, unstuff_stuff, if_neg enough, cut, front,
    back, taken]

theorem unframe_enclose {content payload : Octets} {station : Station} {sum : UInt16}
    (long : 3 ≤ content.length) (taken : Station.take? content = some (station, payload))
    (keepHeader : Bool) : unframe (enclose content sum) keepHeader =
      .ok ⟨some station, if keepHeader then content else payload,
        checkOf content (checksumOctets sum)⟩ := by
  have alone : unframe ([] ++ enclose content sum ++ []) keepHeader = _ :=
    unframe_noise List.not_mem_nil List.not_mem_nil long taken keepHeader
  rwa [List.nil_append, List.append_nil] at alone

theorem Station.octets_append_length_ge (station : Station) (payload : Octets) :
    3 ≤ (station.octets ++ payload).length := by
  have header := station.octets_length_ge
  rw [List.length_append]
  omega

theorem unframe_frame_of_take? {station : Station} {payload : Octets}
    (taken : Station.take? (station.octets ++ payload) = some (station, payload))
    (keepHeader : Bool) : unframe (frame station payload) keepHeader =
      .ok ⟨some station, if keepHeader then station.octets ++ payload else payload, .valid⟩ := by
  rw [frame, unframe_enclose (station.octets_append_length_ge payload) taken,
    checkOf_checksumOctets]

theorem unframe_frame {address protocolId : Octets} {control : UInt8} {station : Station}
    (made : Station.make address control protocolId = .ok station) (payload : Octets) :
    unframe (frame station payload) false = .ok ⟨some station, payload, .valid⟩ :=
  unframe_frame_of_take? (Station.take?_of_make made payload) false

end RoadsideSnmp.Pmpp
