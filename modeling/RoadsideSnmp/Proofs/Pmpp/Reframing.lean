import Mathlib.Control.Monad.Basic
import RoadsideSnmp.Proofs.Pmpp.Framing

/-! What opens from octets of any kind. To keep the header or not makes no other difference, and
what has a valid checksum opens alike from a frame that is made of it, however far from such a frame
the octets were that it came from. -/
namespace RoadsideSnmp.Pmpp

namespace Field

variable {octets rest : Octets} {field : Field}

theorem eq_of_take? (taken : take? octets = some (field, rest)) : octets = field.octets ++ rest := by
  unfold take? at taken
  split at taken
  · simp at taken
  split at taken
  · obtain ⟨rfl, rfl⟩ := Prod.mk.inj (Option.some.inj taken)
    rfl
  split at taken
  · simp at taken
  · obtain ⟨rfl, rfl⟩ := Prod.mk.inj (Option.some.inj taken)
    rfl

theorem take?_again (taken : take? octets = some (field, rest)) (other : Octets) :
    take? (field.octets ++ other) = some (field, other) := by
  unfold take? at taken
  split at taken
  · simp at taken
  split at taken
  · next ends =>
      obtain ⟨rfl, rfl⟩ := Prod.mk.inj (Option.some.inj taken)
      simp [take?, Field.octets, ends]
  · next goes =>
      split at taken
      · simp at taken
      · obtain ⟨rfl, rfl⟩ := Prod.mk.inj (Option.some.inj taken)
        simp [take?, Field.octets, goes]

end Field

namespace Station

variable {octets rest : Octets} {station : Station}

theorem fields_of_take? (taken : take? octets = some (station, rest)) : ∃ behind,
    Field.take? octets = some (station.address, station.control :: behind) ∧
      Field.take? behind = some (station.protocolId, rest) := by
  unfold take? at taken
  split at taken
  · simp at taken
  · simp at taken
  · next address control behind front =>
      obtain ⟨⟨protocolId, rest⟩, back, same⟩ := Option.map_eq_some_iff.mp taken
      obtain ⟨rfl, rfl⟩ := Prod.mk.inj same
      exact ⟨behind, front, back⟩

theorem eq_of_take? (taken : take? octets = some (station, rest)) :
    octets = station.octets ++ rest := by
  obtain ⟨behind, front, back⟩ := fields_of_take? taken
  rw [Field.eq_of_take? front, Field.eq_of_take? back, Station.octets, List.append_assoc,
    List.cons_append]

theorem take?_again (taken : take? octets = some (station, rest)) (other : Octets) :
    take? (station.octets ++ other) = some (station, other) := by
  obtain ⟨behind, front, back⟩ := fields_of_take? taken
  have address := Field.take?_again front
    (station.control :: (station.protocolId.octets ++ other))
  simp [take?, Station.octets, address, Field.take?_again back other]

end Station

def Unframed.withHeader (unframed : Unframed) : Unframed :=
  { unframed with payload := (unframed.header.elim [] Station.octets) ++ unframed.payload }

/-- All that can come of octets, the same whether the header is kept or not. -/
inductive Opens (octets : Octets) : Prop
  | bare (opened : ∀ keepHeader, unframe octets keepHeader = .ok ⟨none, octets, .absent⟩)
  | refused (error : DecodeError)
      (opened : ∀ keepHeader, unframe octets keepHeader = .error error)
  | found {station : Station} (payload sum : Octets)
      (taken : ∀ other, Station.take? (station.octets ++ other) = some (station, other))
      (opened : ∀ keepHeader, unframe octets keepHeader = .ok ⟨some station,
        if keepHeader then station.octets ++ payload else payload,
        checkOf (station.octets ++ payload) sum⟩)

theorem opens (octets : Octets) : Opens octets := by
  cases found : between? octets with
  | none => exact .bare fun keepHeader => by rw [unframe, found]
  | some span =>
      obtain ⟨start, inside⟩ := span
      let fault : DecodeError := ⟨start, .shortFrame (unstuff inside).length⟩
      by_cases short : (unstuff inside).length < minBody
      · exact .refused fault fun keepHeader => by simp only [unframe, found, if_pos short, fault]
      · cases read : Station.take? ((unstuff inside).take ((unstuff inside).length - 2)) with
        | none =>
            refine .refused fault fun keepHeader => ?_
            simp only [unframe, found, if_neg short, read, fault]
        | some header =>
            obtain ⟨station, payload⟩ := header
            have content := Station.eq_of_take? read
            let sum := (unstuff inside).drop ((unstuff inside).length - 2)
            refine .found payload sum (Station.take?_again read) fun keepHeader => ?_
            simp only [unframe, found, if_neg short, read]
            rw [content]

/-- The same octets fail with the header and without, and where they do not the two differ in the
header alone; what was whole is whole again when it is put into a frame anew. A header that stayed in
front is part of the payload in the new frame. -/
theorem unframe_headers (octets : Octets) :
    match unframe octets false with
    | .error error => unframe octets true = .error error
    | .ok unframed => unframe octets true = .ok unframed.withHeader ∧
        match unframed.header with
        | none => unframed = ⟨none, octets, .absent⟩ ∧ unframed.withHeader = unframed
        | some station => unframed.check = .valid →
            unframe (frame station unframed.payload) false = .ok unframed ∧
            unframe (frame station unframed.payload) true = .ok unframed.withHeader ∧
            unframe (frame station unframed.withHeader.payload) false =
              .ok unframed.withHeader := by
  cases opens octets with
  | bare opened =>
      rw [opened false]
      exact ⟨opened true, rfl, rfl⟩
  | refused _ opened =>
      rw [opened false]
      exact opened true
  | @found station payload _ taken opened =>
      rw [opened false]
      refine ⟨opened true, fun valid => ?_⟩
      have again (payload : Octets) := unframe_frame_of_take? (taken payload)
      rw [← valid] at again
      exact ⟨again payload false, again payload true, again (station.octets ++ payload) false⟩

def unkempt : Octets :=
  let content := [0x04, 0x06, 0x03, 0x10, 0x20, 0x30, flag, escape, 0x31]
  [0x01, 0x02] ++ flag :: content ++ checksumOctets (checksum content) ++ [flag, 0x03]

def unkemptStation : Station := ⟨.pair 0x04 0x06, 0x03, .pair 0x10 0x20⟩

def unkemptPayload : Octets := [0x30, flag, escape, 0x31]

theorem unframe_headers_unkempt :
    unframe unkempt false = .ok ⟨some unkemptStation, unkemptPayload, .valid⟩ ∧
      unframe unkempt true =
        .ok ⟨some unkemptStation, unkemptStation.octets ++ unkemptPayload, .valid⟩ ∧
      unframe (frame unkemptStation unkemptPayload) false =
        .ok ⟨some unkemptStation, unkemptPayload, .valid⟩ := by
  have opened : unframe unkempt false = .ok ⟨some unkemptStation, unkemptPayload, .valid⟩ := by
    decide +kernel
  -- the theorem is about octets that are a name, lest the match in it be evaluated
  generalize unkempt = octets at opened ⊢
  have whole := unframe_headers octets
  rw [opened] at whole
  obtain ⟨kept, again⟩ := whole
  exact ⟨opened, kept, (again rfl).1⟩

end RoadsideSnmp.Pmpp
