import RoadsideSnmp.Proofs.Pmpp.Framing
import RoadsideSnmp.Session

/-! Payloads in frames. A wrapping is all that a frame adds to a payload: a header that a station can
have, and two octets that should be the checksum and may be anything. A session with a station makes
of a wrapped payload what a session without one makes of the payload. -/
namespace RoadsideSnmp

namespace Pmpp

structure Wrapping where
  header : Station
  valid : ∃ address control protocolId, Station.make address control protocolId = .ok header
  sum : UInt16

namespace Wrapping

def content (wrapping : Wrapping) (payload : Octets) : Octets := wrapping.header.octets ++ payload

def wrap (wrapping : Wrapping) (payload : Octets) : Octets :=
  enclose (wrapping.content payload) wrapping.sum

def isDamaged (wrapping : Wrapping) (payload : Octets) : Bool :=
  wrapping.sum ≠ checksum (wrapping.content payload)

theorem isDamaged_eq (wrapping : Wrapping) (payload : Octets) :
    (Unframed.mk (some wrapping.header) payload
      (checkOf (wrapping.content payload) (checksumOctets wrapping.sum))).isDamaged =
        wrapping.isDamaged payload := by
  have received : ofChecksumOctets ((checksumOctets wrapping.sum).headD 0)
      ((checksumOctets wrapping.sum).getD 1 0) = wrapping.sum :=
    ofChecksumOctets_checksumOctets wrapping.sum
  rw [checkOf, received]
  by_cases same : wrapping.sum = checksum (wrapping.content payload)
  · simp [Unframed.isDamaged, isDamaged, same]
  · simp [Unframed.isDamaged, isDamaged, same]

theorem unframe_wrap (wrapping : Wrapping) (payload : Octets) : ∃ check,
    unframe (wrapping.wrap payload) false = .ok ⟨some wrapping.header, payload, check⟩ ∧
      (Unframed.mk (some wrapping.header) payload check).isDamaged =
        wrapping.isDamaged payload := by
  obtain ⟨address, control, protocolId, made⟩ := wrapping.valid
  have long : 3 ≤ (wrapping.content payload).length :=
    wrapping.header.octets_append_length_ge payload
  exact ⟨_, unframe_enclose long (Station.take?_of_make made payload) false,
    wrapping.isDamaged_eq payload⟩

end Wrapping
end Pmpp

theorem Session.unpack_wrap {session : Session} {station : Pmpp.Station}
    (framed : session.config.station = some station) (wrapping : Pmpp.Wrapping)
    (payload : Octets) : session.unpack (wrapping.wrap payload) =
      (Message.decode payload, wrapping.isDamaged payload) := by
  obtain ⟨check, opened, damaged⟩ := wrapping.unframe_wrap payload
  simp only [unpack, framed, opened, damaged]

theorem Session.unpack_bare {session : Session} (bare : session.config.station = none)
    (payload : Octets) : session.unpack payload = (Message.decode payload, false) := by
  simp only [unpack, bare]

end RoadsideSnmp
