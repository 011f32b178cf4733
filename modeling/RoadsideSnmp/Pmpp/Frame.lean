import RoadsideSnmp.Pmpp.Checksum
import RoadsideSnmp.Pmpp.Station
import RoadsideSnmp.Pmpp.Stuffing

/-! One frame: a flag, then header, payload and checksum with their flags hidden, then a flag.
A checksum that does not match is a finding and not an error, and the payload is handed on with
it; a string without two flags is taken to be a bare payload. -/
namespace RoadsideSnmp.Pmpp

/-- Address, control, protocol identifier and checksum take at least this many octets. -/
def minBody : Nat := 5

inductive FrameCheck where
  | valid
  | mismatch (received computed : UInt16)
  /-- There was no frame to check. -/
  | absent
  deriving DecidableEq, Repr

structure Unframed where
  header : Option Station
  payload : Octets
  check : FrameCheck
  deriving DecidableEq, Repr

def Unframed.isDamaged (unframed : Unframed) : Bool :=
  match unframed.check with
  | .mismatch _ _ => true
  | _ => false

def enclose (content : Octets) (sum : UInt16) : Octets :=
  flag :: stuff (content ++ checksumOctets sum) ++ [flag]

def frame (station : Station) (payload : Octets) : Octets :=
  let content := station.octets ++ payload
  enclose content (checksum content)

def frameFields (address : Octets) (control : UInt8) (protocolId payload : Octets) :
    Except EncodeFault Octets :=
  (Station.make address control protocolId).map fun station => frame station payload

def beforeLastFlag? : Octets → Option Octets
  | [] => none
  | first :: rest =>
      match beforeLastFlag? rest with
      | some front => some (first :: front)
      | none => if first = flag then some [] else none

/-- What stands between the first flag and the last, if they are two, and where the first is. -/
def between? (octets : Octets) : Option (Nat × Octets) :=
  let noise := octets.takeWhile (· ≠ flag)
  (beforeLastFlag? (octets.drop (noise.length + 1))).map fun inside => (noise.length, inside)

def checkOf (content sum : Octets) : FrameCheck :=
  let received := ofChecksumOctets (sum.headD 0) (sum.getD 1 0)
  let computed := checksum content
  if received = computed then .valid else .mismatch received computed

/-- Octets outside the flags are noise. With `keepHeader` the payload begins with the header. -/
def unframe (octets : Octets) (keepHeader : Bool) : Except DecodeError Unframed :=
  match between? octets with
  | none => .ok ⟨none, octets, .absent⟩
  | some (start, inside) =>
      let body := unstuff inside
      if body.length < minBody then .error ⟨start, .shortFrame body.length⟩
      else
        let content := body.take (body.length - 2)
        match Station.take? content with
        | none => .error ⟨start, .shortFrame body.length⟩
        | some (station, payload) =>
            .ok ⟨some station, if keepHeader then content else payload,
              checkOf content (body.drop (body.length - 2))⟩

structure LineTally where
  frames : Nat
  damaged : Nat
  bare : Nat
  deriving DecidableEq, Repr

namespace LineTally

def zero : LineTally := ⟨0, 0, 0⟩

def count (tally : LineTally) (unframed : Unframed) : LineTally :=
  match unframed.check with
  | .valid => { tally with frames := tally.frames + 1 }
  | .mismatch _ _ => { tally with frames := tally.frames + 1, damaged := tally.damaged + 1 }
  | .absent => { tally with bare := tally.bare + 1 }

def unframe (tally : LineTally) (octets : Octets) (keepHeader : Bool) :
    LineTally × Except DecodeError Unframed :=
  match Pmpp.unframe octets keepHeader with
  | .ok unframed => (tally.count unframed, .ok unframed)
  | .error error => (tally, .error error)

end LineTally
end RoadsideSnmp.Pmpp
