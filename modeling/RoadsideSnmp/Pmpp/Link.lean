import RoadsideSnmp.Failure
import RoadsideSnmp.Pmpp.Splitter

/-! One end of a link that carries frames as a stream of octets. What the device sends waits on
the wire until a receive wants it; a receive takes all that waits there. After a frame that is
too long the stream reads as ended once, and splitting goes on only when more arrives. -/
namespace RoadsideSnmp.Pmpp

inductive LinkPhase where
  /-- The buffer holds no frame in full. -/
  | reading
  /-- The buffer may hold one. -/
  | splitting
  /-- A fault has been reported, and its end is still to be. -/
  | failed
  deriving DecidableEq, Repr

structure Link where
  peer : String
  limit : Nat
  /-- Sent by the device and not yet received. -/
  wire : Octets
  buffer : Octets
  phase : LinkPhase
  /-- The end of the stream has been seen. -/
  ended : Bool
  /-- The device still holds its end. -/
  isOpen : Bool
  deriving DecidableEq, Repr

inductive Receipt where
  | frame (octets : Octets)
  | pending
  | fault (fault : LinkFault)
  deriving DecidableEq, Repr

namespace Link

def connect (peer : String) (limit : Nat) : Link := ⟨peer, limit, [], [], .reading, false, true⟩

/-- Octets from the device; a device that has left sends none. -/
def feed (octets : Octets) (link : Link) : Link :=
  if link.isOpen then { link with wire := link.wire ++ octets } else link

/-- The device leaves; what it sent before can still be received. -/
def close (link : Link) : Link := { link with isOpen := false }

def send (octets : Octets) (link : Link) : Except LinkFault Octets :=
  if link.isOpen || octets.isEmpty then .ok octets else .error .broken

def deliver (piece : Piece) (link : Link) : Receipt × Link :=
  match piece with
  | .whole octets => (.frame octets, link)
  | .oversized => (.fault .oversizedFrame, { link with phase := .failed })

def conclude (link : Link) : Receipt × Link :=
  match Splitter.last link.limit link.buffer with
  | (.piece piece, buffer) => deliver piece { link with buffer }
  | (.nothing, buffer) => (.fault .closed, { link with buffer, phase := .reading })
  | (.unterminated, buffer) => (.fault .unterminated, { link with buffer, phase := .failed })

/-- A receive that finds neither a frame nor anything on the wire. -/
def starve (link : Link) : Receipt × Link :=
  if link.isOpen then (.pending, link)
  else if link.ended then (.fault .closed, link)
  else conclude { link with ended := true, phase := .splitting }

def split (dry : Link → Receipt × Link) (link : Link) : Receipt × Link :=
  match Splitter.next link.limit link.buffer with
  | (some piece, buffer) => deliver piece { link with buffer, phase := .splitting }
  | (none, buffer) => dry { link with buffer, phase := .reading }

def read (link : Link) : Receipt × Link :=
  if link.wire.isEmpty then link.starve
  else split starve { link with buffer := link.buffer ++ link.wire, wire := [], ended := false }

def receive (link : Link) : Receipt × Link :=
  match link.phase with
  | .failed => (.fault .closed, { link with phase := .reading })
  | .splitting => if link.ended then link.conclude else split read link
  | .reading => link.read

end Link
end RoadsideSnmp.Pmpp
