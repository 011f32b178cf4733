import RoadsideSnmp.Pmpp.Frame

/-! Cutting a stream of octets into frames. Octets in front of a flag are dropped, a span between
flags that is too short for a frame is noise, and the flag that closes one frame may open the
next, so it stays in the buffer. -/
namespace RoadsideSnmp.Pmpp

inductive Piece where
  /-- A frame with both of its flags. -/
  | whole (octets : Octets)
  /-- A span that was dropped because it was longer than any frame may be. -/
  | oversized
  deriving DecidableEq, Repr

namespace Splitter

def standardLimit : Nat := 8192

def fromFlag (buffer : Octets) : Octets := buffer.dropWhile (· ≠ flag)

theorem length_fromFlag_le (buffer : Octets) : (fromFlag buffer).length ≤ buffer.length :=
  (List.dropWhile_sublist _).length_le

/-- The next piece that `buffer` holds in full, and what stays buffered behind it. -/
def next (limit : Nat) (buffer : Octets) : Option Piece × Octets :=
  match _opened : fromFlag buffer with
  | [] => (none, [])
  | opening :: rest =>
      let body := rest.takeWhile (· ≠ flag)
      match _closed : fromFlag rest with
      | [] =>
          if limit < body.length + 1 then (some .oversized, []) else (none, opening :: rest)
      | closing :: after =>
          if body.length < minBody then next limit (closing :: after)
          else if limit < body.length + 2 then (some .oversized, closing :: after)
          else (some (.whole (opening :: body ++ [closing])), closing :: after)
termination_by buffer.length
decreasing_by
  have outer := length_fromFlag_le buffer
  have inner := length_fromFlag_le rest
  rw [_opened] at outer
  rw [_closed] at inner
  simp only [List.length_cons] at outer inner ⊢
  omega

inductive Ending where
  | piece (piece : Piece)
  | nothing
  /-- Octets are left that no flag will close. -/
  | unterminated
  deriving DecidableEq, Repr

def last (limit : Nat) (buffer : Octets) : Ending × Octets :=
  match next limit buffer with
  | (some piece, rest) => (.piece piece, rest)
  | (none, rest) => (if rest.isEmpty then .nothing else .unterminated, rest)

end Splitter
end RoadsideSnmp.Pmpp
