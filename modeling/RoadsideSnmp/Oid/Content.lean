import RoadsideSnmp.Ber.Fault
import RoadsideSnmp.Oid

/-! The content octets of an object identifier. The first two arcs share a subidentifier
`40 * first + second`; each subidentifier is written in groups of seven bits, the top bit of an
octet saying that more groups follow. The root has no content. -/
namespace RoadsideSnmp.Oid

def groupCount (number : Nat) : Nat :=
  if number = 0 then 0 else Nat.log2 number / 7 + 1

def continuedGroups : (count number : Nat) → Octets
  | 0, _ => []
  | count + 1, number =>
      continuedGroups count (number / 128) ++ [UInt8.ofNat (128 + number % 128)]

def subidentifier (number : Nat) : Octets :=
  continuedGroups (groupCount (number / 128)) (number / 128) ++ [UInt8.ofNat (number % 128)]

/-- Arithmetic on the first two arcs stops at the largest 32-bit number. -/
def clamp (number : Nat) : Nat := min number 0xFFFFFFFF

def headNumber (first second : UInt32) : Nat :=
  clamp (clamp (first.toNat * 40) + second.toNat)

def toContent (oid : Oid) : Octets :=
  match oid.arcs with
  | [] => []
  | [only] => subidentifier (headNumber only 0)
  | first :: second :: rest =>
      subidentifier (headNumber first second) ++ rest.flatMap fun arc => subidentifier arc.toNat

def toContentChecked (oid : Oid) : Except OidFault Octets :=
  oid.validate.map fun _ => oid.toContent

/-- Reads subidentifiers to the end of the octets. `number` is the part read of the current one,
`midway` says that it goes on, `room` counts those that may still be completed. -/
def readNumbers : (octets : Octets) → (offset number : Nat) → (midway : Bool) → (room : Nat) →
    Except DecodeError (List Nat)
  | [], offset, _, midway, _ =>
      if midway then .error ⟨offset, .truncated⟩ else .ok []
  | octet :: rest, offset, number, _, room =>
      if 0x1FFFFFF < number then .error ⟨offset, .badSubidentifier⟩
      else
        let total := number * 128 + octet.toNat % 128
        if 128 ≤ octet.toNat then readNumbers rest (offset + 1) total true room
        else match room with
          | 0 => .error ⟨offset + 1, .tooManyArcs (maxArcs + 1) maxArcs⟩
          | room + 1 => (readNumbers rest (offset + 1) 0 false room).map (total :: ·)

def splitHead (number : Nat) : List Nat :=
  if number < 40 then [0, number]
  else if number < 80 then [1, number - 40]
  else [2, number - 80]

def ofContent (octets : Octets) : Except DecodeError Oid :=
  (readNumbers octets 0 0 false (maxArcs - 1)).map fun
    | [] => root
    | head :: rest => ofNats (splitHead head ++ rest)

end RoadsideSnmp.Oid
