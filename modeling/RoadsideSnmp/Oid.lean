import RoadsideSnmp.Octets

/-! Object identifiers: lists of 32-bit arcs, ordered by the first arc that differs, a proper
beginning first. Any list of arcs is an `Oid`; `validate` says which ones have a faithful
encoding. -/
namespace RoadsideSnmp

structure Oid where
  arcs : List UInt32
  deriving DecidableEq, Repr, Inhabited

inductive OidFault where
  | empty
  | badArc
  | firstArc (first : UInt32)
  | secondArc (first second : UInt32)
  | tooShort
  | tooLong (count max : Nat)
  deriving DecidableEq, Repr

def OidFault.message (fault : OidFault) : String :=
  "invalid OID: " ++ match fault with
  | .empty => "empty OID"
  | .badArc => "invalid arc value"
  | .firstArc first => s!"first arc must be 0, 1, or 2, got {first}"
  | .secondArc first second => s!"second arc {second} too large for first arc {first}"
  | .tooShort => "OID must have at least 2 arcs"
  | .tooLong count max => s!"OID has {count} arcs, exceeds maximum {max}"

namespace Oid

def maxArcs : Nat := 128

def ofNats (arcs : List Nat) : Oid := ⟨arcs.map UInt32.ofNat⟩

def root : Oid := ⟨[]⟩

def isRoot (oid : Oid) : Bool := oid.arcs.isEmpty

def size (oid : Oid) : Nat := oid.arcs.length

def within (oid base : Oid) : Bool := base.arcs.isPrefixOf oid.arcs

def parent? (oid : Oid) : Option Oid :=
  if oid.arcs.isEmpty then none else some ⟨oid.arcs.dropLast⟩

def child (oid : Oid) (arc : UInt32) : Oid := ⟨oid.arcs ++ [arc]⟩

/-- Arc by arc; a proper beginning comes first. -/
def compareArcs : List UInt32 → List UInt32 → Ordering
  | [], [] => .eq
  | [], _ :: _ => .lt
  | _ :: _, [] => .gt
  | a :: as, b :: bs => (compare a b).then (compareArcs as bs)

instance : Ord Oid := ⟨fun a b => compareArcs a.arcs b.arcs⟩

def before (a b : Oid) : Bool := compare a b == .lt

/-- The first two arcs share one subidentifier, which must not overflow and must leave the first
arc readable. -/
def validateArcs (oid : Oid) : Except OidFault Unit :=
  match oid.arcs with
  | first :: second :: _ =>
      if 2 < first then .error (.firstArc first)
      else if first < 2 ∧ 40 ≤ second then .error (.secondArc first second)
      else if first = 2 ∧ 4294967215 < second then .error (.secondArc first second)
      else .ok ()
  | _ => .error .tooShort

def validateSize (oid : Oid) : Except OidFault Unit :=
  if maxArcs < oid.size then .error (.tooLong oid.size maxArcs) else .ok ()

def validate (oid : Oid) : Except OidFault Unit := do
  oid.validateArcs
  oid.validateSize

def text (oid : Oid) : String :=
  ".".intercalate (oid.arcs.map fun arc => toString arc.toNat)

def readArc (part : List Char) : Except OidFault UInt32 :=
  if part.isEmpty || !part.all Char.isDigit then .error .badArc
  else
    let number := part.foldl (fun total digit => total * 10 + (digit.toNat - '0'.toNat)) 0
    if number < UInt32.size then .ok (UInt32.ofNat number) else .error .badArc

/-- Dotted decimal; one dot in front is accepted. The first fault from the left wins, and the
arcs are checked together only when each one reads. -/
def parse (input : String) : Except OidFault Oid := do
  let characters := input.toList
  let body := if characters.head? = some '.' then characters.tail else characters
  if body.isEmpty then throw .empty
  let oid : Oid := ⟨← (body.splitOn '.').mapM readArc⟩
  oid.validate
  return oid

end Oid
end RoadsideSnmp
