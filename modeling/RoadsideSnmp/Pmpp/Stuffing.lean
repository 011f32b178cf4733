import RoadsideSnmp.Octets

/-! Hiding flags inside a frame. A flag is sent as two octets, and so is the octet that announces
such a pair; an announcing octet before anything else means itself. -/
namespace RoadsideSnmp.Pmpp

def flag : UInt8 := 0x7E

def escape : UInt8 := 0x7D

def hiddenFlag : UInt8 := 0x5E

def hiddenEscape : UInt8 := 0x5D

def stuffOctet (octet : UInt8) : Octets :=
  if octet = flag then [escape, hiddenFlag]
  else if octet = escape then [escape, hiddenEscape]
  else [octet]

def isReserved (octet : UInt8) : Bool := octet = flag || octet = escape

def stuffedExtra (octets : Octets) : Nat := octets.countP isReserved

/-- Octets of which none has to be hidden are taken as they are. -/
def stuff (octets : Octets) : Octets :=
  if stuffedExtra octets = 0 then octets else octets.flatMap stuffOctet

theorem stuffOctet_of_plain {octet : UInt8} (plain : octet ≠ flag) (bare : octet ≠ escape) :
    stuffOctet octet = [octet] := by
  rw [stuffOctet, if_neg plain, if_neg bare]

theorem stuff_eq_flatMap (octets : Octets) : stuff octets = octets.flatMap stuffOctet := by
  unfold stuff
  split
  · next none =>
      have alone : ∀ octet ∈ octets, stuffOctet octet = [octet] := fun octet inside => by
        have plain := List.countP_eq_zero.mp none octet inside
        simp only [isReserved, Bool.or_eq_true, decide_eq_true_eq, not_or] at plain
        exact stuffOctet_of_plain plain.1 plain.2
      rw [List.flatMap_def, List.map_congr_left alone, ← List.flatMap_def, List.flatMap_singleton']
  · rfl

@[simp] theorem stuff_nil : stuff [] = [] := rfl

theorem stuff_cons (octet : UInt8) (octets : Octets) :
    stuff (octet :: octets) = stuffOctet octet ++ stuff octets := by
  simp only [stuff_eq_flatMap, List.flatMap_cons]

theorem stuff_append (front back : Octets) : stuff (front ++ back) = stuff front ++ stuff back := by
  simp only [stuff_eq_flatMap, List.flatMap_append]

def unstuff : Octets → Octets
  | [] => []
  | [last] => [last]
  | first :: second :: rest =>
      if first = escape ∧ second = hiddenFlag then flag :: unstuff rest
      else if first = escape ∧ second = hiddenEscape then escape :: unstuff rest
      else first :: unstuff (second :: rest)

end RoadsideSnmp.Pmpp
