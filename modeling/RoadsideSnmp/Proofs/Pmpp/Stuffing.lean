import RoadsideSnmp.Pmpp.Stuffing

/-! What stuffing makes of octets and what unstuffing makes of it again. Stuffing leaves no flag,
and behind every escape what it announces; the strings of this form are those that stuffing makes,
and of all strings they alone are stuffed again to what they were before unstuffing. -/
namespace RoadsideSnmp.Pmpp

theorem unstuff_cons {octet : UInt8} (plain : octet ≠ escape) (rest : Octets) :
    unstuff (octet :: rest) = octet :: unstuff rest := by
  cases rest with
  | nil => rfl
  | cons next rest => simp [unstuff, plain]

theorem unstuff_stuffOctet (octet : UInt8) (rest : Octets) :
    unstuff (stuffOctet octet ++ rest) = octet :: unstuff rest := by
  unfold stuffOctet
  split
  · next hidden => simp [unstuff, hidden]
  split
  · next _ hidden => simp [unstuff, hidden, hiddenEscape, hiddenFlag]
  · next _ plain => exact unstuff_cons plain rest

theorem unstuff_stuff (octets : Octets) : unstuff (stuff octets) = octets := by
  induction octets with
  | nil => rfl
  | cons octet octets ih => rw [stuff_cons, unstuff_stuffOctet, ih]

theorem length_stuffOctet (octet : UInt8) :
    (stuffOctet octet).length = 1 + [octet].countP isReserved := by
  unfold stuffOctet
  split
  · next hidden =>
      subst hidden
      rfl
  split
  · next _ hidden =>
      subst hidden
      rfl
  · next plain bare => simp [isReserved, plain, bare]

theorem length_stuff (octets : Octets) :
    (stuff octets).length = octets.length + stuffedExtra octets := by
  induction octets with
  | nil => rfl
  | cons octet octets ih =>
      have split : stuffedExtra ([octet] ++ octets) =
          [octet].countP isReserved + stuffedExtra octets := List.countP_append
      rw [List.singleton_append] at split
      rw [stuff_cons, List.length_append, length_stuffOctet, ih, split, List.length_cons]
      omega

theorem stuffedExtra_eq_count (octets : Octets) :
    stuffedExtra octets = octets.count flag + octets.count escape := by
  unfold stuffedExtra
  induction octets with
  | nil => rfl
  | cons octet octets ih =>
      have apart : flag ≠ escape := by decide
      rw [List.countP_cons, List.count_cons, List.count_cons, ih]
      by_cases hidden : octet = flag
      · subst hidden
        simp [isReserved, apart]
        omega
      · by_cases announced : octet = escape
        · subst announced
          simp [isReserved, apart.symm]
          omega
        · simp [isReserved, hidden, announced]

theorem length_le_length_stuff (octets : Octets) : octets.length ≤ (stuff octets).length := by
  rw [length_stuff]
  exact Nat.le_add_right _ _

/-- Without a flag, and with what an escape announces behind every escape. -/
structure IsStuffed (octets : Octets) : Prop where
  bare : flag ∉ octets
  announced : ∀ front back, octets = front ++ escape :: back →
    back.head? = some hiddenFlag ∨ back.head? = some hiddenEscape

namespace IsStuffed

theorem nil : IsStuffed [] where
  bare := List.not_mem_nil
  announced front back whole := by simp at whole

theorem cons_iff (octet : UInt8) (octets : Octets) : IsStuffed (octet :: octets) ↔
    octet ≠ flag ∧
      (octet = escape → octets.head? = some hiddenFlag ∨ octets.head? = some hiddenEscape) ∧
      IsStuffed octets := by
  constructor
  · rintro ⟨bare, announced⟩
    rw [List.mem_cons, not_or] at bare
    refine ⟨Ne.symm bare.1, fun first => announced [] octets (by rw [first]; rfl), bare.2,
      fun front back whole => announced (octet :: front) back ?_⟩
    rw [whole, List.cons_append]
  · rintro ⟨plain, announces, bare, announced⟩
    refine ⟨fun inside => ?_, fun front back whole => ?_⟩
    · obtain first | rest := List.mem_cons.mp inside
      · exact plain first.symm
      · exact bare rest
    · obtain ⟨rfl, same⟩ | ⟨front, rfl, rest⟩ := List.cons_eq_append_iff.mp whole
      · obtain ⟨rfl, rfl⟩ := List.cons.inj same
        exact announces rfl
      · exact announced front back rest

theorem stuffOctet_append (octet : UInt8) {octets : Octets} (behind : IsStuffed octets) :
    IsStuffed (stuffOctet octet ++ octets) := by
  -- what is announced is no flag and announces nothing itself
  have pair {announced : UInt8} (one : announced = hiddenFlag ∨ announced = hiddenEscape) :
      IsStuffed (escape :: announced :: octets) := by
    obtain rfl | rfl := one
    · exact (cons_iff _ _).mpr ⟨by decide, fun _ => .inl rfl,
        (cons_iff _ _).mpr ⟨by decide, fun same => absurd same (by decide), behind⟩⟩
    · exact (cons_iff _ _).mpr ⟨by decide, fun _ => .inr rfl,
        (cons_iff _ _).mpr ⟨by decide, fun same => absurd same (by decide), behind⟩⟩
  unfold stuffOctet
  split
  · exact pair (.inl rfl)
  split
  · exact pair (.inr rfl)
  · next plain bare => exact (cons_iff _ _).mpr ⟨plain, fun same => absurd same bare, behind⟩

theorem stuff (octets : Octets) : IsStuffed (stuff octets) := by
  induction octets with
  | nil => exact nil
  | cons octet octets ih =>
      rw [stuff_cons]
      exact ih.stuffOctet_append octet

end IsStuffed

theorem flag_notMem_stuff (octets : Octets) : flag ∉ stuff octets := (IsStuffed.stuff octets).bare

theorem stuff_unstuff {octets : Octets} (stuffed : IsStuffed octets) :
    stuff (unstuff octets) = octets := by
  -- by the pairs that unstuffing takes; in front of anything else stands no escape
  induction octets using unstuff.induct with
  | case1 => rfl
  | case2 last =>
      obtain ⟨plain, announces, -⟩ := (IsStuffed.cons_iff _ _).mp stuffed
      have bare : last ≠ escape := fun same => by simpa using announces same
      rw [unstuff, stuff_cons, stuffOctet_of_plain plain bare]
      rfl
  | case3 first second rest pair ih =>
      obtain ⟨rfl, rfl⟩ := pair
      have behind := ((IsStuffed.cons_iff _ _).mp ((IsStuffed.cons_iff _ _).mp stuffed).2.2).2.2
      rw [unstuff, if_pos ⟨rfl, rfl⟩, stuff_cons, ih behind]
      rfl
  | case4 first second rest other pair ih =>
      obtain ⟨rfl, rfl⟩ := pair
      have behind := ((IsStuffed.cons_iff _ _).mp ((IsStuffed.cons_iff _ _).mp stuffed).2.2).2.2
      rw [unstuff, if_neg other, if_pos ⟨rfl, rfl⟩, stuff_cons, ih behind]
      rfl
  | case5 first second rest noFlag noEscape ih =>
      obtain ⟨plain, announces, behind⟩ := (IsStuffed.cons_iff _ _).mp stuffed
      have bare : first ≠ escape := fun same => by
        obtain next | next := announces same
        · exact noFlag ⟨same, Option.some.inj next⟩
        · exact noEscape ⟨same, Option.some.inj next⟩
      rw [unstuff_cons bare, stuff_cons, ih behind, stuffOctet_of_plain plain bare]
      rfl

theorem stuff_unstuff_iff (octets : Octets) :
    stuff (unstuff octets) = octets ↔ IsStuffed octets :=
  ⟨fun same => same ▸ IsStuffed.stuff (unstuff octets), stuff_unstuff⟩

/-- What is stuffed is unstuffed to what it was, holds no flag and is longer by one octet for each
that had to be hidden; it is the same whether octets with nothing to hide are taken as they are or
each by itself, and whether two strings are stuffed together or apart. What is unstuffed is stuffed
to what it was just when it had that form before. -/
theorem stuff_reversible (octets : Octets) :
    unstuff (stuff octets) = octets ∧ flag ∉ stuff octets ∧
      (stuff octets).length = octets.length + (octets.count flag + octets.count escape) ∧
      stuff octets = octets.flatMap stuffOctet ∧
      (∀ back, stuff (octets ++ back) = stuff octets ++ stuff back) ∧
      (stuff (unstuff octets) = octets ↔ IsStuffed octets) := by
  refine ⟨unstuff_stuff octets, flag_notMem_stuff octets, ?_, stuff_eq_flatMap octets,
    stuff_append octets, stuff_unstuff_iff octets⟩
  rw [length_stuff, stuffedExtra_eq_count]

/-- An escape in front of an escape, and one at the end, announce nothing and are kept. -/
example : unstuff [escape, escape, hiddenFlag, escape] = [escape, flag, escape] := by decide

end RoadsideSnmp.Pmpp
