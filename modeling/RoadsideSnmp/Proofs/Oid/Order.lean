import Mathlib.Data.List.Perm.Subperm
import Mathlib.Data.List.Infix
import Mathlib.Tactic.Linarith
import Mathlib.Tactic.Ring
import RoadsideSnmp.Oid

/-! Identifiers in order. The order is the one of lists, so a subtree is one stretch of it, behind
its base. There is no last identifier, but there is a bound on how many can follow one another in a
subtree when the number of arcs is bounded: read as numerals they are so many numbers below one. -/
namespace RoadsideSnmp.Oid

theorem compareArcs_eq_lt_iff (a b : List UInt32) : compareArcs a b = .lt ↔ a < b := by
  induction a generalizing b with
  | nil => cases b <;> simp [compareArcs]
  | cons first rest ih =>
      cases b with
      | nil => simp [compareArcs]
      | cons other others =>
          rw [compareArcs, List.cons_lt_cons_iff, Ordering.then_eq_lt, Std.compare_eq_lt,
            Std.compare_eq_iff_eq, ih]

theorem before_iff {a b : Oid} : a.before b ↔ a.arcs < b.arcs := by
  rw [before, beq_iff_eq]
  exact compareArcs_eq_lt_iff a.arcs b.arcs

theorem before_trans {a b c : Oid} (first : a.before b) (second : b.before c) : a.before c :=
  before_iff.mpr (List.lt_trans (before_iff.mp first) (before_iff.mp second))

theorem not_before_self (oid : Oid) : ¬ oid.before oid :=
  fun before => List.lt_irrefl _ (before_iff.mp before)

theorem within_iff {oid base : Oid} : oid.within base ↔ base.arcs <+: oid.arcs :=
  List.isPrefixOf_iff_prefix

theorem append_lt_append_iff (front a b : List UInt32) : front ++ a < front ++ b ↔ a < b := by
  induction front with
  | nil => rfl
  | cons arc front ih =>
      have still : ¬ arc < arc := UInt32.lt_irrefl arc
      simp only [List.cons_append, List.cons_lt_cons_iff, still, ih, false_or, true_and]

theorem lt_append (front : List UInt32) (arc : UInt32) (rest : List UInt32) :
    front < front ++ arc :: rest := by
  have less := (append_lt_append_iff front [] (arc :: rest)).mpr (List.nil_lt_cons arc rest)
  rwa [List.append_nil] at less

theorem before_of_within {base oid : Oid} (inside : oid.within base) (proper : oid ≠ base) :
    base.before oid := by
  obtain ⟨suffix, same⟩ := within_iff.mp inside
  cases suffix with
  | nil =>
      rw [List.append_nil] at same
      exact absurd (by cases oid; cases base; exact congrArg mk same.symm) proper
  | cons arc suffix =>
      rw [before_iff, ← same]
      exact lt_append base.arcs arc suffix

theorem lt_of_prefix {base name : List UInt32} (behind : base < name) (outside : ¬ base <+: name)
    (suffix : List UInt32) : base ++ suffix < name := by
  induction base generalizing name with
  | nil => exact absurd List.nil_prefix outside
  | cons arc base ih =>
      cases name with
      | nil => exact absurd behind (List.not_lt_nil _)
      | cons other name =>
          rw [List.cons_append, List.cons_lt_cons_iff]
          obtain less | ⟨rfl, rest⟩ := List.cons_lt_cons_iff.mp behind
          · exact .inl less
          · refine .inr ⟨rfl, ih rest fun inside => outside ?_⟩
            exact (List.prefix_cons_inj arc).mpr inside

theorem before_of_outside {base oid other : Oid} (inside : oid.within base)
    (behind : base.before other) (outside : ¬ other.within base) : oid.before other := by
  obtain ⟨suffix, same⟩ := within_iff.mp inside
  rw [before_iff, ← same]
  exact lt_of_prefix (before_iff.mp behind) (fun inside => outside (within_iff.mpr inside)) suffix

/-- How many values a place of a numeral can have: one for each arc and one for none. -/
def radix : Nat := UInt32.size + 1

/-- Arcs as a numeral of so many places, the places behind the last arc empty. -/
def rank : (places : Nat) → List UInt32 → Nat
  | 0, _ | _, [] => 0
  | places + 1, arc :: rest => (arc.toNat + 1) * radix ^ places + rank places rest

theorem rank_lt (places : Nat) (arcs : List UInt32) : rank places arcs < radix ^ places := by
  induction places generalizing arcs with
  | zero => simp [rank]
  | succ places ih =>
      cases arcs with
      | nil => exact Nat.pow_pos (by decide)
      | cons arc rest =>
          have digit : arc.toNat + 1 + 1 ≤ radix := Nat.succ_le_succ arc.toNat_lt
          calc
            (arc.toNat + 1) * radix ^ places + rank places rest
                < (arc.toNat + 1) * radix ^ places + radix ^ places := by
              exact Nat.add_lt_add_left (ih rest) _
            _ = (arc.toNat + 1 + 1) * radix ^ places := by ring
            _ ≤ radix * radix ^ places := Nat.mul_le_mul_right _ digit
            _ = radix ^ (places + 1) := by rw [Nat.pow_succ']

theorem rank_lt_rank {places : Nat} {a b : List UInt32} (less : a < b)
    (short : b.length ≤ places) : rank places a < rank places b := by
  induction b generalizing a places with
  | nil => exact absurd less (List.not_lt_nil _)
  | cons other b ih =>
      obtain ⟨places, rfl⟩ : ∃ fewer, places = fewer + 1 := ⟨places - 1, by simp at short; omega⟩
      have fits : b.length ≤ places := by simpa using short
      cases a with
      | nil =>
          have place : 0 < radix ^ places := Nat.pow_pos (by decide)
          simp only [rank]
          nlinarith
      | cons arc a =>
          simp only [rank]
          obtain earlier | ⟨rfl, others⟩ := List.cons_lt_cons_iff.mp less
          · have digit : arc.toNat + 1 ≤ other.toNat := UInt32.lt_iff_toNat_lt.mp earlier
            have low := rank_lt places a
            nlinarith
          · exact Nat.add_lt_add_left (ih others fits) _

/-- No more names than this can follow one another in a subtree and be carried by messages. -/
def subtreeBound (base : Oid) : Nat := radix ^ (maxArcs - base.size)

theorem length_le_of_ascending {numbers : List Nat} {bound : Nat}
    (ascending : numbers.Pairwise (· < ·)) (below : ∀ number ∈ numbers, number < bound) :
    numbers.length ≤ bound := by
  have apart : numbers.Nodup := ascending.imp Nat.ne_of_lt
  have listed : numbers ⊆ List.range bound := fun number inside =>
    List.mem_range.mpr (below number inside)
  simpa using (List.subperm_of_subset apart listed).length_le

theorem length_le_subtreeBound {base : Oid} {names : List Oid}
    (inside : ∀ name ∈ names, name.within base) (short : ∀ name ∈ names, name.size ≤ maxArcs)
    (ascending : names.Pairwise fun a b => a.before b) : names.length ≤ base.subtreeBound := by
  have room (name : Oid) (listed : name ∈ names) :
      (name.arcs.drop base.size).length ≤ maxArcs - base.size := by
    rw [List.length_drop]
    exact Nat.sub_le_sub_right (short name listed) _
  have split (name : Oid) (listed : name ∈ names) :
      base.arcs ++ name.arcs.drop base.size = name.arcs :=
    (List.prefix_append_drop (within_iff.mp (inside name listed))).symm
  let rankOf (name : Oid) := rank (maxArcs - base.size) (name.arcs.drop base.size)
  have ranks : (names.map rankOf).Pairwise (· < ·) := by
    rw [List.pairwise_map]
    refine ascending.imp_of_mem fun {a b} first second before => ?_
    rw [before_iff, ← split a first, ← split b second, append_lt_append_iff] at before
    exact rank_lt_rank before (room b second)
  have below : ∀ number ∈ names.map rankOf, number < base.subtreeBound :=
    List.forall_mem_map.mpr fun _ _ => rank_lt _ _
  have few := length_le_of_ascending ranks below
  rwa [List.length_map] at few

end RoadsideSnmp.Oid
