import Mathlib.Data.List.Basic
import Mathlib.Data.List.Induction
import Mathlib.Data.List.TakeWhile
import Mathlib.Data.Nat.Digits.Defs
import Mathlib.Data.Set.Function
import RoadsideSnmp.Proofs.Oid.Content

/-! Content cut into its subidentifiers. Each one goes up to an octet whose top bit is clear and
stands for one number, seven bits an octet; octets 0x80 in front of it add nothing. Content is read
with this padding and written without, so each valid identifier has one shortest content, which
no other identifier has. -/
namespace RoadsideSnmp.Oid

/-- Octets up to each one whose top bit is clear. -/
def subidentifiers : Octets → List Octets
  | [] => []
  | octet :: rest =>
      if octet.toNat < 128 then [octet] :: subidentifiers rest
      else match subidentifiers rest with
        | [] => [[octet]]
        | first :: others => (octet :: first) :: others

def denoted (piece : Octets) : Nat :=
  Nat.ofDigits 128 (piece.reverse.map fun octet => octet.toNat % 128)

/-- What the content of an identifier stands for; the first two arcs share a number. -/
def numbers (oid : Oid) : List Nat :=
  match oid.arcs with
  | first :: second :: rest => (40 * first.toNat + second.toNat) :: rest.map UInt32.toNat
  | _ => []

def isPadding (octet : UInt8) : Bool := octet == 0x80

def unpadded (piece : Octets) : Octets := piece.dropWhile isPadding

def IsWhole (piece : Octets) : Prop :=
  ∃ front last, piece = front ++ [last] ∧ (∀ octet ∈ front, 128 ≤ octet.toNat) ∧
    last.toNat < 128

theorem subidentifiers_last {octet : UInt8} (clear : octet.toNat < 128) (rest : Octets) :
    subidentifiers (octet :: rest) = [octet] :: subidentifiers rest := by
  rw [subidentifiers, if_pos clear]

theorem subidentifiers_continued {octet : UInt8} (set : 128 ≤ octet.toNat) {rest : Octets}
    (some : rest ≠ []) : ∃ first others, subidentifiers rest = first :: others ∧
      subidentifiers (octet :: rest) = (octet :: first) :: others := by
  have here := subidentifiers.eq_2 octet rest
  rw [if_neg (Nat.not_lt.mpr set)] at here
  cases pieces : subidentifiers rest with
  | cons first others => exact ⟨first, others, rfl, by rw [here, pieces]⟩
  | nil =>
      -- something is left, and every octet is in some piece
      obtain ⟨next, rest, rfl⟩ := List.exists_cons_of_ne_nil some
      rw [subidentifiers] at pieces
      split at pieces
      · simp at pieces
      · split at pieces <;> simp at pieces

theorem flatten_subidentifiers (octets : Octets) : (subidentifiers octets).flatten = octets := by
  induction octets with
  | nil => rfl
  | cons octet rest ih =>
      by_cases clear : octet.toNat < 128
      · rw [subidentifiers_last clear, List.flatten_cons, ih, List.singleton_append]
      by_cases none : rest = []
      · subst none
        rw [subidentifiers, if_neg clear]
        rfl
      obtain ⟨first, others, pieces, whole⟩ :=
        subidentifiers_continued (Nat.not_lt.mp clear) none
      rw [whole, List.flatten_cons, List.cons_append, ← List.flatten_cons, ← pieces, ih]

theorem denoted_concat (front : Octets) (last : UInt8) :
    denoted (front ++ [last]) = denoted front * 128 + last.toNat % 128 := by
  simp [denoted, Nat.ofDigits_cons, Nat.add_comm, Nat.mul_comm]

theorem denoted_cons (first : UInt8) (rest : Octets) :
    denoted (first :: rest) = first.toNat % 128 * 128 ^ rest.length + denoted rest := by
  simp [denoted, Nat.ofDigits_append, Nat.add_comm, Nat.mul_comm]

/-- The numbers of pieces of which the first one goes on from what was read of it. -/
def denotedFrom (number : Nat) : List Octets → List Nat
  | [] => []
  | first :: others => (number * 128 ^ first.length + denoted first) :: others.map denoted

theorem denotedFrom_zero (pieces : List Octets) : denotedFrom 0 pieces = pieces.map denoted := by
  cases pieces <;> simp [denotedFrom]

theorem subidentifiers_of_readNumbers {octets : Octets} {offset number room : Nat}
    {midway : Bool} {found : List Nat}
    (read : readNumbers octets offset number midway room = .ok found) :
    found = denotedFrom number (subidentifiers octets) ∧ (midway = true → octets ≠ []) ∧
      ∀ piece ∈ subidentifiers octets, IsWhole piece := by
  -- on the octets; `number` has been read of the first piece already
  induction octets generalizing offset number room midway found with
  | nil =>
      unfold readNumbers at read
      split at read
      · simp at read
      · next still =>
          obtain rfl := Except.ok.inj read
          exact ⟨rfl, fun going => absurd going still, by simp [subidentifiers]⟩
  | cons octet rest ih =>
      unfold readNumbers at read
      split at read
      · simp at read
      dsimp only at read
      split at read
      · next set =>
          obtain ⟨rfl, some, whole⟩ := ih read
          obtain ⟨first, others, pieces, cut⟩ := subidentifiers_continued set (some rfl)
          rw [pieces] at whole ⊢
          rw [cut]
          obtain ⟨⟨front, last, rfl, continued, clear⟩, later⟩ := List.forall_mem_cons.mp whole
          refine ⟨?_, fun _ => List.cons_ne_nil _ _, List.forall_mem_cons.mpr ⟨?_, later⟩⟩
          · rw [denotedFrom, denotedFrom, denoted_cons, List.length_cons, Nat.pow_succ']
            ring_nf
          · exact ⟨octet :: front, last, rfl, List.forall_mem_cons.mpr ⟨set, continued⟩, clear⟩
      · next clear =>
          cases room with
          | zero => simp at read
          | succ room =>
              obtain ⟨others, later, rfl⟩ := map_eq_ok_iff.mp read
              obtain ⟨rfl, -, whole⟩ := ih later
              have clear : octet.toNat < 128 := Nat.not_le.mp clear
              rw [subidentifiers_last clear, denotedFrom_zero]
              refine ⟨?_, fun _ => List.cons_ne_nil _ _, List.forall_mem_cons.mpr ⟨?_, whole⟩⟩
              · simp [denotedFrom, denoted]
              · exact ⟨[], octet, rfl, by simp, clear⟩

theorem groupCount_eq (number : Nat) :
    groupCount number = if number = 0 then 0 else groupCount (number / 128) + 1 := by
  split
  · next zero => rw [zero]; rfl
  next some =>
  rw [groupCount, if_neg some, groupCount]
  split
  · next zero =>
      have small : number.log2 < 7 := (Nat.log2_lt some).mpr (by omega)
      omega
  · next more =>
      have low := Nat.log2_self_le more
      have high := Nat.lt_log2_self (n := number / 128)
      have whole : number.log2 = (number / 128).log2 + 7 := by
        rw [Nat.log2_eq_iff some]
        constructor
        · rw [Nat.pow_add]
          omega
        · rw [Nat.add_right_comm, Nat.pow_add]
          omega
      omega

theorem continuedGroups_eq_nil_iff (number : Nat) :
    continuedGroups (groupCount number) number = [] ↔ number = 0 := by
  rw [← List.length_eq_zero_iff, length_continuedGroups, groupCount_eq]
  split <;> simp [*]

theorem continuedGroups_concat {number : Nat} {octet : UInt8} (set : 128 ≤ octet.toNat)
    (needed : number = 0 → octet ≠ 0x80) :
    continuedGroups (groupCount (number * 128 + octet.toNat % 128))
        (number * 128 + octet.toNat % 128) =
      continuedGroups (groupCount number) number ++ [octet] := by
  have bound := octet.toNat_lt
  have some : number * 128 + octet.toNat % 128 ≠ 0 := by
    intro zero
    refine needed (by omega) (UInt8.toNat_inj.mp ?_)
    show octet.toNat = 128
    omega
  have front : (number * 128 + octet.toNat % 128) / 128 = number := by omega
  have group : UInt8.ofNat (128 + (number * 128 + octet.toNat % 128) % 128) = octet := by
    apply UInt8.toNat_inj.mp
    rw [UInt8.toNat_ofNat']
    omega
  rw [groupCount_eq, if_neg some, continuedGroups, front, group]

theorem unpadded_concat (front : Octets) {last : UInt8}
    (needed : unpadded front = [] → last ≠ 0x80) :
    unpadded (front ++ [last]) = unpadded front ++ [last] := by
  rw [unpadded, List.dropWhile_append]
  split
  · next empty =>
      have none : unpadded front = [] := List.isEmpty_iff.mp empty
      have kept : ¬ isPadding last = true := fun padding => needed none (beq_iff_eq.mp padding)
      rw [none, List.dropWhile_cons_of_neg kept, List.nil_append]
  · rfl

theorem continuedGroups_denoted {front : Octets}
    (continued : ∀ octet ∈ front, 128 ≤ octet.toNat) :
    continuedGroups (groupCount (denoted front)) (denoted front) = unpadded front := by
  induction front using List.reverseRecOn with
  | nil => rfl
  | append_singleton front octet ih =>
      have set : 128 ≤ octet.toNat := continued octet (by simp)
      have ih := ih fun other inside => continued other (List.mem_append_left _ inside)
      have empty_iff : denoted front = 0 ↔ unpadded front = [] := by
        rw [← ih, continuedGroups_eq_nil_iff]
      rw [denoted_concat]
      by_cases padding : unpadded front = [] ∧ octet = 0x80
      · obtain ⟨none, rfl⟩ := padding
        rw [empty_iff.mpr none, unpadded, List.dropWhile_append, ← unpadded, none]
        rfl
      · have needed (none : unpadded front = []) : octet ≠ 0x80 := fun same =>
          padding ⟨none, same⟩
        rw [continuedGroups_concat set fun empty => needed (empty_iff.mp empty), ih,
          unpadded_concat front needed]

theorem unpadded_eq_self_iff (piece : Octets) :
    unpadded piece = piece ↔ piece.head? ≠ some 0x80 := by
  rw [unpadded, List.dropWhile_eq_self_iff]
  cases piece <;> simp [isPadding]

theorem length_flatMap_unpadded_le (pieces : List Octets) :
    (pieces.flatMap unpadded).length ≤ pieces.flatten.length := by
  induction pieces with
  | nil => exact Nat.le_refl 0
  | cons piece pieces ih =>
      rw [List.flatMap_cons, List.flatten_cons, List.length_append, List.length_append]
      exact Nat.add_le_add (List.dropWhile_suffix _).length_le ih

theorem flatMap_unpadded_eq_iff (pieces : List Octets) :
    pieces.flatMap unpadded = pieces.flatten ↔ ∀ piece ∈ pieces, piece.head? ≠ some 0x80 := by
  induction pieces with
  | nil => simp
  | cons piece pieces ih =>
      have front : unpadded piece <:+ piece := List.dropWhile_suffix _
      have back := length_flatMap_unpadded_le pieces
      rw [List.forall_mem_cons, ← ih, ← unpadded_eq_self_iff, List.flatMap_cons, List.flatten_cons]
      constructor
      · intro same
        -- neither part can be longer than it was, so neither is shorter
        have lengths := congrArg List.length same
        rw [List.length_append, List.length_append] at lengths
        have whole := front.eq_of_length (by have := front.length_le; omega)
        rw [whole] at same
        exact ⟨whole, List.append_cancel_left same⟩
      · rintro ⟨whole, others⟩
        rw [whole, others]

theorem subidentifier_denoted {piece : Octets} (whole : IsWhole piece) :
    subidentifier (denoted piece) = unpadded piece := by
  obtain ⟨front, last, rfl, continued, clear⟩ := whole
  have front_eq : denoted (front ++ [last]) / 128 = denoted front := by
    rw [denoted_concat]
    omega
  have last_eq : UInt8.ofNat (denoted (front ++ [last]) % 128) = last := by
    apply UInt8.toNat_inj.mp
    rw [denoted_concat, UInt8.toNat_ofNat']
    omega
  have needed : last ≠ 0x80 := by
    rintro rfl
    exact absurd clear (by decide)
  rw [subidentifier, front_eq, last_eq, continuedGroups_denoted continued,
    unpadded_concat front fun _ => needed]

theorem sum_of_splitHead {head first second : Nat} (split : splitHead head = [first, second]) :
    40 * first + second = head := by
  unfold splitHead at split
  split at split
  · simp at split
    omega
  split at split
  · simp at split
    omega
  · simp at split
    omega

theorem numbers_ofNats {head : Nat} {rest : List Nat} (fits : head < 4294967296)
    (fit : ∀ number ∈ rest, number < 4294967296) :
    (ofNats (splitHead head ++ rest)).numbers = head :: rest := by
  obtain ⟨first, second, split, bounded, whole, -, -⟩ := splitHead_eq fits
  have arcs : ∀ number ∈ first :: second :: rest, number < 4294967296 := by
    rw [List.forall_mem_cons, List.forall_mem_cons]
    exact ⟨by omega, whole, fit⟩
  have kept := toNat_arcs_ofNats arcs
  simp only [ofNats, List.map_cons, List.cons.injEq] at kept
  obtain ⟨firstArc, secondArc, others⟩ := kept
  simp only [split, ofNats, List.cons_append, List.nil_append, List.map_cons, numbers, firstArc,
    secondArc, others, sum_of_splitHead split]

theorem toContent_eq {oid : Oid} (valid : oid.validate = .ok ()) :
    oid.toContent = oid.numbers.flatMap subidentifier := by
  obtain ⟨first, second, rest, shape, bounded, low, high, -⟩ := arcs_of_validate valid
  obtain ⟨head, -, -⟩ := headNumber_of_valid bounded low high
  have shape : oid = ⟨first :: second :: rest⟩ := by rw [← shape]
  rw [shape, toContent_cons, head, numbers, Nat.mul_comm]

theorem toContent_ne_nil {oid : Oid} (valid : oid.validate = .ok ()) : oid.toContent ≠ [] := by
  intro none
  have read := ofContent_toContent valid
  rw [none] at read
  obtain rfl : root = oid := Except.ok.inj read
  exact absurd valid (by decide)

theorem of_ofContent {octets : Octets} {oid : Oid} (some : octets ≠ [])
    (read : ofContent octets = .ok oid) :
    oid.validate = .ok () ∧ (subidentifiers octets).map denoted = oid.numbers ∧
      oid.toContent = (subidentifiers octets).flatMap unpadded := by
  obtain ⟨found, readNumbers, rfl⟩ := map_eq_ok_iff.mp read
  obtain ⟨fit, few⟩ := numbers_of_readNumbers readNumbers
  obtain ⟨denotes, -, whole⟩ := subidentifiers_of_readNumbers readNumbers
  rw [denotedFrom_zero] at denotes
  match found with
  | [] =>
      have none : subidentifiers octets = [] := List.map_eq_nil_iff.mp denotes.symm
      have flat := flatten_subidentifiers octets
      rw [none, List.flatten_nil] at flat
      exact absurd flat.symm some
  | head :: rest =>
      obtain ⟨fits, fit⟩ := List.forall_mem_cons.mp fit
      have valid : (ofNats (splitHead head ++ rest)).validate = .ok () := by
        refine validate_splitHead fits ?_
        rw [List.length_cons] at few
        have room : maxArcs = 128 := rfl
        omega
      have numbers := numbers_ofNats fits fit
      refine ⟨valid, by rw [numbers, denotes], ?_⟩
      rw [toContent_eq valid, numbers, denotes, List.flatMap_map]
      exact List.flatMap_congr fun piece inside => subidentifier_denoted (whole piece inside)

/-- A valid identifier and its content stand for the same numbers and give one another. Content from
anywhere that is read at all is read as a valid identifier without loss, and what that is written as
is the content itself unless a subidentifier in it is padded, when it is shorter. -/
theorem content_canonical :
    (∀ oid : Oid, oid.validate = .ok () → ofContent oid.toContent = .ok oid ∧
      (subidentifiers oid.toContent).map denoted = oid.numbers) ∧
    (∀ octets oid, octets ≠ [] → ofContent octets = .ok oid → oid.validate = .ok () ∧
      (subidentifiers octets).map denoted = oid.numbers ∧
      oid.toContent.length ≤ octets.length ∧ ofContent oid.toContent = .ok oid ∧
      (oid.toContent = octets ↔ ∀ piece ∈ subidentifiers octets, piece.head? ≠ some 0x80)) ∧
    Set.InjOn toContent {oid | oid.validate = .ok ()} := by
  refine ⟨fun oid valid => ?_, fun octets oid some read => ?_, fun a first b second same => ?_⟩
  · have read := ofContent_toContent valid
    exact ⟨read, (of_ofContent (toContent_ne_nil valid) read).2.1⟩
  · obtain ⟨valid, denotes, again⟩ := of_ofContent some read
    have flat := flatten_subidentifiers octets
    have shorter := length_flatMap_unpadded_le (subidentifiers octets)
    have unchanged := flatMap_unpadded_eq_iff (subidentifiers octets)
    rw [flat, ← again] at shorter unchanged
    exact ⟨valid, denotes, shorter, ofContent_toContent valid, unchanged⟩
  · have read := ofContent_toContent first
    rw [same, ofContent_toContent second] at read
    exact (Except.ok.inj read).symm

def outermost : Oid := ofNats [2, 4294967215, 4294967295]

def vendor : Oid := ofNats [1, 3, 6, 1206]

def vendorPadded : Octets := [0x80, 0x2B, 0x06, 0x80, 0x80, 0x89, 0x36]

theorem content_canonical_vendorPadded :
    outermost.validate = .ok () ∧ ofContent outermost.toContent = .ok outermost ∧
      (subidentifiers outermost.toContent).map denoted = [4294967295, 4294967295] ∧
      vendorPadded ≠ [] ∧ ofContent vendorPadded = .ok vendor ∧ vendor.validate = .ok () ∧
      (subidentifiers vendorPadded).map denoted = [43, 6, 1206] ∧
      vendor.toContent.length ≤ vendorPadded.length ∧ ofContent vendor.toContent = .ok vendor ∧
      vendor.toContent ≠ vendorPadded ∧ vendor.toContent ≠ outermost.toContent := by
  obtain ⟨written, read, apart⟩ := content_canonical
  have far : outermost.validate = .ok () := by decide
  have found : ofContent vendorPadded = .ok vendor := by decide
  obtain ⟨again, large⟩ := written outermost far
  obtain ⟨valid, denotes, shorter, kept, unchanged⟩ := read vendorPadded vendor (by decide) found
  refine ⟨far, again, large, by decide, found, valid, denotes, shorter, kept, fun same => ?_,
    fun same => ?_⟩
  · exact unchanged.mp same [0x80, 0x2B] (by decide) rfl
  · exact absurd (apart valid far same) (by decide)

end RoadsideSnmp.Oid
