import Mathlib.Tactic.Ring
import RoadsideSnmp.Oid.Content
import RoadsideSnmp.Proofs.Outcome

/-! The content of a valid identifier reads back as the identifier. A subidentifier below 2^32
never trips the overflow test, since the groups in front of its last one stay below 2^25. Whatever
content reads as comes back from being written again. -/
namespace RoadsideSnmp.Oid

theorem toNat_arcs_ofNats {arcs : List Nat} (fit : ∀ arc ∈ arcs, arc < 4294967296) :
    (ofNats arcs).arcs.map UInt32.toNat = arcs := by
  rw [ofNats, List.map_map]
  refine (List.map_congr_left fun arc inside => ?_).trans (List.map_id' arcs)
  exact UInt32.toNat_ofNat_of_lt' (fit arc inside)

theorem lt_pow_groupCount (number : Nat) : number < 128 ^ groupCount number := by
  unfold groupCount
  split
  · next zero => simp [zero]
  · have fits := Nat.lt_log2_self (n := number)
    calc
      number < 2 ^ (number.log2 + 1) := fits
      _ ≤ 2 ^ (7 * (number.log2 / 7 + 1)) := Nat.pow_le_pow_right (by decide) (by omega)
      _ = 128 ^ (number.log2 / 7 + 1) := by rw [Nat.pow_mul]

theorem readNumbers_continued {octet : UInt8} (continued : 128 ≤ octet.toNat) (rest : Octets)
    (offset number : Nat) (midway : Bool) (room : Nat) (small : number ≤ 0x1FFFFFF) :
    readNumbers (octet :: rest) offset number midway room =
      readNumbers rest (offset + 1) (number * 128 + octet.toNat % 128) true room := by
  simp [readNumbers, continued, Nat.not_lt.mpr small]

theorem readNumbers_last {octet : UInt8} (last : octet.toNat < 128) (rest : Octets)
    (offset number : Nat) (midway : Bool) (room : Nat) (small : number ≤ 0x1FFFFFF) :
    readNumbers (octet :: rest) offset number midway (room + 1) =
      (readNumbers rest (offset + 1) 0 false room).map ((number * 128 + octet.toNat) :: ·) := by
  simp [readNumbers, Nat.not_le.mpr last, Nat.not_lt.mpr small, Nat.mod_eq_of_lt last]

theorem readNumbers_midway (octet : UInt8) (rest : Octets) (offset number : Nat)
    (before after : Bool) (room : Nat) :
    readNumbers (octet :: rest) offset number before room =
      readNumbers (octet :: rest) offset number after room := by
  simp only [readNumbers]

theorem readNumbers_continuedGroups (count number : Nat) (fits : number < 128 ^ count)
    (small : number ≤ 0x1FFFFFF) (octet : UInt8) (rest : Octets) (offset : Nat) (midway : Bool)
    (room : Nat) :
    readNumbers (continuedGroups count number ++ octet :: rest) offset 0 midway room =
      readNumbers (octet :: rest) (offset + count) number midway room := by
  induction count generalizing number octet rest with
  | zero =>
      obtain rfl : number = 0 := by omega
      rfl
  | succ count ih =>
      have group : (UInt8.ofNat (128 + number % 128)).toNat = 128 + number % 128 := by
        rw [UInt8.toNat_ofNat']
        omega
      have front : number / 128 < 128 ^ count := by
        rw [Nat.pow_succ] at fits
        omega
      have whole : number / 128 * 128 + (128 + number % 128) % 128 = number := by omega
      rw [continuedGroups, List.append_assoc, List.singleton_append, ih _ front (by omega),
        readNumbers_continued (by omega) _ _ _ _ _ (by omega), group, whole,
        readNumbers_midway _ _ _ _ true midway, Nat.add_assoc]

theorem readNumbers_subidentifier {number : Nat} (fits : number < 4294967296) (rest : Octets)
    (offset : Nat) (midway : Bool) (room : Nat) :
    readNumbers (subidentifier number ++ rest) offset 0 midway (room + 1) =
      (readNumbers rest (offset + groupCount (number / 128) + 1) 0 false room).map
        (number :: ·) := by
  have last : (UInt8.ofNat (number % 128)).toNat = number % 128 := by
    rw [UInt8.toNat_ofNat']
    omega
  have whole : number / 128 * 128 + number % 128 = number := by omega
  rw [subidentifier, List.append_assoc, List.singleton_append,
    readNumbers_continuedGroups _ _ (lt_pow_groupCount _) (by omega),
    readNumbers_last (by omega) _ _ _ _ _ (by omega), last, whole]

theorem readNumbers_subidentifiers {numbers : List Nat} {room : Nat}
    (fit : ∀ number ∈ numbers, number < 4294967296) (few : numbers.length ≤ room)
    (offset : Nat) :
    readNumbers (numbers.flatMap subidentifier) offset 0 false room = .ok numbers := by
  induction numbers generalizing offset room with
  | nil => rfl
  | cons number numbers ih =>
      obtain ⟨room, rfl⟩ : ∃ less, room = less + 1 := ⟨room - 1, by simp at few; omega⟩
      have few : numbers.length ≤ room := by simpa using few
      rw [List.flatMap_cons, readNumbers_subidentifier (fit number List.mem_cons_self),
        ih (fun other inside => fit other (List.mem_cons_of_mem _ inside)) few]
      rfl

theorem arcs_of_validate {oid : Oid} (valid : oid.validate = .ok ()) :
    ∃ first second rest, oid.arcs = first :: second :: rest ∧ first.toNat ≤ 2 ∧
      (first.toNat < 2 → second.toNat < 40) ∧
      (first.toNat = 2 → second.toNat ≤ 4294967215) ∧ oid.arcs.length ≤ maxArcs := by
  obtain ⟨⟨⟩, arcs, size⟩ := bind_eq_ok_iff.mp valid
  have short : oid.arcs.length ≤ maxArcs := by
    by_contra long
    simp [validateSize, Oid.size, Nat.lt_of_not_le long] at size
  unfold validateArcs at arcs
  split at arcs
  · next first second rest shape =>
      split at arcs
      · simp at arcs
      split at arcs
      · simp at arcs
      split at arcs
      · simp at arcs
      next bounded low high =>
        simp only [UInt32.lt_iff_toNat_lt, UInt32.le_iff_toNat_le, ← UInt32.toNat_inj]
          at bounded low high
        refine ⟨first, second, rest, shape, ?_, ?_, ?_, short⟩ <;>
          simp at bounded low high ⊢ <;> omega
  · simp at arcs

theorem headNumber_of_valid {first second : UInt32} (bounded : first.toNat ≤ 2)
    (low : first.toNat < 2 → second.toNat < 40)
    (high : first.toNat = 2 → second.toNat ≤ 4294967215) :
    headNumber first second = first.toNat * 40 + second.toNat ∧
      headNumber first second < 4294967296 ∧
      splitHead (headNumber first second) = [first.toNat, second.toNat] := by
  have exact_ : headNumber first second = first.toNat * 40 + second.toNat := by
    unfold headNumber clamp
    omega
  rw [exact_, splitHead]
  refine ⟨rfl, by omega, ?_⟩
  obtain zero | one | two : first.toNat = 0 ∨ first.toNat = 1 ∨ first.toNat = 2 := by omega
  · have := low (by omega)
    rw [zero, if_pos (by omega)]
    simp
  · have := low (by omega)
    rw [one, if_neg (by omega), if_pos (by omega)]
    simp
  · rw [two, if_neg (by omega), if_neg (by omega)]
    simp

theorem toContent_cons (first second : UInt32) (rest : List UInt32) :
    toContent ⟨first :: second :: rest⟩ =
      (headNumber first second :: rest.map UInt32.toNat).flatMap subidentifier := by
  simp [toContent, List.flatMap_map]

theorem ofContent_toContent {oid : Oid} (valid : oid.validate = .ok ()) :
    ofContent oid.toContent = .ok oid := by
  obtain ⟨first, second, rest, shape, bounded, low, high, short⟩ := arcs_of_validate valid
  obtain ⟨-, fits, split⟩ := headNumber_of_valid bounded low high
  have shape : oid = ⟨first :: second :: rest⟩ := by rw [← shape]
  subst shape
  have fit : ∀ number ∈ headNumber first second :: rest.map UInt32.toNat,
      number < 4294967296 := by
    intro number inside
    rcases List.mem_cons.mp inside with rfl | inside
    · exact fits
    · obtain ⟨arc, -, rfl⟩ := List.mem_map.mp inside
      exact arc.toNat_lt
  have few : (headNumber first second :: rest.map UInt32.toNat).length ≤ maxArcs - 1 := by
    simp [maxArcs] at short ⊢
    omega
  rw [toContent_cons, ofContent, readNumbers_subidentifiers fit few]
  simp [Except.map, split, ofNats, Function.comp_def]

/-- What content can stand for: the root, which has none, or an identifier that can be encoded. -/
def IsFaithful (oid : Oid) : Prop := oid = root ∨ oid.validate = .ok ()

theorem ofContent_toContent_of_isFaithful {oid : Oid} (faithful : oid.IsFaithful) :
    ofContent oid.toContent = .ok oid := by
  obtain rfl | valid := faithful
  · rfl
  · exact ofContent_toContent valid

theorem numbers_of_readNumbers {octets : Octets} {offset number room : Nat} {midway : Bool}
    {numbers : List Nat} (read : readNumbers octets offset number midway room = .ok numbers) :
    (∀ number ∈ numbers, number < 4294967296) ∧ numbers.length ≤ room := by
  -- the groups in front of the last one of a number are below 2 ^ 25
  induction octets generalizing offset number room midway numbers with
  | nil =>
      unfold readNumbers at read
      split at read
      · simp at read
      · obtain rfl := Except.ok.inj read
        exact ⟨by simp, Nat.zero_le room⟩
  | cons octet rest ih =>
      unfold readNumbers at read
      split at read
      · simp at read
      next small =>
        dsimp only at read
        split at read
        · exact ih read
        cases room with
        | zero => simp at read
        | succ room =>
            obtain ⟨others, later, rfl⟩ := map_eq_ok_iff.mp read
            obtain ⟨fit, few⟩ := ih later
            refine ⟨List.forall_mem_cons.mpr ⟨by omega, fit⟩, ?_⟩
            rw [List.length_cons]
            omega

theorem validateArcs_cons {first second : UInt32} (rest : List UInt32) (bounded : first.toNat ≤ 2)
    (low : first.toNat < 2 → second.toNat < 40)
    (high : first.toNat = 2 → second.toNat ≤ 4294967215) :
    validateArcs ⟨first :: second :: rest⟩ = .ok () := by
  have far : ¬ 2 < first := by
    rw [UInt32.lt_iff_toNat_lt]
    exact Nat.not_lt.mpr bounded
  have wide : ¬ (first < 2 ∧ 40 ≤ second) := by
    simp only [UInt32.lt_iff_toNat_lt, UInt32.le_iff_toNat_le, UInt32.reduceToNat]
    omega
  have above : ¬ (first = 2 ∧ 4294967215 < second) := by
    simp only [UInt32.lt_iff_toNat_lt, ← UInt32.toNat_inj, UInt32.reduceToNat]
    omega
  simp only [validateArcs, if_neg far, if_neg wide, if_neg above]

theorem splitHead_eq {head : Nat} (fits : head < 4294967296) : ∃ first second,
    splitHead head = [first, second] ∧ first ≤ 2 ∧ second < 4294967296 ∧
      (first < 2 → second < 40) ∧ (first = 2 → second ≤ 4294967215) := by
  unfold splitHead
  split
  · exact ⟨0, head, rfl, by omega⟩
  split
  · exact ⟨1, head - 40, rfl, by omega⟩
  · exact ⟨2, head - 80, rfl, by omega⟩

theorem validate_splitHead {head : Nat} (fits : head < 4294967296) {rest : List Nat}
    (few : rest.length + 2 ≤ maxArcs) : (ofNats (splitHead head ++ rest)).validate = .ok () := by
  obtain ⟨first, second, split, bounded, whole, low, high⟩ := splitHead_eq fits
  have firstArc : (UInt32.ofNat first).toNat = first := by
    rw [UInt32.toNat_ofNat']
    omega
  have secondArc : (UInt32.ofNat second).toNat = second := by
    rw [UInt32.toNat_ofNat']
    omega
  have short : ¬ maxArcs < (ofNats ([first, second] ++ rest)).size := by
    simp only [Oid.size, ofNats, List.length_map, List.length_append, List.length_cons,
      List.length_nil]
    omega
  have arcs : (ofNats ([first, second] ++ rest)).validateArcs = .ok () :=
    validateArcs_cons _ (by rwa [firstArc]) (by rwa [firstArc, secondArc])
      (by rwa [firstArc, secondArc])
  rw [split, validate, arcs]
  exact if_neg short

theorem isFaithful_of_ofContent {octets : Octets} {oid : Oid}
    (read : ofContent octets = .ok oid) : oid.IsFaithful := by
  obtain ⟨numbers, found, rfl⟩ := map_eq_ok_iff.mp read
  obtain ⟨fit, few⟩ := numbers_of_readNumbers found
  match numbers with
  | [] => exact .inl rfl
  | head :: rest =>
      refine .inr (validate_splitHead (fit head List.mem_cons_self) ?_)
      rw [List.length_cons] at few
      have room : maxArcs = 128 := rfl
      omega

theorem size_le_of_isFaithful {oid : Oid} (faithful : oid.IsFaithful) : oid.size ≤ maxArcs := by
  obtain rfl | valid := faithful
  · exact Nat.zero_le maxArcs
  · obtain ⟨-, -, -, -, -, -, -, short⟩ := arcs_of_validate valid
    exact short

theorem length_continuedGroups (count number : Nat) :
    (continuedGroups count number).length = count := by
  induction count generalizing number with
  | zero => rfl
  | succ count ih => simp [continuedGroups, ih]

theorem length_subidentifier_le {number : Nat} (fits : number < 4294967296) :
    (subidentifier number).length ≤ 5 := by
  have groups : groupCount (number / 128) ≤ 4 := by
    unfold groupCount
    split
    · omega
    · next more =>
        have bits : (number / 128).log2 < 25 := (Nat.log2_lt more).mpr (by omega)
        omega
  rw [subidentifier, List.length_append, length_continuedGroups]
  exact Nat.succ_le_succ groups

theorem headNumber_lt (first second : UInt32) : headNumber first second < 4294967296 :=
  Nat.lt_succ_of_le (Nat.min_le_right _ _)

theorem length_toContent_le (oid : Oid) : oid.toContent.length ≤ 5 * oid.size := by
  have head (first second : UInt32) := length_subidentifier_le (headNumber_lt first second)
  unfold toContent size
  split
  · next arcs => simp [arcs]
  · next only arcs => simpa [arcs] using head only 0
  · next first second rest arcs =>
      have others : (rest.flatMap fun arc => subidentifier arc.toNat).length ≤ 5 * rest.length := by
        clear arcs
        induction rest with
        | nil => simp
        | cons arc rest ih =>
            have one := length_subidentifier_le arc.toNat_lt
            simp only [List.flatMap_cons, List.length_append, List.length_cons]
            omega
      have front := head first second
      simp only [arcs, List.length_append, List.length_cons]
      omega

end RoadsideSnmp.Oid
