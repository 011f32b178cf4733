import Mathlib.Data.List.Basic
import RoadsideSnmp.Proofs.Pmpp.Register
import RoadsideSnmp.Proofs.Pmpp.Spans

/-! Damage that a checksum finds. The octets of a frame may change on their way, those of the checksum
among them; if an odd number of bits did, or a few that are close together, the check is a mismatch. -/
namespace RoadsideSnmp.Pmpp

def sealed (content : Octets) : Octets := content ++ checksumOctets (checksum content)

/-- Bit by bit, whether what was received differs from what was sent. -/
def damage (sent received : Octets) : List Bool := List.zipWith xor (bits sent) (bits received)

/-- Something is damaged, and nothing outside sixteen bits in a row. -/
def IsBurst (damage : List Bool) : Prop :=
  true ∈ damage ∧ ∃ start, ∀ position, damage[position]? = some true →
    start ≤ position ∧ position < start + 16

theorem feedBits_damage {content other : Octets}
    (same : (sealed other).length = (sealed content).length) :
    feedBits 0 (damage (sealed content) (sealed other)) = 0 := by
  have width : (bits (sealed content)).length = (bits (sealed other)).length := by
    rw [length_bits, length_bits, same]
  calc
    feedBits 0 (damage (sealed content) (sealed other))
      = feedBits (0xFFFF ^^^ 0xFFFF) (damage (sealed content) (sealed other)) := rfl
    _ = feedBits 0xFFFF (bits (sealed content)) ^^^ feedBits 0xFFFF (bits (sealed other)) :=
        feedBits_xor width
    _ = shiftRegister^[16] 0xFFFF ^^^ shiftRegister^[16] 0xFFFF := by
        rw [sealed, sealed, feedBits_checksum, feedBits_checksum]
    _ = 0 := UInt16.xor_self

theorem IsBurst.split {damage : List Bool} (burst : IsBurst damage) :
    ∃ before inside after, damage = before ++ true :: inside ++ after ∧ true ∉ before ∧
      inside.length ≤ 15 ∧ true ∉ after := by
  obtain ⟨inside, start, close⟩ := burst
  obtain ⟨before, rest, rfl, quiet⟩ := List.eq_append_cons_of_mem inside
  have first := (close before.length (by simp)).1
  refine ⟨before, rest.take 15, rest.drop 15, by simp, quiet, List.length_take_le 15 rest,
    fun late => ?_⟩
  obtain ⟨place, found⟩ := List.mem_iff_getElem?.mp late
  rw [List.getElem?_drop] at found
  have far : (before ++ true :: rest)[before.length + (15 + place + 1)]? = some true := by
    rw [List.getElem?_append_right (Nat.le_add_right _ _), Nat.add_sub_cancel_left,
      List.getElem?_cons_succ, found]
  have near := (close _ far).2
  omega

theorem length_ne_of_harmed {content other : Octets}
    (harmed : (damage (sealed content) (sealed other)).count true % 2 = 1 ∨
      IsBurst (damage (sealed content) (sealed other))) :
    (sealed other).length ≠ (sealed content).length := by
  intro same
  have empty := feedBits_damage same
  obtain odd | burst := harmed
  · have even := count_even_of_feedBits_eq_zero empty
    omega
  · obtain ⟨before, inside, after, whole, quiet, short, still⟩ := burst.split
    rw [whole] at empty
    exact feedBits_burst_ne_zero quiet short still empty

theorem sealed_of_checksum {content : Octets} {low high : UInt8}
    (fits : ofChecksumOctets low high = checksum content) :
    content ++ [low, high] = sealed content := by
  rw [sealed, ← fits, checksumOctets_ofChecksumOctets]

theorem check_of_unframe {body : Octets} {keepHeader : Bool} {unframed : Unframed}
    (opened : unframe (flagged (stuff body)) keepHeader = .ok unframed) :
    ∃ content low high, body = content ++ [low, high] ∧
      unframed.check = checkOf content [low, high] := by
  have inside : between? (flagged (stuff body)) = some (0, stuff body) :=
    between?_noise List.not_mem_nil List.not_mem_nil (stuff body)
  simp only [unframe, inside, unstuff_stuff] at opened
  split at opened
  · simp at opened
  · next enough =>
      have two : (body.drop (body.length - 2)).length = 2 := by
        rw [List.length_drop]
        simp only [minBody] at enough
        omega
      obtain ⟨low, high, sum⟩ := List.length_eq_two.mp two
      refine ⟨body.take (body.length - 2), low, high, ?_, ?_⟩
      · rw [← sum, List.take_append_drop]
      · split at opened
        · simp at opened
        · rw [← Except.ok.inj opened, sum]

/-- The content and its checksum go over the line, and as many octets come out of it. If the damage
is an odd number of bits, or is confined to sixteen in a row, and the frame opens at all, then its
check is a mismatch. -/
theorem damage_found (content received : Octets) (keepHeader : Bool)
    (same : received.length = (sealed content).length)
    (harmed : (damage (sealed content) received).count true % 2 = 1 ∨
      IsBurst (damage (sealed content) received)) :
    ∀ unframed, unframe (flagged (stuff received)) keepHeader = .ok unframed →
      ∃ sum computed, sum ≠ computed ∧ unframed.check = .mismatch sum computed := by
  intro unframed opened
  obtain ⟨other, low, high, rfl, check⟩ := check_of_unframe opened
  have differs : ofChecksumOctets low high ≠ checksum other := by
    -- otherwise both are octets with their checksum, and their difference leaves the register empty
    intro fits
    rw [sealed_of_checksum fits] at same harmed
    exact length_ne_of_harmed harmed same
  exact ⟨_, _, differs, check.trans (if_neg differs)⟩

theorem damage_found_neighbours :
    IsBurst (damage (sealed [0x05, 0x03, 0xC1, 0x30, 0x00])
      [0x05, 0x03, 0xC1, 0xB0, 0x01, 0x0A, 0x2A]) ∧
    unframe (flagged (stuff [0x05, 0x03, 0xC1, 0xB0, 0x01, 0x0A, 0x2A])) false =
      .ok ⟨some .standard, [0xB0, 0x01], .mismatch 10762 46927⟩ ∧
    ∃ sum computed, sum ≠ computed ∧
      FrameCheck.mismatch 10762 46927 = .mismatch sum computed := by
  have burst : IsBurst (damage (sealed [0x05, 0x03, 0xC1, 0x30, 0x00])
      [0x05, 0x03, 0xC1, 0xB0, 0x01, 0x0A, 0x2A]) := by
    refine ⟨by decide +kernel, 31, fun position found => ?_⟩
    have inside : position < 56 := (List.getElem?_eq_some_iff.mp found).1
    revert found
    revert position
    decide +kernel
  have opened : unframe (flagged (stuff [0x05, 0x03, 0xC1, 0xB0, 0x01, 0x0A, 0x2A])) false =
      .ok ⟨some .standard, [0xB0, 0x01], .mismatch 10762 46927⟩ := by
    decide +kernel
  exact ⟨burst, opened, damage_found [0x05, 0x03, 0xC1, 0x30, 0x00]
    [0x05, 0x03, 0xC1, 0xB0, 0x01, 0x0A, 0x2A] false (by decide +kernel) (.inr burst) _ opened⟩

end RoadsideSnmp.Pmpp
