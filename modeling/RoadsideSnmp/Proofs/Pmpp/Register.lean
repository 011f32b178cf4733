import Mathlib.Algebra.Group.Nat.Defs
import Mathlib.Logic.Function.Iterate
import RoadsideSnmp.Pmpp.Checksum

/-! The checksum's register, bit by bit. A shift is linear in exclusive or, so two strings that leave
the same register behind differ by one that leaves an empty register empty. Such a string has an even
number of bits set, since the polynomial has; and its bits do not fit into sixteen places, since a bit
that enters at the top needs sixteen shifts to leave. -/
namespace RoadsideSnmp.Pmpp

def octetBits (octet : UInt8) : List Bool := (List.range 8).map octet.toNat.testBit

/-- In the order in which they go over a line, low bit of each octet first. -/
def bits (octets : Octets) : List Bool := octets.flatMap octetBits

def bitWord (bit : Bool) : UInt16 := if bit then 1 else 0

def feedBit (register : UInt16) (bit : Bool) : UInt16 := shiftRegister (register ^^^ bitWord bit)

def feedBits (register : UInt16) (bits : List Bool) : UInt16 := bits.foldl feedBit register

section

variable {register other : UInt16} {bit : Bool} {early late : List Bool}

@[simp] theorem feedBits_nil : feedBits register [] = register := rfl

@[simp] theorem feedBits_cons :
    feedBits register (bit :: late) = feedBits (feedBit register bit) late := rfl

theorem feedBits_append :
    feedBits register (early ++ late) = feedBits (feedBits register early) late :=
  List.foldl_append

def feedback (bit : Bool) : UInt16 := if bit then 0x8408 else 0

theorem shiftRegister_eq (register : UInt16) :
    shiftRegister register = (register >>> 1) ^^^ feedback (register.toNat.testBit 0) := by
  have low : (register &&& 1 = 1) ↔ register.toNat.testBit 0 = true := by
    rw [← UInt16.toNat_inj, UInt16.toNat_and, Nat.testBit_zero, decide_eq_true_iff]
    exact (congrArg (· = 1) (Nat.and_one_is_mod _)).to_iff
  unfold shiftRegister feedback
  split
  · next set => rw [if_pos (low.mp set)]
  · next clear => rw [if_neg fun set => clear (low.mpr set), UInt16.xor_zero]

theorem feedback_xor (first second : Bool) :
    feedback (first ^^ second) = feedback first ^^^ feedback second := by
  cases first <;> cases second <;> rfl

theorem bitWord_xor (first second : Bool) :
    bitWord (first ^^ second) = bitWord first ^^^ bitWord second := by
  cases first <;> cases second <;> rfl

theorem shiftRegister_xor (register other : UInt16) :
    shiftRegister (register ^^^ other) = shiftRegister register ^^^ shiftRegister other := by
  simp only [shiftRegister_eq, UInt16.toNat_xor, Nat.testBit_xor, feedback_xor,
    UInt16.shiftRight_xor]
  ac_rfl

theorem feedBit_xor (first second : Bool) :
    feedBit (register ^^^ other) (first ^^ second) =
      feedBit register first ^^^ feedBit other second := by
  simp only [feedBit, bitWord_xor, ← shiftRegister_xor]
  congr 1
  ac_rfl

theorem feedBits_xor (same : early.length = late.length) :
    feedBits (register ^^^ other) (List.zipWith xor early late) =
      feedBits register early ^^^ feedBits other late := by
  induction early generalizing register other late with
  | nil =>
      obtain rfl := List.length_eq_zero_iff.mp same.symm
      rfl
  | cons first early ih =>
      match late with
      | second :: late =>
          rw [List.zipWith_cons_cons, feedBits_cons, feedBit_xor, ih (Nat.succ.inj same)]
          rfl

end

theorem shiftRegister_ofNat {number : Nat} (fits : number < 65536) (register : UInt16) :
    shiftRegister (register ^^^ UInt16.ofNat number) =
      feedBit register (number.testBit 0) ^^^ UInt16.ofNat (number / 2) := by
  have whole : (UInt16.ofNat number).toNat = number := by
    rw [UInt16.toNat_ofNat']
    exact Nat.mod_eq_of_lt fits
  have half : UInt16.ofNat number >>> 1 = UInt16.ofNat (number / 2) := by
    rw [← UInt16.toNat_inj, UInt16.toNat_shiftRight, whole, UInt16.toNat_ofNat',
      Nat.mod_eq_of_lt (show number / 2 < 65536 by omega)]
    exact Nat.shiftRight_eq_div_pow number 1
  have entered (bit : Bool) : shiftRegister (bitWord bit) = feedback bit := by
    cases bit <;> rfl
  rw [feedBit, shiftRegister_xor, shiftRegister_xor, entered, shiftRegister_eq (UInt16.ofNat number),
    whole, half]
  ac_rfl

theorem shifts_ofNat (count : Nat) {number : Nat} (fits : number < 65536) (register : UInt16) :
    shiftRegister^[count] (register ^^^ UInt16.ofNat number) =
      feedBits register ((List.range count).map number.testBit) ^^^
        UInt16.ofNat (number / 2 ^ count) := by
  induction count generalizing register number with
  | zero => simp
  | succ count ih =>
      have rest : (List.range count).map (number.testBit ∘ Nat.succ) =
          (List.range count).map (number / 2).testBit := by
        simp [Function.comp_def, Nat.testBit_succ]
      rw [Function.iterate_succ_apply, shiftRegister_ofNat fits, ih (by omega),
        List.range_succ_eq_map, List.map_cons, List.map_map, feedBits_cons, rest,
        Nat.div_div_eq_div_mul, Nat.pow_succ']

theorem feedOctet_eq (register : UInt16) (octet : UInt8) :
    feedOctet register octet = feedBits register (octetBits octet) := by
  have bound := octet.toNat_lt
  have shifts := shifts_ofNat 8 (show octet.toNat < 65536 by omega) register
  have word : UInt16.ofNat octet.toNat = octet.toUInt16 := by
    rw [← UInt16.toNat_inj, UInt8.toNat_toUInt16, UInt16.toNat_ofNat']
    exact Nat.mod_eq_of_lt (by omega)
  rw [Nat.div_eq_of_lt bound, word] at shifts
  exact shifts.trans UInt16.xor_zero

theorem bits_cons (octet : UInt8) (octets : Octets) :
    bits (octet :: octets) = octetBits octet ++ bits octets := List.flatMap_cons

theorem feedOctets_eq (octets : Octets) (register : UInt16) :
    octets.foldl feedOctet register = feedBits register (bits octets) := by
  induction octets generalizing register with
  | nil => rfl
  | cons octet octets ih =>
      rw [List.foldl_cons, ih, feedOctet_eq, bits_cons, feedBits_append]

theorem checksum_eq (octets : Octets) :
    checksum octets = feedBits 0xFFFF (bits octets) ^^^ 0xFFFF :=
  congrArg (· ^^^ 0xFFFF) (feedOctets_eq octets 0xFFFF)

theorem bits_append (front back : Octets) : bits (front ++ back) = bits front ++ bits back :=
  List.flatMap_append

theorem length_bits (octets : Octets) : (bits octets).length = 8 * octets.length := by
  induction octets with
  | nil => rfl
  | cons octet octets ih =>
      rw [bits_cons, List.length_append, ih, octetBits, List.length_map, List.length_range,
        List.length_cons]
      omega

theorem bits_checksumOctets (sum : UInt16) :
    bits (checksumOctets sum) = (List.range 16).map sum.toNat.testBit := by
  have low : octetBits (UInt8.ofNat sum.toNat) = (List.range 8).map sum.toNat.testBit := by
    refine List.map_congr_left fun place inside => ?_
    rw [UInt8.toNat_ofNat', Nat.testBit_mod_two_pow, decide_eq_true (List.mem_range.mp inside),
      Bool.true_and]
  have high : octetBits (UInt8.ofNat (sum.toNat / 256)) =
      (List.range 8).map (sum.toNat.testBit ∘ (8 + ·)) := by
    refine List.map_congr_left fun place inside => ?_
    rw [UInt8.toNat_ofNat', Nat.testBit_mod_two_pow, decide_eq_true (List.mem_range.mp inside),
      Bool.true_and, show sum.toNat / 256 = sum.toNat / 2 ^ 8 from rfl, Nat.testBit_div_two_pow,
      Function.comp_apply, Nat.add_comm]
  have both : List.range 16 = List.range 8 ++ (List.range 8).map (8 + ·) := rfl
  rw [both, List.map_append, List.map_map, ← low, ← high]
  rfl

theorem feedBits_checksumOctets (register sum : UInt16) :
    feedBits register (bits (checksumOctets sum)) = shiftRegister^[16] (register ^^^ sum) := by
  have bound := sum.toNat_lt
  have shifts := shifts_ofNat 16 bound register
  rw [Nat.div_eq_of_lt bound, UInt16.ofNat_toNat, ← bits_checksumOctets] at shifts
  exact (shifts.trans UInt16.xor_zero).symm

/-- Octets and their checksum leave one and the same register behind. -/
theorem feedBits_checksum (octets : Octets) :
    feedBits 0xFFFF (bits (octets ++ checksumOctets (checksum octets))) =
      shiftRegister^[16] 0xFFFF := by
  have cancels : feedBits 0xFFFF (bits octets) ^^^ checksum octets = 0xFFFF := by
    rw [checksum_eq, ← UInt16.xor_assoc, UInt16.xor_self, UInt16.zero_xor]
  rw [bits_append, feedBits_append, feedBits_checksumOctets, cancels]

def parity (bits : List Bool) : Bool := bits.foldr xor false

theorem parity_eq (bits : List Bool) : parity bits = decide (bits.count true % 2 = 1) := by
  induction bits with
  | nil => rfl
  | cons bit bits ih =>
      have step : parity (bit :: bits) = (bit ^^ parity bits) := rfl
      rw [step, ih]
      obtain even | odd := Nat.mod_two_eq_zero_or_one (bits.count true)
      · cases bit <;> simp [even, Nat.add_mod]
      · cases bit <;> simp [odd, Nat.add_mod]

theorem parity_append (early late : List Bool) :
    parity (early ++ late) = (parity early ^^ parity late) := by
  induction early with
  | nil => simp [parity]
  | cons bit early ih => simpa [parity] using congrArg (bit ^^ ·) ih

theorem parity_map_xor (places : List Nat) (first second : Nat → Bool) :
    parity (places.map fun place => first place ^^ second place) =
      (parity (places.map first) ^^ parity (places.map second)) := by
  induction places with
  | nil => rfl
  | cons place places ih =>
      simp only [parity, List.map_cons, List.foldr_cons] at ih ⊢
      rw [ih, Bool.xor_assoc, Bool.xor_assoc, Bool.xor_left_comm (second place)]

namespace Register

def parity (register : UInt16) : Bool :=
  Pmpp.parity ((List.range 16).map register.toNat.testBit)

theorem parity_xor (register other : UInt16) :
    parity (register ^^^ other) = (parity register ^^ parity other) := by
  have bits : (register ^^^ other).toNat.testBit = fun place =>
      register.toNat.testBit place ^^ other.toNat.testBit place := by
    funext place
    rw [UInt16.toNat_xor, Nat.testBit_xor]
  rw [parity, bits]
  exact parity_map_xor _ _ _

theorem parity_shiftRight (register : UInt16) :
    parity (register >>> 1) = (parity register ^^ register.toNat.testBit 0) := by
  have empty : register.toNat.testBit 16 = false := Nat.testBit_lt_two_pow register.toNat_lt
  have shifted : (register >>> 1).toNat.testBit = register.toNat.testBit ∘ Nat.succ := by
    funext place
    rw [UInt16.toNat_shiftRight, show (1 : UInt16).toNat % 16 = 1 from rfl, Nat.testBit_shiftRight,
      Nat.add_comm]
    rfl
  have front : (List.range 16).map register.toNat.testBit =
      register.toNat.testBit 0 ::
        (List.range 15).map (register.toNat.testBit ∘ Nat.succ) := by
    rw [List.range_succ_eq_map, List.map_cons, List.map_map]
  have back : (List.range 16).map (register.toNat.testBit ∘ Nat.succ) =
      (List.range 15).map (register.toNat.testBit ∘ Nat.succ) ++ [false] := by
    rw [List.range_succ, List.map_append, List.map_singleton, Function.comp_apply, empty]
  rw [parity, parity, shifted, front, back, parity_append]
  simp [Pmpp.parity, Bool.xor_comm]

theorem parity_shiftRegister (register : UInt16) : parity (shiftRegister register) = parity register := by
  -- the polynomial has an even number of terms, the one for the bit that leaves among them
  have feedback (bit : Bool) : parity (feedback bit) = bit := by
    cases bit <;> decide
  rw [shiftRegister_eq, parity_xor, parity_shiftRight, feedback]
  simp

theorem parity_feedBits (register : UInt16) (bits : List Bool) :
    parity (feedBits register bits) = (parity register ^^ Pmpp.parity bits) := by
  have word (bit : Bool) : parity (bitWord bit) = bit := by
    cases bit <;> decide
  induction bits generalizing register with
  | nil => simp [Pmpp.parity]
  | cons bit bits ih =>
      rw [feedBits_cons, ih, feedBit, parity_shiftRegister, parity_xor, word, Bool.xor_assoc]
      rfl

end Register

theorem count_even_of_feedBits_eq_zero {bits : List Bool} (empty : feedBits 0 bits = 0) :
    bits.count true % 2 = 0 := by
  have zero : Register.parity 0 = false := by decide
  have even := Register.parity_feedBits 0 bits
  rw [empty, zero, Bool.false_xor, parity_eq] at even
  have notOdd := of_decide_eq_false even.symm
  omega

section

variable {register : UInt16} {bits : List Bool}

theorem half_le_feedBit (register : UInt16) (bit : Bool) :
    register.toNat / 2 ≤ (feedBit register bit).toNat := by
  have fits : register.toNat / 2 < 2 ^ 15 := by
    have bound := register.toNat_lt
    omega
  have entered : (bitWord bit).toNat / 2 = 0 := by
    cases bit <;> rfl
  have moved : ((register ^^^ bitWord bit) >>> 1).toNat = register.toNat / 2 := by
    rw [UInt16.toNat_shiftRight, UInt16.toNat_xor]
    refine (Nat.shiftRight_eq_div_pow _ 1).trans ?_
    rw [Nat.pow_one, Nat.xor_div_two, entered, Nat.xor_zero]
  rw [feedBit, shiftRegister_eq, UInt16.toNat_xor, moved]
  cases (register ^^^ bitWord bit).toNat.testBit 0 with
  | false => exact Nat.le_of_eq (Nat.xor_zero _).symm
  | true =>
      have top : 2 ^ 15 ≤ register.toNat / 2 ^^^ 0x8408 := by
        apply Nat.ge_two_pow_of_testBit
        rw [Nat.testBit_xor, Nat.testBit_lt_two_pow fits]
        decide
      exact Nat.le_trans (Nat.le_of_lt fits) top

theorem div_le_feedBits (register : UInt16) (bits : List Bool) :
    register.toNat / 2 ^ bits.length ≤ (feedBits register bits).toNat := by
  induction bits generalizing register with
  | nil => simp
  | cons bit bits ih =>
      calc
        register.toNat / 2 ^ (bits.length + 1) = register.toNat / 2 / 2 ^ bits.length := by
          rw [Nat.pow_succ', Nat.div_div_eq_div_mul]
        _ ≤ (feedBit register bit).toNat / 2 ^ bits.length :=
          Nat.div_le_div_right (half_le_feedBit register bit)
        _ ≤ (feedBits (feedBit register bit) bits).toNat := ih _

theorem feedBit_false_ne_zero (some : register ≠ 0) : feedBit register false ≠ 0 := by
  intro empty
  have half := half_le_feedBit register false
  rw [empty, UInt16.toNat_zero] at half
  have one : register.toNat ≠ 1 := by
    intro one
    obtain rfl : register = 1 := UInt16.toNat_inj.mp one
    exact absurd empty (by decide)
  exact some (UInt16.toNat_inj.mp (show register.toNat = 0 by omega))

theorem eq_false_of_notMem {bit : Bool} (quiet : true ∉ bit :: bits) : bit = false := by
  cases bit with
  | false => rfl
  | true => exact absurd List.mem_cons_self quiet

theorem feedBits_zero_of_quiet (quiet : true ∉ bits) : feedBits 0 bits = 0 := by
  induction bits with
  | nil => rfl
  | cons bit bits ih =>
      obtain rfl := eq_false_of_notMem quiet
      exact ih fun inside => quiet (List.mem_cons_of_mem _ inside)

theorem feedBits_ne_zero_of_quiet (some : register ≠ 0) (quiet : true ∉ bits) :
    feedBits register bits ≠ 0 := by
  induction bits generalizing register with
  | nil => exact some
  | cons bit bits ih =>
      obtain rfl := eq_false_of_notMem quiet
      exact ih (feedBit_false_ne_zero some) fun inside => quiet (List.mem_cons_of_mem _ inside)

theorem feedBits_burst_ne_zero {before burst after : List Bool} (quiet : true ∉ before)
    (short : burst.length ≤ 15) (still : true ∉ after) :
    feedBits 0 (before ++ true :: burst ++ after) ≠ 0 := by
  have inside : feedBits (feedBit 0 true) burst ≠ 0 := by
    -- the first bit enters at the top, and the others are too few to shift it out
    have left := div_le_feedBits (feedBit 0 true) burst
    have wide : 2 ^ burst.length ≤ 2 ^ 15 := Nat.pow_le_pow_right (by decide) short
    have top : 2 ^ burst.length ≤ (feedBit 0 true).toNat := Nat.le_trans wide (by decide)
    have positive := Nat.div_pos top (Nat.two_pow_pos _)
    intro empty
    rw [empty, UInt16.toNat_zero] at left
    omega
  rw [feedBits_append, feedBits_append, feedBits_zero_of_quiet quiet, feedBits_cons]
  exact feedBits_ne_zero_of_quiet inside still

end

end RoadsideSnmp.Pmpp
