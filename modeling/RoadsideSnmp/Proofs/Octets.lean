import Mathlib.Tactic.Linarith
import Mathlib.Tactic.NormNum
import Mathlib.Tactic.Ring
import RoadsideSnmp.Octets

/-! The big-endian numbers of octet strings, read from the front. The first octet carries the
sign, and a number fits the width that `size` gives. -/
namespace RoadsideSnmp.Octets

theorem foldl_value (octets : Octets) (start : Nat) :
    octets.foldl (fun total octet => total * 256 + octet.toNat) start =
      start * 256 ^ octets.length + value octets := by
  induction octets generalizing start with
  | nil => simp
  | cons first rest ih =>
      have here := ih (start * 256 + first.toNat)
      have alone := ih (0 * 256 + first.toNat)
      simp only [value, List.foldl_cons, List.length_cons, Nat.pow_succ] at here alone ⊢
      rw [here, alone]
      ring

theorem value_cons (first : UInt8) (rest : Octets) :
    value (first :: rest) = first.toNat * 256 ^ rest.length + value rest := by
  rw [← foldl_value]
  simp [value]

theorem value_lt (octets : Octets) : value octets < 256 ^ octets.length := by
  induction octets with
  | nil => simp
  | cons first rest ih =>
      have bound := first.toNat_lt
      rw [value_cons, List.length_cons, Nat.pow_succ]
      nlinarith

theorem value_ofNat (width number : Nat) :
    value (ofNat width number) = number % 256 ^ width := by
  induction width generalizing number with
  | zero => simp [ofNat, Nat.mod_one]
  | succ width ih =>
      rw [ofNat, value_concat, ih, Nat.pow_succ', Nat.mod_mul]
      simp [Nat.add_comm, Nat.mul_comm]

theorem signed_of_lt {first : UInt8} (rest : Octets) (clear : first.toNat < 128) :
    signed (first :: rest) = value (first :: rest) := by
  simp [signed, Nat.not_le.mpr clear]

theorem signed_of_le {first : UInt8} (rest : Octets) (set : 128 ≤ first.toNat) :
    signed (first :: rest) = (value (first :: rest) : Int) - 256 ^ (rest.length + 1) := by
  simp [signed, set]

theorem top_bit_iff (first : UInt8) (rest : Octets) :
    128 ≤ first.toNat ↔ 256 ^ (rest.length + 1) ≤ 2 * value (first :: rest) := by
  have bound := value_lt rest
  rw [value_cons, Nat.pow_succ]
  constructor
  · intro set
    nlinarith
  · intro half
    by_contra clear
    have low : first.toNat ≤ 127 := by omega
    nlinarith

theorem signed_ofNat_four {number : Nat} (fits : number < 4294967296) :
    signed (ofNat 4 number) =
      if 2147483648 ≤ number then (number : Int) - 4294967296 else number := by
  have whole : value (ofNat 4 number) = number := by
    rw [value_ofNat]
    exact Nat.mod_eq_of_lt fits
  have width := length_ofNat 4 number
  match octets : ofNat 4 number, width, whole with
  | first :: rest, width, whole =>
      have three : rest.length = 3 := by simpa using width
      have top := top_bit_iff first rest
      rw [three, whole] at top
      by_cases set : 128 ≤ first.toNat
      · rw [signed_of_le rest set, whole, three, if_pos (by omega)]
        norm_num
      · rw [signed_of_lt rest (by omega), whole, if_neg (by omega)]

theorem lt_pow_size (number : Nat) : number < 256 ^ size number := by
  unfold size
  split
  · next zero => simp [zero]
  · have fits := Nat.lt_log2_self (n := number)
    calc
      number < 2 ^ (number.log2 + 1) := fits
      _ ≤ 2 ^ (8 * (number.log2 / 8 + 1)) := Nat.pow_le_pow_right (by decide) (by omega)
      _ = 256 ^ (number.log2 / 8 + 1) := by rw [Nat.pow_mul]

theorem size_pos {number : Nat} (positive : 0 < number) : 0 < size number := by
  simp [size, Nat.pos_iff_ne_zero.mp positive]

theorem size_le {number width : Nat} (fits : number < 256 ^ width) : size number ≤ width := by
  unfold size
  split
  · exact Nat.zero_le width
  · next nonzero =>
      have bits : number < 2 ^ (8 * width) := by rwa [Nat.pow_mul]
      have log := (Nat.log2_lt nonzero).mpr bits
      omega

theorem size_succ {number : Nat} (positive : 0 < number) :
    size number = size (number / 256) + 1 := by
  apply Nat.le_antisymm
  · have fits := lt_pow_size (number / 256)
    refine size_le ?_
    rw [Nat.pow_succ]
    omega
  · obtain ⟨fewer, same⟩ := Nat.exists_eq_succ_of_ne_zero (size_pos positive).ne'
    have fits := lt_pow_size number
    rw [same, Nat.pow_succ'] at fits
    rw [same]
    exact Nat.succ_le_succ (size_le (Nat.div_lt_of_lt_mul fits))

end RoadsideSnmp.Octets
