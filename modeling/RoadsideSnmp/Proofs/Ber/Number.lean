import RoadsideSnmp.Ber.Number
import RoadsideSnmp.Proofs.Octets

/-! Content octets of numbers read back. Leaving out an octet that repeats the sign of the next
one changes neither the number nor what a reader makes of it. -/
namespace RoadsideSnmp.Ber.Number

open Octets

theorem signed_repeated {first second : UInt8} (rest : Octets)
    (repeated : repeatsSign first second = true) :
    signed (first :: second :: rest) = signed (second :: rest) := by
  have value := value_cons first (second :: rest)
  rw [List.length_cons] at value
  simp only [repeatsSign, Bool.or_eq_true, Bool.and_eq_true, beq_iff_eq, decide_eq_true_eq]
    at repeated
  rcases repeated with ⟨rfl, clear⟩ | ⟨rfl, set⟩
  · have low : second.toNat < 128 := clear
    rw [signed_of_lt _ (by decide), signed_of_lt _ low, value]
    simp
  · have high : 128 ≤ second.toNat := set
    have ones : (0xFF : UInt8).toNat = 255 := rfl
    rw [signed_of_le _ (by decide), signed_of_le _ high, value, ones, List.length_cons]
    push_cast
    ring

theorem signed_dropSign (octets : Octets) : signed (dropSign octets) = signed octets := by
  fun_induction dropSign octets with
  | case1 first second rest repeated ih => rw [ih, signed_repeated rest repeated]
  | case2 => rfl
  | case3 => rfl

theorem dropSign_dropSign (octets : Octets) : dropSign (dropSign octets) = dropSign octets := by
  fun_induction dropSign octets with
  | case1 first second rest repeated ih => exact ih
  | case2 first second rest needed => rw [dropSign, if_neg needed]
  | case3 short single => rw [dropSign.eq_2 short single]

theorem length_dropSign_le (octets : Octets) : (dropSign octets).length ≤ octets.length := by
  fun_induction dropSign octets with
  | case1 first second rest repeated ih => exact Nat.le_succ_of_le ih
  | case2 => exact Nat.le_refl _
  | case3 => exact Nat.le_refl _

theorem dropSign_ne_nil {octets : Octets} (some : octets ≠ []) : dropSign octets ≠ [] := by
  fun_induction dropSign octets with
  | case1 first second rest repeated ih => exact ih (List.cons_ne_nil _ _)
  | case2 => exact List.cons_ne_nil _ _
  | case3 => exact some

theorem lastFour_of_le {octets : Octets} (short : octets.length ≤ 4) :
    lastFour octets = octets := by
  simp [lastFour, Nat.sub_eq_zero_of_le short]

theorem length_ofInt32_le (number : Int32) : (ofInt32 number).length ≤ 4 :=
  Nat.le_trans (length_dropSign_le _) (by simp)

theorem ofInt32_ne_nil (number : Int32) : ofInt32 number ≠ [] := by
  refine dropSign_ne_nil fun none => ?_
  have width := length_ofNat 4 (number.toInt % 4294967296).toNat
  simp [none] at width

theorem signed_ofInt32 (number : Int32) : signed (ofInt32 number) = number.toInt := by
  have low := number.le_toInt
  have high := number.toInt_lt
  rw [ofInt32, signed_dropSign, signed_ofNat_four (by omega)]
  split <;> omega

theorem toInt32_ofInt32 (number : Int32) : toInt32 (ofInt32 number) = number := by
  have dropped : dropSign (ofInt32 number) = ofInt32 number := dropSign_dropSign _
  rw [toInt32, dropped, lastFour_of_le (length_ofInt32_le number), signed_ofInt32]
  exact Int32.ofInt_toInt number

end RoadsideSnmp.Ber.Number
