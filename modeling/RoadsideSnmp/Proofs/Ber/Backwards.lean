import RoadsideSnmp.Proofs.Ber.Length
import RoadsideSnmp.Proofs.Ber.Shortest

/-! Writing into a buffer that grows at its end. The buffer holds the last octet first and is turned
round once, when all has been written; a length goes in with its low octet first, and an unsigned
number is cut out of an array behind the zero bits that it begins with. The writer holds in link
order what such a buffer holds. -/
namespace RoadsideSnmp

open Ber

namespace Backwards

def lowFirst : (room rest : Nat) → Octets
  | 0, _ => []
  | room + 1, rest => if rest = 0 then [] else UInt8.ofNat rest :: lowFirst room (rest / 256)

theorem lowFirst_eq (room rest : Nat) :
    lowFirst room rest = (Octets.ofNat (min room (Octets.size rest)) rest).reverse := by
  induction room generalizing rest with
  | zero => simp [lowFirst, Octets.ofNat]
  | succ room ih =>
      obtain rfl | positive := Nat.eq_zero_or_pos rest
      · rfl
      · rw [lowFirst, if_neg positive.ne', ih, Octets.size_succ positive, Nat.succ_min_succ,
          Octets.ofNat, List.reverse_append, List.reverse_singleton, List.singleton_append]

/-- A length as the buffer takes it. -/
def lengthField (length : Nat) : Octets :=
  if length ≤ 127 then [UInt8.ofNat length]
  else lowFirst 4 length ++ [0x80 ||| UInt8.ofNat (lowFirst 4 length).length]

theorem lengthField_eq (length : Nat) : lengthField length = (Length.encode length).reverse := by
  unfold lengthField Length.encode
  split
  · rfl
  · have marked : ∀ count ≤ 4, (0x80 ||| UInt8.ofNat count : UInt8) = UInt8.ofNat (0x80 + count) := by
      decide
    rw [lowFirst_eq, List.length_reverse, Octets.length_ofNat, marked _ (Nat.min_le_left _ _),
      List.reverse_cons]

/-- How many of so many bits stand in front of the first that is set. -/
def leadingZeros (bits number : Nat) : Nat :=
  if number = 0 then bits else bits - 1 - number.log2

def significant (width number : Nat) : Nat := max (width - leadingZeros (8 * width) number / 8) 1

theorem significant_eq {width number : Nat} (fits : number < 256 ^ width) :
    significant width number = max (Octets.size number) 1 := by
  unfold significant leadingZeros Octets.size
  split
  · omega
  · next some =>
      have bits : number < 2 ^ (8 * width) := by rwa [Nat.pow_mul]
      have high := (Nat.log2_lt some).mpr bits
      omega

/-- The end of an array that has one zero octet in front. -/
def unsignedContent (width number : Nat) : Octets :=
  let array := 0 :: Octets.ofNat width number
  let kept := significant width number
  let guard := if 128 ≤ (array.getD (width + 1 - kept) 0).toNat then 1 else 0
  array.drop (width + 1 - (kept + guard))

theorem zeros_append_dropZeros (octets : Octets) :
    List.replicate (octets.length - (Number.dropZeros octets).length) 0 ++
      Number.dropZeros octets = octets := by
  fun_induction Number.dropZeros octets with
  | case1 second rest ih =>
      have fewer := Number.length_dropZeros_le (second :: rest)
      rw [List.length_cons, Nat.succ_sub fewer, List.replicate_succ, List.cons_append, ih]
  | case2 => simp
  | case3 => simp

theorem length_dropZeros_ofNat {width number : Nat} (wide : width ≠ 0)
    (fits : number < 256 ^ width) :
    (Number.dropZeros (Octets.ofNat width number)).length = max (Octets.size number) 1 := by
  have some : Octets.ofNat width number ≠ [] := fun none => by
    have length := Octets.length_ofNat width number
    exact wide (by rw [← length, none, List.length_nil])
  have denotes : Octets.value (Number.dropZeros (Octets.ofNat width number)) = number := by
    rw [Number.value_dropZeros, Octets.value_ofNat, Nat.mod_eq_of_lt fits]
  match left : Number.dropZeros (Octets.ofNat width number), Number.dropZeros_ne_nil some with
  | [only], _ =>
      rw [left] at denotes
      have small := Octets.value_lt [only]
      rw [denotes] at small
      exact (Nat.max_eq_right (Octets.size_le small)).symm
  | first :: second :: rest, _ =>
      -- the first octet is not zero, so the number needs them all
      have nonzero := Number.head_ne_zero_of_dropZeros left
      have positive : 0 < first.toNat :=
        Nat.pos_of_ne_zero fun zero => nonzero (UInt8.toNat_inj.mp zero)
      rw [left] at denotes
      have below := Octets.value_lt (first :: second :: rest)
      have whole := Octets.value_cons first (second :: rest)
      rw [denotes] at below whole
      have few : Octets.size number ≤ (first :: second :: rest).length := Octets.size_le below
      have many : (second :: rest).length < Octets.size number := by
        by_contra fewer
        have fits := Nat.lt_of_lt_of_le (Octets.lt_pow_size number)
          (Nat.pow_le_pow_right (by decide) (Nat.not_lt.mp fewer))
        have product := Nat.mul_le_mul_right (256 ^ (second :: rest).length) positive
        omega
      rw [List.length_cons] at few ⊢
      omega

theorem unsignedContent_eq {width number : Nat} (wide : width ≠ 0) (fits : number < 256 ^ width) :
    unsignedContent width number =
      Number.guardSign (Number.dropZeros (Octets.ofNat width number)) := by
  have zeros := zeros_append_dropZeros (Octets.ofNat width number)
  have fewer := Number.length_dropZeros_le (Octets.ofNat width number)
  have kept := length_dropZeros_ofNat wide fits
  rw [← significant_eq fits] at kept
  rw [Octets.length_ofNat] at zeros fewer
  generalize Number.dropZeros (Octets.ofNat width number) = left at *
  have array : 0 :: Octets.ofNat width number =
      List.replicate (width - left.length) 0 ++ 0 :: left := by
    rw [← zeros, ← List.cons_append, ← List.replicate_succ, List.replicate_succ',
      List.append_assoc, List.singleton_append]
  have guarded : (0 :: Octets.ofNat width number).drop (width - left.length) = 0 :: left := by
    rw [array, List.drop_left' (List.length_replicate)]
  have bare : (0 :: Octets.ofNat width number).drop (width + 1 - left.length) = left := by
    rw [Nat.sub_add_comm fewer, ← List.drop_drop, guarded, List.drop_one, List.tail_cons]
  have first : (0 :: Octets.ofNat width number).getD (width + 1 - left.length) 0 =
      left.headD 0 := by
    rw [List.getD_eq_getElem?_getD, ← List.head?_drop, bare, List.headD_eq_head?_getD]
  unfold unsignedContent Number.guardSign
  dsimp only
  rw [← kept, first]
  split
  · rw [Nat.add_sub_add_right, guarded]
  · exact bare

def push (front buffer : Octets) : Octets := buffer ++ front.reverse

def pushLength (length : Nat) (buffer : Octets) : Octets := buffer ++ lengthField length

def pushTag (tag : UInt8) (buffer : Octets) : Octets := buffer ++ [tag]

def pushTlv (tag : UInt8) (content buffer : Octets) : Octets :=
  pushTag tag (pushLength content.length (push content buffer))

def pushConstructed (tag : UInt8) (content : Octets → Octets) (buffer : Octets) : Octets :=
  let filled := content buffer
  pushTag tag (pushLength (filled.length - buffer.length) filled)

/-- Turned round, the buffer is what the writer holds. -/
structure Backs (buffer : Octets) (writer : Writer) : Prop where
  octets : writer.octets = buffer.reverse
  size : writer.size = buffer.length

namespace Backs

variable {buffer : Octets} {writer : Writer}

theorem empty : Backs [] .empty := ⟨rfl, rfl⟩

theorem push (backs : Backs buffer writer) (front : Octets) :
    Backs (Backwards.push front buffer) (writer.push front) where
  octets := by
    rw [Writer.octets_push, backs.octets, Backwards.push, List.reverse_append, List.reverse_reverse]
  size := by
    rw [Backwards.push, List.length_append, List.length_reverse, ← backs.size]
    rfl

theorem pushLength (backs : Backs buffer writer) (length : Nat) :
    Backs (Backwards.pushLength length buffer) (writer.pushLength length) := by
  rw [Backwards.pushLength, lengthField_eq]
  exact backs.push (Length.encode length)

theorem pushTag (backs : Backs buffer writer) (tag : UInt8) :
    Backs (Backwards.pushTag tag buffer) (writer.pushTag tag) :=
  backs.push [tag]

theorem pushTlv (backs : Backs buffer writer) (tag : UInt8) (content : Octets) :
    Backs (Backwards.pushTlv tag content buffer) (writer.pushTlv tag content) :=
  ((backs.push content).pushLength content.length).pushTag tag

theorem pushUnsigned (backs : Backs buffer writer) (tag : UInt8) (number : UInt32) :
    Backs (Backwards.pushTlv tag (unsignedContent 4 number.toNat) buffer)
      (writer.pushUnsigned tag number) := by
  rw [unsignedContent_eq (by decide) number.toNat_lt]
  exact backs.pushTlv tag (Number.ofUInt32 number)

theorem pushCounter64 (backs : Backs buffer writer) (number : UInt64) :
    Backs (Backwards.pushTlv Tag.counter64 (unsignedContent 8 number.toNat) buffer)
      (writer.pushCounter64 number) := by
  rw [unsignedContent_eq (by decide) number.toNat_lt]
  exact backs.pushTlv Tag.counter64 (Number.ofUInt64 number)

theorem pushConstructed (backs : Backs buffer writer) (tag : UInt8) {fill : Octets → Octets}
    {content : Writer → Writer} (inside : Backs (fill buffer) (content writer)) :
    Backs (Backwards.pushConstructed tag fill buffer) (writer.pushConstructed tag content) := by
  have filled := inside.pushLength ((fill buffer).length - buffer.length)
  rw [← inside.size, ← backs.size] at filled
  rw [Backwards.pushConstructed, ← inside.size, ← backs.size]
  exact filled.pushTag tag

end Backs
end Backwards
end RoadsideSnmp
