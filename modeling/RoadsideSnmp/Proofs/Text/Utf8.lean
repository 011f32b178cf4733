import RoadsideSnmp.Text.Utf8

/-! Text written in UTF-8 reads back without a gap. A character's first octet says how many follow
and bounds the next one; the bounds hold because a character is neither written longer than
needed nor a surrogate. -/
namespace RoadsideSnmp.Utf8

theorem first_one {number : Nat} (fits : number < 0x80) :
    first (UInt8.ofNat number) = ([some (Char.ofNat number)], none) := by
  have octet : (UInt8.ofNat number).toNat = number := by
    rw [UInt8.toNat_ofNat']
    omega
  simp only [first, octet, if_pos fits]

theorem first_two : ∀ high < 32, 2 ≤ high →
    first (UInt8.ofNat (high + 0xC0)) = ([], some ⟨1, 0x80, 0xBF, high⟩) := by
  decide

def secondOfThree (high : Nat) : UInt8 × UInt8 :=
  if high = 0 then (0xA0, 0xBF) else if high = 13 then (0x80, 0x9F) else (0x80, 0xBF)

theorem first_three : ∀ high < 16, first (UInt8.ofNat (high + 0xE0)) =
    ([], some ⟨2, (secondOfThree high).1, (secondOfThree high).2, high⟩) := by
  decide

theorem second_of_three (number : Nat) (long : 0x7FF < number) (short : number ≤ 0xFFFF)
    (valid : number < 0xD800 ∨ 0xDFFF < number) :
    (secondOfThree (number / 4096 % 16)).1.toNat ≤ number / 64 % 64 + 0x80 ∧
      number / 64 % 64 + 0x80 ≤ (secondOfThree (number / 4096 % 16)).2.toNat := by
  unfold secondOfThree
  split
  · simp
    omega
  split <;> simp <;> omega

def secondOfFour (high : Nat) : UInt8 × UInt8 :=
  if high = 0 then (0x90, 0xBF) else if high = 4 then (0x80, 0x8F) else (0x80, 0xBF)

theorem first_four : ∀ high < 5, first (UInt8.ofNat (high + 0xF0)) =
    ([], some ⟨3, (secondOfFour high).1, (secondOfFour high).2, high⟩) := by
  decide

theorem second_of_four (number : Nat) (long : 0xFFFF < number) (short : number < 0x110000) :
    (secondOfFour (number / 262144 % 8)).1.toNat ≤ number / 4096 % 64 + 0x80 ∧
      number / 4096 % 64 + 0x80 ≤ (secondOfFour (number / 262144 % 8)).2.toNat := by
  unfold secondOfFour
  split
  · simp
    omega
  split <;> simp <;> omega

theorem scan_more {low high : UInt8} {bits : Nat} (six : bits < 64)
    (above : low.toNat ≤ bits + 0x80) (below : bits + 0x80 ≤ high.toNat) (owed number : Nat)
    (rest : Octets) :
    scan (some ⟨owed + 2, low, high, number⟩) (UInt8.ofNat (bits + 0x80) :: rest) =
      scan (some ⟨owed + 1, 0x80, 0xBF, number * 64 + bits⟩) rest := by
  have octet : (UInt8.ofNat (bits + 0x80)).toNat = bits + 0x80 := by
    rw [UInt8.toNat_ofNat']
    omega
  have within : low ≤ UInt8.ofNat (bits + 0x80) ∧ UInt8.ofNat (bits + 0x80) ≤ high := by
    simp only [UInt8.le_iff_toNat_le, octet]
    exact ⟨above, below⟩
  have own : (bits + 0x80) % 64 = bits := by omega
  have going : ¬ owed + 2 = 1 := by omega
  simp only [scan, step, if_pos within, if_neg going, octet, own, List.nil_append]
  rfl

theorem scan_final {low high : UInt8} {number bits : Nat} (six : bits < 64)
    (above : low.toNat ≤ bits + 0x80) (below : bits + 0x80 ≤ high.toNat) (rest : Octets) :
    scan (some ⟨1, low, high, number⟩) (UInt8.ofNat (bits + 0x80) :: rest) =
      some (Char.ofNat (number * 64 + bits)) :: scan none rest := by
  have octet : (UInt8.ofNat (bits + 0x80)).toNat = bits + 0x80 := by
    rw [UInt8.toNat_ofNat']
    omega
  have within : low ≤ UInt8.ofNat (bits + 0x80) ∧ UInt8.ofNat (bits + 0x80) ≤ high := by
    simp only [UInt8.le_iff_toNat_le, octet]
    exact ⟨above, below⟩
  have own : (bits + 0x80) % 64 = bits := by omega
  simp only [scan, step, if_pos within, if_true, octet, own, List.singleton_append]

theorem scan_encodeChar (character : Char) (rest : Octets) :
    scan none (String.utf8EncodeChar character ++ rest) = some character :: scan none rest := by
  have valid : character.toNat < 0xD800 ∨ 0xDFFF < character.toNat ∧ character.toNat < 0x110000 :=
    character.valid
  have again : Char.ofNat character.toNat = character := Char.ofNat_toNat character
  have number : character.val.toNat = character.toNat := rfl
  unfold String.utf8EncodeChar
  simp only [number]
  generalize character.toNat = code at valid again
  split
  · rw [List.singleton_append, scan, step, first_one (by omega), again]
    rfl
  split
  · have whole : code / 64 % 32 * 64 + code % 64 = code := by omega
    rw [List.cons_append, List.singleton_append, scan, step,
      first_two (code / 64 % 32) (by omega) (by omega), List.nil_append,
      scan_final (by omega) (by simp) (by simp; omega), whole, again]
  split
  · obtain ⟨low, high⟩ := second_of_three code (by omega) (by omega) (by omega)
    have whole : (code / 4096 % 16 * 64 + code / 64 % 64) * 64 + code % 64 = code := by omega
    rw [List.cons_append, List.cons_append, List.singleton_append, scan, step,
      first_three (code / 4096 % 16) (by omega), List.nil_append,
      scan_more (by omega) low high 0,
      scan_final (by omega) (by simp) (by simp; omega), whole, again]
  · obtain ⟨low, high⟩ := second_of_four code (by omega) (by omega)
    have whole : ((code / 262144 % 8 * 64 + code / 4096 % 64) * 64 + code / 64 % 64) * 64 +
        code % 64 = code := by omega
    rw [List.cons_append, List.cons_append, List.cons_append, List.singleton_append, scan, step,
      first_four (code / 262144 % 8) (by omega), List.nil_append,
      scan_more (by omega) low high 1,
      scan_more (by omega) (by simp) (by simp; omega) 0,
      scan_final (by omega) (by simp) (by simp; omega), whole, again]

theorem scan_encode (text : List Char) : scan none (encode text) = text.map some := by
  induction text with
  | nil => rfl
  | cons character text ih =>
      rw [encode, List.flatMap_cons, scan_encodeChar]
      exact congrArg (some character :: ·) ih

theorem decodeLossy_encodeText (text : String) : decodeLossy (encodeText text) = text := by
  rw [decodeLossy, encodeText, scan_encode, List.map_map]
  simp [Function.comp_def]

end RoadsideSnmp.Utf8
