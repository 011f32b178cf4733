import RoadsideSnmp.Ber.Length
import RoadsideSnmp.Proofs.Octets

/-! Length fields in both of their forms. What a field announces depends on its own octets and on
nothing behind them; the field that is written for a length is one of those that announce it. -/
namespace RoadsideSnmp.Ber.Length

theorem length_encode_le (length : Nat) : (encode length).length ≤ 5 := by
  unfold encode
  split
  · simp
  · rw [List.length_cons, Octets.length_ofNat]
    omega

theorem encode_long {length : Nat} (long : 127 < length) (few : Octets.size length ≤ 4) :
    encode length = UInt8.ofNat (0x80 + Octets.size length) ::
      Octets.ofNat (Octets.size length) length := by
  rw [encode, if_neg (Nat.not_le.mpr long), Nat.min_eq_right few]

theorem value_ofNat_size (length : Nat) :
    Octets.value (Octets.ofNat (Octets.size length) length) = length := by
  rw [Octets.value_ofNat]
  exact Nat.mod_eq_of_lt (Octets.lt_pow_size length)

theorem decode_short {octet : UInt8} (short : octet.toNat < 0x80) (rest : Octets) (base : Nat) :
    decode (octet :: rest) base = .ok (octet.toNat, 1) := by
  simp [decode, short, Nat.ne_of_lt short]

theorem decode_long {octet : UInt8} {octets : Octets} (count : octet.toNat = 0x80 + octets.length)
    (some : 0 < octets.length) (few : octets.length ≤ 4)
    (bounded : Octets.value octets ≤ maxLength) (rest : Octets) (base : Nat) :
    decode (octet :: (octets ++ rest)) base =
      .ok (Octets.value octets, 1 + octets.length) := by
  have width : octet.toNat - 0x80 = octets.length := by omega
  have marked : ¬ octet.toNat = 0x80 := by omega
  have long : ¬ octet.toNat < 0x80 := by omega
  simp only [decode, width, marked, long, if_false, Nat.not_lt.mpr few, List.length_append,
    Nat.not_lt.mpr (Nat.le_add_right _ _), List.take_left, Nat.not_lt.mpr bounded]

/-- The octets are a field that announces the length. -/
inductive IsField : Octets → Nat → Prop
  | short {octet : UInt8} (small : octet.toNat < 0x80) : IsField [octet] octet.toNat
  | long {lead : UInt8} {octets : Octets} (count : lead.toNat = 0x80 + octets.length)
      (some : 0 < octets.length) (few : octets.length ≤ 4)
      (bounded : Octets.value octets ≤ maxLength) :
      IsField (lead :: octets) (Octets.value octets)

theorem IsField.length_pos {field : Octets} {length : Nat} (announces : IsField field length) :
    0 < field.length := by
  cases announces with
  | short => exact Nat.one_pos
  | long => exact Nat.succ_pos _

theorem decode_of_isField {field : Octets} {length : Nat} (announces : IsField field length)
    (rest : Octets) (base : Nat) : decode (field ++ rest) base = .ok (length, field.length) := by
  cases announces with
  | short small => exact decode_short small rest base
  | long count some few bounded =>
      rw [List.cons_append, decode_long count some few bounded, List.length_cons, Nat.add_comm]

/-- Whatever is read as a length has a field of it in front. -/
theorem isField_of_decode {octets : Octets} {base length count : Nat}
    (decoded : decode octets base = .ok (length, count)) :
    ∃ field rest, octets = field ++ rest ∧ field.length = count ∧ IsField field length := by
  unfold decode at decoded
  split at decoded
  · simp at decoded
  · next lead rest =>
      dsimp only at decoded
      split at decoded
      · simp at decoded
      split at decoded
      · next small =>
          obtain ⟨rfl, rfl⟩ := Prod.mk.inj (Except.ok.inj decoded)
          exact ⟨[lead], rest, rfl, rfl, .short small⟩
      split at decoded
      · simp at decoded
      split at decoded
      · simp at decoded
      split at decoded
      · simp at decoded
      · next marked large few present bounded =>
          obtain ⟨rfl, rfl⟩ := Prod.mk.inj (Except.ok.inj decoded)
          have width : (rest.take (lead.toNat - 0x80)).length = lead.toNat - 0x80 :=
            List.length_take_of_le (Nat.not_lt.mp present)
          refine ⟨lead :: rest.take (lead.toNat - 0x80), rest.drop (lead.toNat - 0x80), ?_, ?_,
            .long ?_ ?_ ?_ (Nat.not_lt.mp bounded)⟩
          · rw [List.cons_append, List.take_append_drop]
          · rw [List.length_cons, width, Nat.add_comm]
          all_goals
            rw [width]
            omega

theorem decode_of_cut {field front : Octets} {length : Nat} (announces : IsField field length)
    (begins : front <+: field) (cut : front ≠ field) (base : Nat) :
    decode front base = .error ⟨base, .truncated⟩ := by
  obtain ⟨back, whole⟩ := begins
  match front with
  | [] => rfl
  | lead :: front =>
      rw [List.cons_append] at whole
      cases announces with
      | short small =>
          obtain ⟨rfl, none⟩ := List.cons.inj whole
          obtain ⟨rfl, -⟩ := List.append_eq_nil_iff.mp none
          exact absurd rfl cut
      | long count some few bounded =>
          obtain ⟨rfl, rfl⟩ := List.cons.inj whole
          have missing : 0 < back.length :=
            List.length_pos_iff.mpr fun none => cut (by rw [none, List.append_nil])
          rw [List.length_append] at count few
          have marked : ¬ lead.toNat = 0x80 := by omega
          have large : ¬ lead.toNat < 0x80 := by omega
          have width : ¬ 4 < lead.toNat - 0x80 := by omega
          have short : front.length < lead.toNat - 0x80 := by omega
          simp only [decode, marked, large, width, short, if_false, if_true]

theorem isField_encode {length : Nat} (bounded : length ≤ maxLength) :
    IsField (encode length) length := by
  by_cases short : length ≤ 127
  · have octet : (UInt8.ofNat length).toNat = length := by
      rw [UInt8.toNat_ofNat']
      omega
    have field : IsField [UInt8.ofNat length] (UInt8.ofNat length).toNat := .short (by omega)
    rwa [octet, ← encode_short short] at field
  · have long : 127 < length := Nat.not_le.mp short
    have few : Octets.size length ≤ 3 :=
      Octets.size_le (Nat.lt_of_le_of_lt bounded (by decide))
    have some : 0 < Octets.size length := Octets.size_pos (by omega)
    have value := value_ofNat_size length
    have width := Octets.length_ofNat (Octets.size length) length
    have count : (UInt8.ofNat (0x80 + Octets.size length)).toNat =
        0x80 + (Octets.ofNat (Octets.size length) length).length := by
      rw [UInt8.toNat_ofNat', width]
      omega
    have field := IsField.long count (by omega) (by omega) (by rwa [value])
    rwa [value, ← encode_long long (by omega)] at field

/-- Four octets carry no more of a length than this. -/
def announced (length : Nat) : Nat := length % 2 ^ 32

theorem announced_le (length : Nat) : announced length ≤ length := Nat.mod_le length (2 ^ 32)

theorem announced_of_lt {length : Nat} (fits : length < 2 ^ 32) : announced length = length :=
  Nat.mod_eq_of_lt fits

theorem announced_of_le {length : Nat} (bounded : length ≤ maxLength) :
    announced length = length :=
  announced_of_lt (Nat.lt_of_le_of_lt bounded (by decide))

theorem encode_beyond {length : Nat} (beyond : maxLength < length) :
    encode length = 0x84 :: Octets.ofNat 4 length := by
  have limit : maxLength = 256 ^ 3 - 1 := rfl
  have many : 4 ≤ Octets.size length := by
    by_contra few
    have fits := Octets.lt_pow_size length
    have less : 256 ^ Octets.size length ≤ 256 ^ 3 :=
      Nat.pow_le_pow_right (by decide) (by omega)
    omega
  rw [encode, if_neg (by omega), Nat.min_eq_left many]
  rfl

theorem value_ofNat_four (length : Nat) : Octets.value (Octets.ofNat 4 length) = announced length :=
  Octets.value_ofNat 4 length

theorem isField_encode_announced {length : Nat} (bounded : announced length ≤ maxLength) :
    IsField (encode length) (announced length) := by
  obtain beyond | small := Nat.lt_or_ge maxLength length
  · have width := Octets.length_ofNat 4 length
    rw [encode_beyond beyond, ← value_ofNat_four]
    refine .long ?_ (by omega) (by omega) (by rwa [value_ofNat_four])
    rw [width]
    rfl
  · rw [announced_of_le small]
    exact isField_encode small

theorem decode_encode_beyond {length : Nat} (beyond : maxLength < announced length)
    (rest : Octets) (base : Nat) : decode (encode length ++ rest) base =
      .error ⟨base, .lengthExceedsMax (announced length) maxLength⟩ := by
  have width := Octets.length_ofNat 4 length
  have lead : (0x84 : UInt8).toNat = 132 := rfl
  have front : (Octets.ofNat 4 length ++ rest).take 4 = Octets.ofNat 4 length :=
    List.take_left' width
  rw [encode_beyond (Nat.lt_of_lt_of_le beyond (announced_le length)), List.cons_append]
  simp [decode, lead, width, front, value_ofNat_four, beyond]

end RoadsideSnmp.Ber.Length
