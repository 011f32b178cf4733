import RoadsideSnmp.Proofs.Oid.Content

/-! Dotted text. What is accepted is a list of decimal numerals with single dots between, one dot
in front allowed, whose numbers are arcs of a valid identifier; zeros in front of a numeral do not
count, however many. A valid identifier reads back from the text that is shown for it. -/
namespace RoadsideSnmp.Oid

def decimal (part : List Char) : Nat := Nat.ofDigitChars 10 part 0

structure IsNumeral (part : List Char) : Prop where
  some : part ≠ []
  digits : ∀ character ∈ part, character.isDigit = true
  fits : decimal part ≤ 4294967295

theorem isNumeral_iff (part : List Char) : IsNumeral part ↔
    part ≠ [] ∧ part.all Char.isDigit = true ∧ decimal part ≤ 4294967295 := by
  rw [List.all_eq_true]
  exact ⟨fun ⟨written, digits, fits⟩ => ⟨written, digits, fits⟩,
    fun ⟨written, digits, fits⟩ => ⟨written, digits, fits⟩⟩

instance (part : List Char) : Decidable (IsNumeral part) :=
  decidable_of_iff _ (isNumeral_iff part).symm

/-- The arcs of an identifier that has a faithful encoding. -/
inductive ArePermitted : List Nat → Prop
  | arcs {first second : Nat} {rest : List Nat} (bounded : first ≤ 2)
      (low : first = 0 ∨ first = 1 → second ≤ 39) (high : first = 2 → second ≤ 4294967295 - 80)
      (few : rest.length + 2 ≤ 128) : ArePermitted (first :: second :: rest)

/-- Numerals with single dots between and at most one dot in front. -/
structure IsDotted (text : List Char) (parts : List (List Char)) : Prop where
  joined : text = ['.'].intercalate parts ∨ text = '.' :: ['.'].intercalate parts
  numerals : ∀ part ∈ parts, IsNumeral part
  permitted : ArePermitted (parts.map decimal)

theorem validate_eq_ok_iff (oid : Oid) :
    oid.validate = .ok () ↔ ArePermitted (oid.arcs.map UInt32.toNat) := by
  constructor
  · intro valid
    obtain ⟨first, second, rest, shape, bounded, low, high, few⟩ := arcs_of_validate valid
    rw [shape] at few ⊢
    refine .arcs bounded (fun less => ?_) (fun two => ?_) ?_
    · have := low (by omega)
      omega
    · exact high two
    · rwa [List.length_map]
  · intro permitted
    obtain ⟨arcs⟩ := oid
    match arcs, permitted with
    | first :: second :: rest, .arcs bounded low high few =>
        rw [List.length_map] at few
        have arcs : validateArcs ⟨first :: second :: rest⟩ = .ok () :=
          validateArcs_cons rest bounded (fun less => by have := low (by omega); omega) high
        have short : ¬ maxArcs < size ⟨first :: second :: rest⟩ := Nat.not_lt.mpr few
        rw [validate, arcs]
        exact if_neg short

theorem readArc_eq_ok_iff (part : List Char) (arc : UInt32) :
    readArc part = .ok arc ↔ IsNumeral part ∧ arc.toNat = decimal part := by
  have value : part.foldl (fun total digit => total * 10 + (digit.toNat - '0'.toNat)) 0 =
      decimal part := by
    simp only [decimal, Nat.ofDigitChars_eq_foldl, Nat.mul_comm]
  have size : UInt32.size = 4294967296 := rfl
  have bound := arc.toNat_lt
  unfold readArc
  dsimp only
  rw [value, size, isNumeral_iff]
  split
  · next blank =>
      refine iff_of_false (by simp) fun ⟨⟨written, digits, _⟩, _⟩ => ?_
      rw [List.isEmpty_eq_false_iff.mpr written, digits] at blank
      exact absurd blank (by decide)
  · next full =>
      have digits : part ≠ [] ∧ part.all Char.isDigit = true := by simpa using full
      split
      · next fits =>
          have exact_ := UInt32.toNat_ofNat_of_lt' fits
          constructor
          · intro read
            obtain rfl := Except.ok.inj read
            exact ⟨⟨digits.1, digits.2, by omega⟩, exact_⟩
          · rintro ⟨-, same⟩
            rw [← same, UInt32.ofNat_toNat]
      · next large =>
          refine iff_of_false (by simp) fun ⟨⟨_, _, fits⟩, _⟩ => ?_
          omega

theorem mapM_readArc_eq_ok_iff (parts : List (List Char)) (arcs : List UInt32) :
    parts.mapM readArc = .ok arcs ↔
      (∀ part ∈ parts, IsNumeral part) ∧ arcs.map UInt32.toNat = parts.map decimal := by
  induction parts generalizing arcs with
  | nil => simp [pure, Except.pure, eq_comm]
  | cons part parts ih =>
      rw [List.mapM_cons, List.forall_mem_cons, List.map_cons]
      constructor
      · intro read
        obtain ⟨arc, front, later⟩ := bind_eq_ok_iff.mp read
        obtain ⟨others, back, whole⟩ := bind_eq_ok_iff.mp later
        obtain rfl := Except.ok.inj whole
        obtain ⟨numeral, same⟩ := (readArc_eq_ok_iff part arc).mp front
        obtain ⟨numerals, rest⟩ := (ih others).mp back
        exact ⟨⟨numeral, numerals⟩, by rw [List.map_cons, same, rest]⟩
      · rintro ⟨⟨numeral, numerals⟩, same⟩
        obtain ⟨arc, others, rfl, front, back⟩ := List.map_eq_cons_iff.mp same
        rw [(readArc_eq_ok_iff part arc).mpr ⟨numeral, front⟩, (ih others).mpr ⟨numerals, back⟩]
        rfl

def bodyOf (text : List Char) : List Char :=
  if text.head? = some '.' then text.tail else text

theorem parse_eq_ok_iff_body (input : String) (oid : Oid) :
    parse input = .ok oid ↔ bodyOf input.toList ≠ [] ∧
      ((bodyOf input.toList).splitOn '.').mapM readArc = .ok oid.arcs ∧
      oid.validate = .ok () := by
  have shape : parse input = if (bodyOf input.toList).isEmpty then .error .empty
      else (((bodyOf input.toList).splitOn '.').mapM readArc).bind fun arcs =>
        (validate ⟨arcs⟩).bind fun _ => .ok ⟨arcs⟩ := by
    unfold parse
    change (if (bodyOf input.toList).isEmpty then _ else _) = _
    by_cases none : (bodyOf input.toList).isEmpty
    · rw [if_pos none, if_pos none]
      rfl
    · rw [if_neg none, if_neg none]
      rfl
  rw [shape]
  by_cases none : bodyOf input.toList = []
  · simp [none]
  rw [if_neg (by simpa using none)]
  constructor
  · intro read
    obtain ⟨arcs, front, rest⟩ := bind_eq_ok_iff.mp read
    obtain ⟨⟨⟩, valid, same⟩ := bind_eq_ok_iff.mp rest
    obtain rfl := Except.ok.inj same
    exact ⟨none, front, valid⟩
  · rintro ⟨-, front, valid⟩
    rw [front]
    simp only [Except.bind, valid]

theorem dot_notMem {part : List Char} (numeral : IsNumeral part) : '.' ∉ part :=
  fun inside => absurd (numeral.digits '.' inside) (by decide)

theorem head?_intercalate_ne_dot {parts : List (List Char)}
    (numerals : ∀ part ∈ parts, IsNumeral part) :
    (['.'].intercalate parts).head? ≠ some '.' := by
  match parts with
  | [] => simp
  | part :: parts =>
      have numeral := numerals part List.mem_cons_self
      obtain ⟨first, rest, rfl⟩ := List.exists_cons_of_ne_nil numeral.some
      intro dot
      have first_eq : first = '.' := by
        cases parts <;> simpa [List.intercalate_cons_cons] using dot
      exact dot_notMem numeral (by simp [first_eq])

theorem isDotted_iff (text : List Char) (parts : List (List Char)) :
    IsDotted text parts ↔ parts = (bodyOf text).splitOn '.' ∧
      (∀ part ∈ parts, IsNumeral part) ∧ ArePermitted (parts.map decimal) := by
  constructor
  · rintro ⟨joined, numerals, permitted⟩
    refine ⟨?_, numerals, permitted⟩
    have body : bodyOf text = ['.'].intercalate parts := by
      obtain rfl | rfl := joined
      · exact if_neg (head?_intercalate_ne_dot numerals)
      · exact if_pos rfl
    have some : parts ≠ [] := by
      rintro rfl
      cases permitted
    rw [body, List.splitOn_intercalate '.' (fun part inside => dot_notMem (numerals part inside))
      some]
  · rintro ⟨rfl, numerals, permitted⟩
    refine ⟨?_, numerals, permitted⟩
    rw [List.intercalate_splitOn]
    unfold bodyOf
    split
    · next dot =>
        obtain ⟨rest, rfl⟩ := List.head?_eq_some_iff.mp dot
        exact .inr rfl
    · exact .inl rfl

theorem parse_eq_ok_iff (input : String) (oid : Oid) :
    parse input = .ok oid ↔ ∃ parts, IsDotted input.toList parts ∧
      oid.arcs.map UInt32.toNat = parts.map decimal := by
  rw [parse_eq_ok_iff_body, mapM_readArc_eq_ok_iff, validate_eq_ok_iff]
  constructor
  · rintro ⟨-, ⟨numerals, same⟩, valid⟩
    rw [same] at valid
    exact ⟨_, (isDotted_iff _ _).mpr ⟨rfl, numerals, valid⟩, same⟩
  · rintro ⟨parts, dotted, same⟩
    obtain ⟨rfl, numerals, permitted⟩ := (isDotted_iff _ _).mp dotted
    refine ⟨fun none => ?_, ⟨numerals, same⟩, by rwa [same]⟩
    rw [none, List.splitOn_nil] at numerals
    exact (numerals [] List.mem_cons_self).some rfl

theorem exists_parse_iff (input : String) :
    (∃ oid, parse input = .ok oid) ↔ ∃ parts, IsDotted input.toList parts := by
  constructor
  · rintro ⟨oid, read⟩
    obtain ⟨parts, dotted, -⟩ := (parse_eq_ok_iff input oid).mp read
    exact ⟨parts, dotted⟩
  · rintro ⟨parts, dotted⟩
    -- so the numbers are not cut when they become arcs
    have fit : ∀ arc ∈ parts.map decimal, arc < 4294967296 := by
      rw [List.forall_mem_map]
      exact fun part listed => Nat.lt_succ_of_le (dotted.numerals part listed).fits
    exact ⟨ofNats (parts.map decimal),
      (parse_eq_ok_iff input _).mpr ⟨parts, dotted, toNat_arcs_ofNats fit⟩⟩

theorem isNumeral_toDigits (arc : UInt32) : IsNumeral (Nat.toDigits 10 arc.toNat) where
  some := Nat.toDigits_ne_nil
  digits _ inside := Nat.isDigit_of_mem_toDigits (by decide) (by decide) inside
  fits := by
    have bound := arc.toNat_lt
    rw [decimal, Nat.ofDigitChars_ten_toDigits]
    omega

theorem parse_text {oid : Oid} (valid : oid.validate = .ok ()) : parse oid.text = .ok oid := by
  let parts := oid.arcs.map fun arc => Nat.toDigits 10 arc.toNat
  have numbers : parts.map decimal = oid.arcs.map UInt32.toNat := by
    simp [parts, decimal, Function.comp_def]
  refine (parse_eq_ok_iff _ _).mpr ⟨parts, ⟨.inl ?_, fun part inside => ?_, ?_⟩, numbers.symm⟩
  · have dot : ".".toList = ['.'] := rfl
    have shown : String.toList ∘ (fun arc : UInt32 => toString arc.toNat) =
        fun arc => Nat.toDigits 10 arc.toNat := funext fun arc => Nat.toList_repr
    rw [text, String.toList_intercalate, List.map_map, dot, shown]
  · obtain ⟨arc, -, rfl⟩ := List.mem_map.mp inside
    exact isNumeral_toDigits arc
  · rw [numbers]
    exact (validate_eq_ok_iff oid).mp valid

/-- Text is accepted exactly when it is dotted and is then read as its numbers; a valid identifier
comes back from its own text. -/
theorem parse_dotted :
    (∀ input, ((∃ oid, parse input = .ok oid) ↔ ∃ parts, IsDotted input.toList parts) ∧
      ∀ oid, parse input = .ok oid ↔ ∃ parts, IsDotted input.toList parts ∧
        oid.arcs.map UInt32.toNat = parts.map decimal) ∧
    ∀ oid, oid.validate = .ok () → parse oid.text = .ok oid :=
  ⟨fun input => ⟨exists_parse_iff input, parse_eq_ok_iff input⟩, fun _ => parse_text⟩

def laxText : String := ".2.00000000000004294967215.4294967295"

def laxParts : List (List Char) :=
  ["2".toList, "00000000000004294967215".toList, "4294967295".toList]

theorem parse_dotted_laxText :
    parse laxText = .ok (ofNats [2, 4294967215, 4294967295]) ∧
      (ofNats [2, 4294967215, 4294967295]).validate = .ok () ∧
      parse "2.4294967215.4294967295" = .ok (ofNats [2, 4294967215, 4294967295]) := by
  have valid : (ofNats [2, 4294967215, 4294967295]).validate = .ok () := by decide
  have dotted : IsDotted laxText.toList laxParts :=
    ⟨.inr (by decide +kernel), by decide +kernel,
      .arcs (by decide) (by decide) (by decide) (by decide)⟩
  have shown : (ofNats [2, 4294967215, 4294967295]).text = "2.4294967215.4294967295" := by
    decide +kernel
  obtain ⟨read, back⟩ := parse_dotted
  refine ⟨((read laxText).2 _).mpr ⟨laxParts, dotted, by decide +kernel⟩, valid, ?_⟩
  have again := back _ valid
  rwa [shown] at again

end RoadsideSnmp.Oid
