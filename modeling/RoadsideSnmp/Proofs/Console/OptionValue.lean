import Mathlib.Logic.Basic
import RoadsideSnmp.Console.OptionValue
import RoadsideSnmp.Proofs.Outcome
import RoadsideSnmp.Text.Utf8

/-! Octets as they are typed. What is accepted, when all marks are off, is pairs of hexadecimal
digits in either case, and pairs with a plus sign in place of the first digit. The cuts are made in
the UTF-8 of the text; where the pairs in front of a cut are accepted and it falls inside a
character, the tool breaks off. -/
namespace RoadsideSnmp.Console.OptionValue

structure IsBehind (mark text rest : List Char) : Prop where
  marks : ∃ count, text = (List.replicate count mark).flatten ++ rest
  bare : ¬ mark <+: rest

section

variable {first second : Char} {text rest : List Char}

theorem dropMarks_cons (rest : List Char) :
    dropMarks first second (first :: second :: rest) = dropMarks first second rest := by
  rw [dropMarks, if_pos ⟨rfl, rfl⟩]

theorem dropMarks_of_bare (bare : ¬ [first, second] <+: rest) :
    dropMarks first second rest = rest := by
  match rest with
  | [] => rfl
  | [_] => rfl
  | one :: other :: rest =>
      rw [dropMarks, if_neg]
      rintro ⟨rfl, rfl⟩
      exact bare ⟨rest, rfl⟩

theorem isBehind_dropMarks : IsBehind [first, second] text (dropMarks first second text) := by
  induction text using dropMarks.induct first second with
  | case1 one other rest mark ih =>
      obtain ⟨rfl, rfl⟩ := mark
      obtain ⟨⟨count, whole⟩, bare⟩ := ih
      rw [dropMarks_cons]
      refine ⟨⟨count + 1, ?_⟩, bare⟩
      rw [List.replicate_succ, List.flatten_cons, List.append_assoc, ← whole]
      rfl
  | case2 one other rest differs =>
      rw [dropMarks, if_neg differs]
      refine ⟨⟨0, rfl⟩, fun ⟨_, mark⟩ => differs ?_⟩
      simp only [List.cons_append, List.cons.injEq] at mark
      exact ⟨mark.1.symm, mark.2.1.symm⟩
  | case3 rest short =>
      have bare : ¬ [first, second] <+: rest := fun ⟨behind, whole⟩ => short _ _ _ whole.symm
      rw [dropMarks_of_bare bare]
      exact ⟨⟨0, rfl⟩, bare⟩

theorem dropMarks_eq_iff : dropMarks first second text = rest ↔
    IsBehind [first, second] text rest := by
  constructor
  · rintro rfl
    exact isBehind_dropMarks
  · rintro ⟨⟨count, rfl⟩, bare⟩
    induction count with
    | zero => exact dropMarks_of_bare bare
    | succ count ih =>
        rw [List.replicate_succ, List.flatten_cons, List.append_assoc]
        exact (dropMarks_cons _).trans ih

end

def IsUnmarked (text : String) (digits : List Char) : Prop :=
  ∃ between, IsBehind ['0', 'x'] text.toList between ∧ IsBehind ['0', 'X'] between digits

theorem unmarked_eq_iff (text : String) (digits : List Char) :
    unmarked text = digits ↔ IsUnmarked text digits := by
  constructor
  · intro same
    exact ⟨_, isBehind_dropMarks, dropMarks_eq_iff.mp same⟩
  · rintro ⟨between, small, large⟩
    rw [unmarked, dropMarks_eq_iff.mpr small, dropMarks_eq_iff.mpr large]

section

variable {character first second : Char} {digit : Nat} {octet : UInt8}

theorem hexDigit?_of_digitChar : ∀ digit < 16, ∀ character : Char,
    character.toLower = Nat.digitChar digit → hexDigit? character = some digit := by
  have read : ∀ digit < 16, (let lower := Nat.digitChar digit
      if lower.isDigit then some (lower.toNat - '0'.toNat)
      else if 'a' ≤ lower ∧ lower ≤ 'f' then some (lower.toNat - 'a'.toNat + 10)
      else none) = some digit := by
    decide
  intro digit few character same
  rw [hexDigit?, same]
  exact read digit few

theorem digitChar_of_hexDigit? (read : hexDigit? character = some digit) :
    digit < 16 ∧ character.toLower = Nat.digitChar digit := by
  have decimal : ∀ digit < 10, Char.ofNat (digit + 48) = Nat.digitChar digit := by decide
  have beyond : ∀ more < 6, Char.ofNat (more + 97) = Nat.digitChar (more + 10) := by decide
  have again := Char.ofNat_toNat character.toLower
  unfold hexDigit? at read
  dsimp only at read
  split at read
  · next numeral =>
      obtain ⟨low, high⟩ : 48 ≤ character.toLower.toNat ∧ character.toLower.toNat ≤ 57 := by
        simpa [Char.isDigit, UInt32.le_iff_toNat_le] using numeral
      obtain rfl : character.toLower.toNat - 48 = digit := Option.some.inj read
      refine ⟨by omega, ?_⟩
      rw [← decimal _ (by omega), Nat.sub_add_cancel low, again]
  split at read
  · next letter =>
      obtain ⟨low, high⟩ : 97 ≤ character.toLower.toNat ∧ character.toLower.toNat ≤ 102 := letter
      obtain rfl : character.toLower.toNat - 97 + 10 = digit := Option.some.inj read
      refine ⟨by omega, ?_⟩
      rw [← beyond _ (by omega), Nat.sub_add_cancel low, again]
  · simp at read

theorem hexDigit?_eq_some_iff : hexDigit? character = some digit ↔
    digit < 16 ∧ character.toLower = Nat.digitChar digit :=
  ⟨digitChar_of_hexDigit?, fun ⟨few, same⟩ => hexDigit?_of_digitChar digit few character same⟩

theorem utf8Size_of_digitChar (few : digit < 16) (same : character.toLower = Nat.digitChar digit) :
    character.utf8Size = 1 := by
  unfold Char.toLower at same
  split at same
  · next capital =>
      have ascii : character.val ≤ 127 := UInt32.le_trans capital.2 (by decide)
      exact if_pos ascii
  · subst same
    revert digit
    decide

inductive IsPair : Char → Char → UInt8 → Prop
  | digits {high low : Char} {octet : UInt8}
      (same : [high.toLower, low.toLower] = Octets.hexPair octet) : IsPair high low octet
  | signed {low : Char} {octet : UInt8}
      (same : ['0', low.toLower] = Octets.hexPair octet) : IsPair '+' low octet

theorem hexPair_eq_iff {high low : Char} : [high, low] = Octets.hexPair octet ↔
    high = Nat.digitChar (octet.toNat / 16) ∧ low = Nat.digitChar (octet.toNat % 16) := by
  rw [Octets.hexPair, List.cons.injEq, List.cons.injEq]
  exact and_congr_right fun _ => and_iff_left rfl

theorem ofNat_eq_iff {high low : Nat} (fewHigh : high < 16) (fewLow : low < 16) :
    UInt8.ofNat (high * 16 + low) = octet ↔ high = octet.toNat / 16 ∧ low = octet.toNat % 16 := by
  rw [← UInt8.toNat_inj, UInt8.toNat_ofNat']
  omega

theorem plus_ne_digitChar : ∀ digit < 16, '+'.toLower ≠ Nat.digitChar digit := by decide

theorem zero_eq_digitChar_iff : ∀ digit < 16, '0' = Nat.digitChar digit ↔ digit = 0 := by decide

theorem hexPair?_eq_some_iff : hexPair? first second = some octet ↔ IsPair first second octet := by
  have bound := octet.toNat_lt
  unfold hexPair?
  split
  · next sign =>
      subst sign
      rw [Option.map_eq_some_iff]
      constructor
      · rintro ⟨digit, read, rfl⟩
        obtain ⟨few, same⟩ := hexDigit?_eq_some_iff.mp read
        refine .signed (hexPair_eq_iff.mpr ?_)
        have number : (UInt8.ofNat digit).toNat = digit := by
          rw [UInt8.toNat_ofNat']
          omega
        rw [number, Nat.div_eq_of_lt few, Nat.mod_eq_of_lt few]
        exact ⟨rfl, same⟩
      · rintro (⟨same⟩ | ⟨same⟩)
        · exact absurd (hexPair_eq_iff.mp same).1 (plus_ne_digitChar _ (by omega))
        · obtain ⟨zero, same⟩ := hexPair_eq_iff.mp same
          have none := (zero_eq_digitChar_iff _ (by omega)).mp zero
          refine ⟨_, hexDigit?_eq_some_iff.mpr ⟨by omega, same⟩, ?_⟩
          rw [← UInt8.toNat_inj, UInt8.toNat_ofNat']
          omega
  · next plain =>
      constructor
      · intro read
        obtain ⟨high, readHigh, rest⟩ := Option.bind_eq_some_iff.mp read
        obtain ⟨low, readLow, whole⟩ := Option.bind_eq_some_iff.mp rest
        obtain ⟨fewHigh, sameHigh⟩ := hexDigit?_eq_some_iff.mp readHigh
        obtain ⟨fewLow, sameLow⟩ := hexDigit?_eq_some_iff.mp readLow
        obtain ⟨rfl, rfl⟩ := (ofNat_eq_iff fewHigh fewLow).mp (Option.some.inj whole)
        exact .digits (hexPair_eq_iff.mpr ⟨sameHigh, sameLow⟩)
      · rintro (⟨same⟩ | _)
        · obtain ⟨high, low⟩ := hexPair_eq_iff.mp same
          have whole : UInt8.ofNat (octet.toNat / 16 * 16 + octet.toNat % 16) = octet :=
            (ofNat_eq_iff (by omega) (by omega)).mpr ⟨rfl, rfl⟩
          rw [hexDigit?_eq_some_iff.mpr ⟨by omega, high⟩, hexDigit?_eq_some_iff.mpr ⟨by omega, low⟩]
          exact congrArg some whole
        · exact absurd rfl plain

theorem IsPair.utf8Size (pair : IsPair first second octet) :
    first.utf8Size = 1 ∧ second.utf8Size = 1 := by
  have bound := octet.toNat_lt
  cases pair with
  | digits same =>
      obtain ⟨high, low⟩ := hexPair_eq_iff.mp same
      exact ⟨utf8Size_of_digitChar (by omega) high, utf8Size_of_digitChar (by omega) low⟩
  | signed same => exact ⟨rfl, utf8Size_of_digitChar (by omega) (hexPair_eq_iff.mp same).2⟩

end

inductive Spells : List Char → Octets → Prop
  | nil : Spells [] []
  | cons {first second : Char} {octet : UInt8} {digits : List Char} {octets : Octets}
      (pair : IsPair first second octet) (behind : Spells digits octets) :
      Spells (first :: second :: digits) (octet :: octets)

/-- So many octets from the front no character is cut. -/
def IsCut (place : Nat) (text : List Char) : Prop :=
  ∃ front back, text = front ++ back ∧ (Utf8.encode front).length = place

/-- Behind some pairs the next cut falls inside a character, or there is nothing left to cut. -/
inductive BreaksOff : List Char → Prop
  | here {digits : List Char} (some : digits ≠ []) (across : ¬ IsCut 2 digits) : BreaksOff digits
  | behind {first second : Char} {octet : UInt8} {digits : List Char}
      (pair : IsPair first second octet) (later : BreaksOff digits) :
      BreaksOff (first :: second :: digits)

theorem length_encode_cons (character : Char) (text : List Char) :
    (Utf8.encode (character :: text)).length =
      character.utf8Size + (Utf8.encode text).length := by
  rw [Utf8.encode, List.flatMap_cons, List.length_append, String.length_utf8EncodeChar]
  rfl

theorem isCut_two_iff (first : Char) (text : List Char) : IsCut 2 (first :: text) ↔
    first.utf8Size = 2 ∨
      first.utf8Size = 1 ∧ ∃ second rest, text = second :: rest ∧ second.utf8Size = 1 := by
  constructor
  · rintro ⟨front, back, whole, two⟩
    match front with
    | [] => simp [Utf8.encode] at two
    | [only] =>
        obtain ⟨rfl, rfl⟩ := List.cons.inj whole
        exact .inl (by simpa [Utf8.encode] using two)
    | one :: other :: front =>
        obtain ⟨rfl, rfl⟩ := List.cons.inj whole
        have some := first.utf8Size_pos
        have more := other.utf8Size_pos
        rw [length_encode_cons, length_encode_cons] at two
        exact .inr ⟨by omega, other, front ++ back, rfl, by omega⟩
  · rintro (two | ⟨one, second, rest, rfl, other⟩)
    · exact ⟨[first], text, rfl, by simpa [Utf8.encode] using two⟩
    · refine ⟨[first, second], rest, rfl, ?_⟩
      rw [length_encode_cons, length_encode_cons, one, other]
      rfl

theorem isCut_two_cons_iff (first second : Char) (rest : List Char) :
    IsCut 2 (first :: second :: rest) ↔
      first.utf8Size = 2 ∨ first.utf8Size = 1 ∧ second.utf8Size = 1 := by
  rw [isCut_two_iff]
  refine or_congr_right (and_congr_right fun _ => ⟨?_, fun one => ⟨second, rest, rfl, one⟩⟩)
  rintro ⟨_, _, same, one⟩
  obtain ⟨rfl, -⟩ := List.cons.inj same
  exact one

theorem Spells.length_encode {digits : List Char} {octets : Octets}
    (spells : Spells digits octets) : (Utf8.encode digits).length = 2 * octets.length := by
  induction spells with
  | nil => rfl
  | cons pair behind ih =>
      obtain ⟨one, other⟩ := pair.utf8Size
      rw [length_encode_cons, length_encode_cons, ih, one, other, List.length_cons]
      omega

theorem hexPairs_eq_ok_iff (digits : List Char) (octets : Octets) :
    hexPairs digits = .ok octets ↔ Spells digits octets := by
  induction digits using hexPairs.induct generalizing octets with
  | case1 =>
      constructor
      · intro read
        obtain rfl := Except.ok.inj read
        exact .nil
      · rintro ⟨⟩
        rfl
  | case2 character => exact iff_of_false (by simp [hexPairs]) (by rintro ⟨⟩)
  | case3 first second rest wide =>
      refine iff_of_false (by simp [hexPairs, wide]) ?_
      rintro (_ | ⟨pair, _⟩)
      exact absurd pair.utf8Size.1 (by omega)
  | case4 first second rest narrow across =>
      refine iff_of_false (by simp [hexPairs, narrow, across]) ?_
      rintro (_ | ⟨pair, _⟩)
      obtain ⟨one, other⟩ := pair.utf8Size
      omega
  | case5 first second rest narrow whole bad =>
      refine iff_of_false (by simp [hexPairs, narrow, whole, bad]) ?_
      rintro (_ | ⟨pair, _⟩)
      exact absurd (hexPair?_eq_some_iff.mpr pair) (by simp [bad])
  | case6 first second rest narrow whole octet read ih =>
      rw [hexPairs, if_neg narrow, if_neg whole, read]
      constructor
      · intro all
        obtain ⟨others, behind, rfl⟩ := map_eq_ok_iff.mp all
        exact .cons (hexPair?_eq_some_iff.mp read) ((ih others).mp behind)
      · rintro (_ | ⟨pair, behind⟩)
        obtain rfl := Option.some.inj ((hexPair?_eq_some_iff.mpr pair).symm.trans read)
        exact map_eq_ok_iff.mpr ⟨_, (ih _).mpr behind, rfl⟩

theorem hexPairs_eq_inside_iff (digits : List Char) :
    hexPairs digits = .error .insideCharacter ↔ BreaksOff digits := by
  induction digits using hexPairs.induct with
  | case1 =>
      refine iff_of_false (by simp [hexPairs]) ?_
      rintro ⟨some, -⟩
      exact some rfl
  | case2 character =>
      by_cases two : character.utf8Size = 2
      · refine iff_of_false (by simp [hexPairs, two]) ?_
        rintro (⟨-, across⟩ | _)
        exact across ((isCut_two_iff _ _).mpr (.inl two))
      · refine iff_of_true (by simp [hexPairs, two]) (.here (by simp) fun cut => ?_)
        obtain none | ⟨-, second, rest, none, -⟩ := (isCut_two_iff _ _).mp cut
        · exact two none
        · simp at none
  | case3 first second rest wide =>
      refine iff_of_false (by simp [hexPairs, wide]) ?_
      rintro (⟨-, across⟩ | ⟨pair, -⟩)
      · exact across ((isCut_two_cons_iff _ _ _).mpr (.inl wide))
      · exact absurd pair.utf8Size.1 (by omega)
  | case4 first second rest narrow across =>
      refine iff_of_true (by simp [hexPairs, narrow, across]) (.here (by simp) fun cut => ?_)
      have ends := (isCut_two_cons_iff _ _ _).mp cut
      omega
  | case5 first second rest narrow whole bad =>
      refine iff_of_false (by simp [hexPairs, narrow, whole, bad]) ?_
      rintro (⟨-, across⟩ | ⟨pair, -⟩)
      · exact across ((isCut_two_cons_iff _ _ _).mpr (by omega))
      · exact absurd (hexPair?_eq_some_iff.mpr pair) (by simp [bad])
  | case6 first second rest narrow whole octet read ih =>
      have later : hexPairs (first :: second :: rest) = .error .insideCharacter ↔
          hexPairs rest = .error .insideCharacter := by
        rw [hexPairs, if_neg narrow, if_neg whole, read]
        cases hexPairs rest <;> simp [Except.map]
      rw [later, ih]
      refine ⟨.behind (hexPair?_eq_some_iff.mp read), ?_⟩
      rintro (⟨-, across⟩ | ⟨-, behind⟩)
      · exact absurd ((isCut_two_cons_iff _ _ _).mpr (by omega)) across
      · exact behind

section

variable {text : String} {octets : Octets}

def Spelled (text : String) (octets : Octets) : Prop :=
  octets ≠ [] ∧ ∃ digits, IsUnmarked text digits ∧ Spells digits octets

/-- Text on which the tool breaks off: of an even number of octets, but cut inside a character. -/
def Splits (text : String) : Prop :=
  ∃ digits, IsUnmarked text digits ∧ (Utf8.encode digits).length % 2 = 0 ∧ BreaksOff digits

theorem isUnmarked_unmarked (text : String) : IsUnmarked text (unmarked text) :=
  (unmarked_eq_iff _ _).mp rfl

theorem exists_isUnmarked_iff {holds : List Char → Prop} :
    (∃ digits, IsUnmarked text digits ∧ holds digits) ↔ holds (unmarked text) := by
  constructor
  · rintro ⟨digits, left, held⟩
    rwa [(unmarked_eq_iff _ _).mpr left]
  · exact fun held => ⟨_, isUnmarked_unmarked text, held⟩

theorem hexOctets_eq (text : String) : hexOctets text =
    if unmarked text = [] ∨ (Utf8.encode (unmarked text)).length % 2 ≠ 0 then
      .error (.unpairedDigits (String.ofList (unmarked text)))
    else hexPairs (unmarked text) := by
  have size : (String.ofList (unmarked text)).utf8ByteSize =
      (Utf8.encode (unmarked text)).length := List.size_toByteArray
  simp only [hexOctets, size, Bool.or_eq_true, List.isEmpty_iff, decide_eq_true_eq]

theorem hexOctets_eq_ok_iff : hexOctets text = .ok octets ↔ Spelled text octets := by
  rw [hexOctets_eq, Spelled, exists_isUnmarked_iff, ← hexPairs_eq_ok_iff]
  split
  · next unpaired =>
      refine iff_of_false (by simp) fun ⟨filled, read⟩ => ?_
      have spells := (hexPairs_eq_ok_iff _ _).mp read
      have even := spells.length_encode
      obtain none | odd := unpaired
      · rw [none] at spells
        cases spells
        exact filled rfl
      · exact odd (by omega)
  · next paired =>
      refine ⟨fun read => ⟨?_, read⟩, fun ⟨_, read⟩ => read⟩
      rintro rfl
      generalize unmarked text = digits at paired read
      cases (hexPairs_eq_ok_iff _ _).mp read
      exact paired (.inl rfl)

theorem hexOctets_eq_inside_iff : hexOctets text = .error .insideCharacter ↔ Splits text := by
  rw [hexOctets_eq, Splits, exists_isUnmarked_iff, ← hexPairs_eq_inside_iff]
  split
  · next unpaired =>
      refine iff_of_false (by simp) fun ⟨even, off⟩ => ?_
      obtain none | odd := unpaired
      · rw [none] at off
        simp [hexPairs] at off
      · exact odd even
  · next paired =>
      rw [not_or, not_not] at paired
      exact (and_iff_right paired.2).symm

def IsHex (text : String) (octets : Octets) : Prop :=
  octets ≠ [] ∧
    ∃ digits, IsUnmarked text digits ∧ digits.map Char.toLower = octets.flatMap Octets.hexPair

theorem toLower_eq_iff (digits : List Char) (octets : Octets) :
    digits.map Char.toLower = octets.flatMap Octets.hexPair ↔
      Spells digits octets ∧ '+' ∉ digits := by
  induction octets generalizing digits with
  | nil =>
      rw [List.flatMap_nil, List.map_eq_nil_iff]
      constructor
      · rintro rfl
        exact ⟨.nil, List.not_mem_nil⟩
      · rintro ⟨⟨⟩, -⟩
        rfl
  | cons octet octets ih =>
      have bound := octet.toNat_lt
      rw [List.flatMap_cons]
      constructor
      · intro same
        match digits with
        | [] => simp [Octets.hexPair] at same
        | [_] => simp [Octets.hexPair] at same
        | first :: second :: digits =>
            have parts : [first.toLower, second.toLower] ++ digits.map Char.toLower =
                Octets.hexPair octet ++ octets.flatMap Octets.hexPair := same
            obtain ⟨pair, behind⟩ := List.append_inj parts rfl
            obtain ⟨spells, unsigned⟩ := (ih digits).mp behind
            obtain ⟨high, low⟩ := hexPair_eq_iff.mp pair
            refine ⟨.cons (.digits pair) spells, ?_⟩
            rw [List.mem_cons, List.mem_cons]
            rintro (rfl | rfl | inside)
            · exact plus_ne_digitChar _ (by omega) high
            · exact plus_ne_digitChar _ (by omega) low
            · exact unsigned inside
      · rintro ⟨_ | ⟨pair, spells⟩, unsigned⟩
        cases pair with
        | digits same =>
            rw [List.mem_cons, List.mem_cons, not_or, not_or] at unsigned
            rw [List.map_cons, List.map_cons, (ih _).mpr ⟨spells, unsigned.2.2⟩, ← same]
            rfl
        | signed => exact absurd List.mem_cons_self unsigned

def IsSigned (text : String) : Prop :=
  ∃ digits, IsUnmarked text digits ∧ '+' ∈ digits ∧ ∃ octets, Spells digits octets

theorem isSigned_iff (spelled : Spelled text octets) : IsSigned text ↔ '+' ∈ unmarked text := by
  rw [IsSigned, exists_isUnmarked_iff]
  exact and_iff_left ⟨octets, exists_isUnmarked_iff.mp spelled.2⟩

theorem isHex_iff : IsHex text octets ↔ Spelled text octets ∧ ¬ IsSigned text := by
  have plain : IsHex text octets ↔ Spelled text octets ∧ '+' ∉ unmarked text := by
    rw [IsHex, Spelled, exists_isUnmarked_iff, exists_isUnmarked_iff, toLower_eq_iff, and_assoc]
  rw [plain]
  exact and_congr_right fun spelled => not_congr (isSigned_iff spelled).symm

theorem IsSigned.spelled (signed : IsSigned text) : ∃ octets, Spelled text octets := by
  obtain ⟨digits, left, sign, octets, spells⟩ := signed
  refine ⟨octets, fun none => ?_, digits, left, spells⟩
  subst none
  cases spells
  simp at sign

/-- Hexadecimal and nothing else is accepted, and the tool does not break off. -/
structure ReadsHex (text : String) : Prop where
  alone : ∀ octets, hexOctets text = .ok octets ↔ IsHex text octets
  whole : hexOctets text ≠ .error .insideCharacter

theorem readsHex_iff : ReadsHex text ↔ ¬ IsSigned text ∧ ¬ Splits text := by
  rw [← hexOctets_eq_inside_iff]
  constructor
  · rintro ⟨alone, whole⟩
    refine ⟨fun signed => ?_, whole⟩
    obtain ⟨octets, spelled⟩ := signed.spelled
    exact (isHex_iff.mp ((alone octets).mp (hexOctets_eq_ok_iff.mpr spelled))).2 signed
  · rintro ⟨unsigned, whole⟩
    refine ⟨fun octets => ?_, whole⟩
    rw [hexOctets_eq_ok_iff, isHex_iff]
    exact (and_iff_left unsigned).symm

/-- A plus sign is no digit and is read as a zero, and the second octet of a euro sign is not its
last. -/
theorem not_readsHex : ¬ ReadsHex "+5" ∧ ¬ ReadsHex "€5" := by
  refine ⟨fun reads => ?_, fun reads => reads.whole rfl⟩
  have hex : IsHex "+5" [0x05] := (reads.alone [0x05]).mp rfl
  exact (isHex_iff.mp hex).2 ((isSigned_iff (isHex_iff.mp hex).1).mpr (by decide))

theorem hexOctet_eq_ok_iff {octet : UInt8} :
    hexOctet text = .ok octet ↔ hexOctets text = .ok [octet] := by
  constructor
  · intro read
    obtain ⟨octets, all, single⟩ := bind_eq_ok_iff.mp read
    split at single
    · obtain rfl := Except.ok.inj single
      exact all
    · simp [throw, throwThe, MonadExceptOf.throw] at single
  · exact fun all => bind_eq_ok_iff.mpr ⟨[octet], all, rfl⟩

end

end RoadsideSnmp.Console.OptionValue
