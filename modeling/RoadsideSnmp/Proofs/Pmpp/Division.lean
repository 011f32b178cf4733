import RoadsideSnmp.Proofs.Pmpp.Spans

/-! A stream may reach the splitter in any pieces. What its calls give and what they leave in the
buffer depends on the stream alone: the closed spans one after another, and the last span either
kept behind its flag or, once it is longer than any frame, told of and dropped. -/
namespace RoadsideSnmp.Pmpp

/-- What a stream comes to at its flags, and what of it waits for a flag that is still to come. -/
def divide (limit : Nat) (stream : Octets) : List Piece × Octets :=
  let closed := (spans stream).dropLast.filterMap (pieceOf? limit)
  match (spans stream).getLast? with
  | none => ([], [])
  | some last =>
      if limit < last.length + 1 then (closed ++ [.oversized], []) else (closed, flag :: last)

section

variable {limit : Nat} {noise span : Octets}

theorem divide_of_notMem (bare : flag ∉ noise) : divide limit noise = ([], []) := by
  rw [divide, spans_of_notMem bare]
  rfl

theorem divide_append (bare : flag ∉ noise) (stream : Octets) :
    divide limit (noise ++ stream) = divide limit stream := by
  rw [divide, divide, spans_append bare]

theorem divide_open (plain : flag ∉ span) :
    divide limit (flag :: span) =
      if limit < span.length + 1 then ([.oversized], []) else ([], flag :: span) := by
  rw [divide, spans_open plain]
  rfl

theorem divide_closed (plain : flag ∉ span) (after : Octets) :
    divide limit (flag :: (span ++ flag :: after)) =
      ((pieceOf? limit span).toList ++ (divide limit (flag :: after)).1,
        (divide limit (flag :: after)).2) := by
  have more := spans_flag_ne_nil after
  obtain ⟨last, ends⟩ := Option.ne_none_iff_exists'.mp (mt List.getLast?_eq_none_iff.mp more)
  have same : (span :: spans (flag :: after)).getLast? = some last := by
    rw [List.getLast?_cons, ends, Option.getD_some]
  have front : (span :: (spans (flag :: after)).dropLast).filterMap (pieceOf? limit) =
      (pieceOf? limit span).toList ++ (spans (flag :: after)).dropLast.filterMap (pieceOf? limit) := by
    cases judged : pieceOf? limit span with
    | none => rw [List.filterMap_cons_none judged, Option.toList_none, List.nil_append]
    | some piece => rw [List.filterMap_cons_some judged, Option.toList_some, List.singleton_append]
  simp only [divide, spans_closed plain, List.dropLast_cons_of_ne_nil more, same, ends, front]
  split
  · rw [List.append_assoc]
  · rfl

theorem divide_overlong (large : minBody ≤ limit) (plain : flag ∉ span)
    (long : limit < span.length + 1) (chunk : Octets) :
    divide limit (flag :: (span ++ chunk)) =
      (.oversized :: (divide limit chunk).1, (divide limit chunk).2) := by
  by_cases inside : flag ∈ chunk
  · obtain ⟨front, after, rfl, bare⟩ := List.eq_append_cons_of_mem inside
    have both : flag ∉ span ++ front := by simp [plain, bare]
    have judged : pieceOf? limit (span ++ front) = some .oversized := by
      rw [pieceOf?, if_neg, if_pos]
      all_goals
        rw [List.length_append]
        omega
    rw [← List.append_assoc, divide_closed both, judged, divide_append bare]
    rfl
  · have both : flag ∉ span ++ chunk := by simp [plain, inside]
    rw [divide_open both, if_pos, divide_of_notMem inside]
    rw [List.length_append]
    omega

theorem divide_append_chunk (large : minBody ≤ limit) (stream chunk : Octets) :
    divide limit (stream ++ chunk) =
      ((divide limit stream).1 ++ (divide limit ((divide limit stream).2 ++ chunk)).1,
        (divide limit ((divide limit stream).2 ++ chunk)).2) := by
  induction stream using stream_induction with
  | bare noise bare => simp [divide_of_notMem bare, divide_append bare]
  | unclosed noise span bare plain =>
      rw [List.append_assoc, divide_append bare, divide_append bare, divide_open plain]
      split
      · next long => exact divide_overlong large plain long chunk
      · rfl
  | closed noise span after bare plain ih =>
      rw [List.append_assoc, divide_append bare, divide_append bare, divide_closed plain,
        List.cons_append, List.append_assoc, List.cons_append, divide_closed plain, ← List.cons_append,
        ih, List.append_assoc]

end

namespace Splitter

variable {limit : Nat} {buffer chunk rest between : Octets} {chunks : List Octets}
  {pieces others : List Piece}

/-- The calls on a buffer up to one that gives nothing: what they give and what they leave. -/
inductive Drains (limit : Nat) : Octets → List Piece → Octets → Prop
  | dry {buffer rest : Octets} (last : next limit buffer = (none, rest)) :
      Drains limit buffer [] rest
  | gives {buffer between rest : Octets} {piece : Piece} {pieces : List Piece}
      (first : next limit buffer = (some piece, between))
      (others : Drains limit between pieces rest) : Drains limit buffer (piece :: pieces) rest

/-- Chunks put behind what is buffered, one after another, and after each the calls up to one that
gives nothing. -/
inductive Takes (limit : Nat) : Octets → List Octets → List Piece → Octets → Prop
  | nil (buffer : Octets) : Takes limit buffer [] [] buffer
  | cons {buffer chunk between rest : Octets} {chunks : List Octets} {pieces others : List Piece}
      (first : Drains limit (buffer ++ chunk) pieces between)
      (later : Takes limit between chunks others rest) :
      Takes limit buffer (chunk :: chunks) (pieces ++ others) rest

theorem Drains.unique (one : Drains limit buffer pieces rest) {otherRest : Octets}
    (two : Drains limit buffer others otherRest) : pieces = others ∧ rest = otherRest := by
  induction one generalizing others with
  | dry last =>
      cases two with
      | dry same => exact ⟨rfl, (Prod.mk.inj (last.symm.trans same)).2⟩
      | gives first => simp [last] at first
  | gives first _ ih =>
      cases two with
      | dry last => simp [first] at last
      | gives same later =>
          obtain ⟨piece, rfl⟩ := Prod.mk.inj (first.symm.trans same)
          obtain ⟨rfl, rfl⟩ := ih later
          exact ⟨by rw [Option.some.inj piece], rfl⟩

theorem Takes.unique (one : Takes limit buffer chunks pieces rest) {otherRest : Octets}
    (two : Takes limit buffer chunks others otherRest) : pieces = others ∧ rest = otherRest := by
  induction one generalizing others with
  | nil =>
      cases two
      exact ⟨rfl, rfl⟩
  | cons first _ ih =>
      cases two with
      | cons same later =>
          obtain ⟨rfl, rfl⟩ := first.unique same
          obtain ⟨rfl, rfl⟩ := ih later
          exact ⟨rfl, rfl⟩

theorem Drains.congr {other : Octets} (drains : Drains limit other pieces rest)
    (same : next limit buffer = next limit other) : Drains limit buffer pieces rest := by
  cases drains with
  | dry last => exact .dry (same.trans last)
  | gives first later => exact .gives (same.trans first) later

theorem drains_divide (limit : Nat) (buffer : Octets) :
    Drains limit buffer (divide limit buffer).1 (divide limit buffer).2 := by
  induction buffer using stream_induction with
  | bare noise bare =>
      rw [divide_of_notMem bare]
      exact .dry (next_of_notMem bare)
  | unclosed noise span bare plain =>
      have call : next limit (noise ++ flag :: span) = _ := next_unclosed bare plain
      rw [divide_append bare, divide_open plain]
      split
      · next long =>
          rw [if_pos long] at call
          exact .gives call (.dry (next_of_notMem List.not_mem_nil))
      · next fits =>
          rw [if_neg fits] at call
          exact .dry call
  | closed noise span after bare plain ih =>
      have call : next limit (noise ++ flag :: (span ++ flag :: after)) = _ :=
        next_closed bare plain after
      rw [divide_append bare, divide_closed plain]
      cases judged : pieceOf? limit span with
      | some piece =>
          rw [judged] at call
          exact .gives call ih
      | none =>
          rw [judged] at call
          exact ih.congr call

theorem exists_takes (large : minBody ≤ limit) (stream : Octets) (chunks : List Octets) :
    ∃ pieces rest, Takes limit (divide limit stream).2 chunks pieces rest ∧
      divide limit (stream ++ chunks.flatten) = ((divide limit stream).1 ++ pieces, rest) := by
  induction chunks generalizing stream with
  | nil => exact ⟨[], _, .nil _, by simp⟩
  | cons chunk chunks ih =>
      obtain ⟨pieces, rest, later, whole⟩ := ih (stream ++ chunk)
      rw [divide_append_chunk large stream chunk] at later whole
      refine ⟨_, rest, .cons (drains_divide limit ((divide limit stream).2 ++ chunk)) later, ?_⟩
      rw [List.flatten_cons, ← List.append_assoc, whole, List.append_assoc]

/-- However a stream is cut into chunks, the calls after each of them come to an end, and they give
and leave just what the stream divides into as a whole. -/
theorem takes_iff (large : minBody ≤ limit) :
    Takes limit [] chunks pieces rest ↔ (pieces, rest) = divide limit chunks.flatten := by
  have empty : divide limit [] = ([], []) := divide_of_notMem List.not_mem_nil
  obtain ⟨given, left, takes, whole⟩ := exists_takes large [] chunks
  rw [empty] at takes whole
  rw [List.nil_append, List.nil_append] at whole
  rw [whole]
  constructor
  · intro other
    obtain ⟨rfl, rfl⟩ := other.unique takes
    rfl
  · intro same
    obtain ⟨rfl, rfl⟩ := Prod.mk.inj same
    exact takes

theorem takes_iff_cutStream : minBody ≤ 8 ∧
    Takes 8 [] [[1, flag, 2, 3], [4, 5, 6, flag, 7, 8, flag, 1, 2, 3, 4, 5, 6, 7, 8], [9, 9], [flag, 1]]
      [.whole [flag, 2, 3, 4, 5, 6, flag], .oversized] [flag, 1] :=
  ⟨by decide, (takes_iff (by decide)).mpr (by decide)⟩

end Splitter
end RoadsideSnmp.Pmpp
