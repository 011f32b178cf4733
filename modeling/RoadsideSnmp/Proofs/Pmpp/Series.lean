import RoadsideSnmp.Proofs.Pmpp.Reception

/-! Streams that are nothing but frames, one behind the other, with a flag between two of them or
with two. On such a stream, and on all parts of it, the splitter drops nothing but noise and keeps
the last flag that it has seen. -/
namespace RoadsideSnmp.Pmpp

/-- A body, as it is sent, that a splitter takes for a frame. -/
structure Fits (limit : Nat) (body : Octets) : Prop where
  plain : flag ∉ body
  enough : minBody ≤ body.length
  short : body.length + 2 ≤ limit

/-- Nothing but frames with these bodies. A flag between two of them may belong to both. -/
inductive Series (limit : Nat) : List Octets → Octets → Prop
  | none : Series limit [] []
  | separate {body : Octets} {bodies : List Octets} {stream : Octets} (fits : Fits limit body)
      (more : Series limit bodies stream) : Series limit (body :: bodies) (flagged body ++ stream)
  | shared {body : Octets} {bodies : List Octets} {after : Octets} (fits : Fits limit body)
      (more : Series limit bodies (flag :: after)) :
      Series limit (body :: bodies) (flag :: body ++ flag :: after)

def Calm (limit : Nat) (stream : Octets) : Prop :=
  ∀ span, flag ∉ span → flag :: span <:+: stream → span.length + 2 ≤ limit

section

variable {limit : Nat} {noise body span stream : Octets} {bodies : List Octets}

theorem Calm.part (calm : Calm limit stream) {piece : Octets} (among : piece <:+: stream) :
    Calm limit piece :=
  fun span plain inside => calm span plain (inside.trans among)

theorem Calm.of_notMem (bare : flag ∉ noise) : Calm limit noise :=
  fun _ _ inside => absurd (inside.subset List.mem_cons_self) bare

theorem opened_among (bare : flag ∉ noise) (inside : flag :: span <:+: noise ++ stream) :
    flag :: span <:+: stream := by
  induction noise with
  | nil => exact inside
  | cons octet noise ih =>
      obtain ⟨other, plain⟩ := not_or.mp (mt List.mem_cons.mpr bare)
      obtain start | later := List.infix_cons_iff.mp inside
      · exact absurd (List.cons_prefix_cons.mp start).1 other
      · exact ih plain later

theorem Calm.append (bare : flag ∉ noise) (calm : Calm limit stream) :
    Calm limit (noise ++ stream) :=
  fun span plain inside => calm span plain (opened_among bare inside)

theorem Calm.closed (plain : flag ∉ body) (short : body.length + 2 ≤ limit) {after : Octets}
    (calm : Calm limit (flag :: after)) : Calm limit (flag :: (body ++ flag :: after)) := by
  intro span bare inside
  obtain start | later := List.infix_cons_iff.mp inside
  · have front : span <+: body ++ flag :: after := (List.cons_prefix_cons.mp start).2
    have ends : body ++ [flag] <+: body ++ flag :: after := ⟨after, by simp⟩
    have within : span.length ≤ body.length := by
      refine Nat.le_of_not_lt fun longer => ?_
      have through := List.prefix_of_prefix_length_le ends front (by simp; omega)
      exact bare (through.subset (by simp))
    exact Nat.le_trans (Nat.add_le_add_right within 2) short
  · exact calm span bare (opened_among plain later)

namespace Fits

theorem piece (fits : Fits limit body) : pieceOf? limit body = some (.whole (flagged body)) := by
  rw [pieceOf?, if_neg (Nat.not_lt.mpr fits.enough), if_neg (Nat.not_lt.mpr fits.short)]

theorem acceptable (fits : Fits limit body) (after : Octets) :
    acceptable limit (flag :: (body ++ flag :: after)) =
      flagged body :: acceptable limit (flag :: after) := by
  rw [acceptable_closed fits.plain, fits.piece]
  rfl

end Fits

theorem flagged_append (body stream : Octets) :
    flagged body ++ stream = flag :: (body ++ flag :: stream) := by
  simp [flagged]

namespace Series

theorem eq_nil_or_flag (series : Series limit bodies stream) :
    stream = [] ∨ ∃ after, stream = flag :: after := by
  cases series with
  | none => exact .inl rfl
  | separate fits more => exact .inr ⟨_, rfl⟩
  | shared fits more => exact .inr ⟨_, rfl⟩

theorem flag_mem_iff (series : Series limit bodies stream) : flag ∈ stream ↔ bodies ≠ [] := by
  cases series with
  | none => simp
  | separate => simp [flagged]
  | shared => simp

theorem acceptable_flag (series : Series limit bodies stream) :
    acceptable limit (flag :: stream) = acceptable limit stream := by
  obtain rfl | ⟨after, rfl⟩ := series.eq_nil_or_flag
  · rfl
  · exact acceptable_closed List.not_mem_nil after

theorem acceptable (series : Series limit bodies stream) :
    acceptable limit stream = bodies.map flagged := by
  induction series with
  | none => rfl
  | separate fits more ih =>
      rw [List.map_cons, ← ih, flagged_append, fits.acceptable, more.acceptable_flag]
  | shared fits more ih => rw [List.map_cons, ← ih, List.cons_append, fits.acceptable]

theorem calm_flag (series : Series limit bodies stream) (roomy : 2 ≤ limit)
    (calm : Calm limit stream) : Calm limit (flag :: stream) := by
  obtain rfl | ⟨after, rfl⟩ := series.eq_nil_or_flag
  · intro span _ inside
    have length := inside.length_le
    simp only [List.length_cons, List.length_nil] at length
    omega
  · exact .closed List.not_mem_nil roomy calm

theorem calm (series : Series limit bodies stream) : Calm limit stream := by
  induction series with
  | none => exact .of_notMem List.not_mem_nil
  | separate fits more ih =>
      have roomy : 2 ≤ limit := Nat.le_of_add_left_le fits.short
      rw [flagged_append]
      exact .closed fits.plain fits.short (more.calm_flag roomy ih)
  | shared fits more ih => exact .closed fits.plain fits.short ih

end Series

/-- Part of a stream is dropped from its front, but never its last flag. -/
structure Kept (stream rest : Octets) : Prop where
  suffix : rest <:+ stream
  flagged : flag ∈ stream → flag ∈ rest

namespace Kept

variable {rest later : Octets}

theorem refl (stream : Octets) : Kept stream stream := ⟨List.suffix_rfl, id⟩

theorem trans (first : Kept stream rest) (second : Kept rest later) : Kept stream later :=
  ⟨second.suffix.trans first.suffix, second.flagged ∘ first.flagged⟩

theorem append (kept : Kept stream rest) (more : Octets) :
    Kept (stream ++ more) (rest ++ more) where
  suffix := by
    obtain ⟨front, rfl⟩ := kept.suffix
    exact ⟨front, (List.append_assoc ..).symm⟩
  flagged inside := List.mem_append.mpr ((List.mem_append.mp inside).imp_left kept.flagged)

theorem flag_mem_iff (kept : Kept stream rest) : flag ∈ rest ↔ flag ∈ stream :=
  ⟨fun inside => kept.suffix.subset inside, kept.flagged⟩

theorem calm (kept : Kept stream rest) (calm : Calm limit stream) : Calm limit rest :=
  calm.part kept.suffix.isInfix

end Kept

theorem pieceOf?_ne_oversized (short : span.length + 2 ≤ limit) :
    pieceOf? limit span ≠ some .oversized := by
  rw [pieceOf?, if_neg (Nat.not_lt.mpr short)]
  split <;> simp

namespace Splitter

theorem next_of_calm {buffer : Octets} (calm : Calm limit buffer) :
    (next limit buffer).1 ≠ some .oversized ∧ Kept buffer (next limit buffer).2 := by
  induction buffer using stream_induction with
  | bare noise bare =>
      rw [next_of_notMem bare]
      exact ⟨by simp, List.nil_suffix, fun inside => absurd inside bare⟩
  | unclosed noise span bare plain =>
      have short := calm span plain (List.suffix_append noise _).isInfix
      rw [next_unclosed bare plain, if_neg (by omega)]
      exact ⟨by simp, List.suffix_append noise _, fun _ => List.mem_cons_self⟩
  | closed noise span after bare plain ih =>
      have tail : flag :: after <:+ noise ++ flag :: (span ++ flag :: after) :=
        ⟨noise ++ flag :: span, by simp⟩
      have short := calm span plain ⟨noise, flag :: after, by simp⟩
      rw [next_closed bare plain]
      cases judged : pieceOf? limit span with
      | none =>
          obtain ⟨taken, kept⟩ := ih (calm.part tail.isInfix)
          exact ⟨taken, kept.suffix.trans tail, fun _ => kept.flagged List.mem_cons_self⟩
      | some piece =>
          have taken := judged ▸ pieceOf?_ne_oversized short
          exact ⟨taken, tail, fun _ => List.mem_cons_self⟩

theorem flag_mem_of_dry {buffer rest : Octets} (dry : next limit buffer = (none, rest))
    (left : rest ≠ []) : flag ∈ buffer := by
  refine Decidable.byContradiction fun bare => ?_
  rw [next_of_notMem bare] at dry
  exact left (Prod.mk.inj dry).2.symm

end Splitter

end

end RoadsideSnmp.Pmpp
