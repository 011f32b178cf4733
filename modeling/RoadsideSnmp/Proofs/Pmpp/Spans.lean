import RoadsideSnmp.Pmpp.Splitter
import RoadsideSnmp.Proofs.Pmpp.Framing

/-! What a stream of octets is made of: noise in front of the first flag, and behind every flag a
span that reaches to the next one or, if it is the last, to the end. A call of the splitter passes
over noise and spans that are too short, and says what the first other span comes to. -/
namespace RoadsideSnmp.Pmpp

def spans (stream : Octets) : List Octets := (stream.splitOn flag).tail

def flagged (span : Octets) : Octets := flag :: span ++ [flag]

/-- What a span between two flags comes to; one that is too short comes to nothing. -/
def pieceOf? (limit : Nat) (span : Octets) : Option Piece :=
  if span.length < minBody then none
  else if limit < span.length + 2 then some .oversized
  else some (.whole (flagged span))

theorem pieceOf?_eq_none_iff (limit : Nat) (span : Octets) :
    pieceOf? limit span = none ↔ span.length < minBody := by
  unfold pieceOf?
  split
  · next short => exact iff_of_true rfl short
  · next long =>
      refine iff_of_false ?_ long
      split <;> simp

section

variable {noise span : Octets}

theorem splitOn_append_flag (bare : flag ∉ noise) (after : Octets) :
    (noise ++ flag :: after).splitOn flag = noise :: after.splitOn flag :=
  List.splitOnP_append_cons_of_forall_mem
    (fun _ inside => beq_false_of_ne (ne_flag_of_mem bare inside)) flag (beq_self_eq_true flag) after

theorem splitOn_of_notMem (bare : flag ∉ noise) : noise.splitOn flag = [noise] :=
  List.splitOnP_eq_singleton fun _ inside => beq_false_of_ne (ne_flag_of_mem bare inside)

theorem spans_of_notMem (bare : flag ∉ noise) : spans noise = [] := by
  rw [spans, splitOn_of_notMem bare, List.tail_cons]

theorem spans_append_flag (bare : flag ∉ noise) (after : Octets) :
    spans (noise ++ flag :: after) = after.splitOn flag := by
  rw [spans, splitOn_append_flag bare, List.tail_cons]

theorem spans_flag (after : Octets) : spans (flag :: after) = after.splitOn flag :=
  spans_append_flag List.not_mem_nil after

theorem spans_append (bare : flag ∉ noise) (stream : Octets) :
    spans (noise ++ stream) = spans stream := by
  by_cases inside : flag ∈ stream
  · obtain ⟨front, after, rfl, plain⟩ := List.eq_append_cons_of_mem inside
    have both : flag ∉ noise ++ front := by simp [bare, plain]
    rw [← List.append_assoc, spans_append_flag both, spans_append_flag plain]
  · have both : flag ∉ noise ++ stream := by simp [bare, inside]
    rw [spans_of_notMem both, spans_of_notMem inside]

theorem spans_open (bare : flag ∉ span) : spans (flag :: span) = [span] := by
  rw [spans_flag, splitOn_of_notMem bare]

theorem spans_closed (bare : flag ∉ span) (after : Octets) :
    spans (flag :: (span ++ flag :: after)) = span :: spans (flag :: after) := by
  rw [spans_flag, spans_flag, splitOn_append_flag bare]

theorem spans_flag_ne_nil (after : Octets) : spans (flag :: after) ≠ [] := by
  rw [spans_flag]
  exact List.splitOnP_ne_nil _ after

/-- A stream is noise, or noise and a span that no flag has closed, or noise and a closed span
with more behind it. -/
theorem stream_induction {Holds : Octets → Prop}
    (bare : ∀ noise, flag ∉ noise → Holds noise)
    (unclosed : ∀ noise span, flag ∉ noise → flag ∉ span → Holds (noise ++ flag :: span))
    (closed : ∀ noise span after, flag ∉ noise → flag ∉ span → Holds (flag :: after) →
      Holds (noise ++ flag :: (span ++ flag :: after)))
    (stream : Octets) : Holds stream := by
  -- on the length: what follows a closed span is shorter by the span and its first flag
  induction length : stream.length using Nat.strongRecOn generalizing stream with
  | _ _ ih =>
    subst length
    by_cases inside : flag ∈ stream
    · obtain ⟨noise, rest, rfl, plain⟩ := List.eq_append_cons_of_mem inside
      by_cases ends : flag ∈ rest
      · obtain ⟨span, after, rfl, body⟩ := List.eq_append_cons_of_mem ends
        refine closed noise span after plain body (ih _ ?_ _ rfl)
        simp only [List.length_append, List.length_cons]
        omega
      · exact unclosed noise rest plain ends
    · exact bare stream inside

end

namespace Splitter

variable {limit : Nat} {noise span : Octets}

theorem fromFlag_append (bare : flag ∉ noise) (stream : Octets) :
    fromFlag (noise ++ stream) = fromFlag stream :=
  List.dropWhile_append_of_pos fun _ inside => decide_eq_true (ne_flag_of_mem bare inside)

theorem fromFlag_of_notMem (bare : flag ∉ noise) : fromFlag noise = [] := by
  have whole := fromFlag_append bare []
  rwa [List.append_nil] at whole

theorem fromFlag_append_flag (bare : flag ∉ noise) (after : Octets) :
    fromFlag (noise ++ flag :: after) = flag :: after := by
  rw [fromFlag_append bare, fromFlag, List.dropWhile_cons_of_neg (by simp)]

theorem takeWhile_of_notMem (plain : flag ∉ span) : span.takeWhile (· ≠ flag) = span := by
  simpa using takeWhile_append plain []

theorem next_of_notMem (bare : flag ∉ noise) : next limit noise = (none, []) := by
  rw [next]
  split
  · rfl
  · next opened => simp [fromFlag_of_notMem bare] at opened

theorem next_unclosed (bare : flag ∉ noise) (plain : flag ∉ span) :
    next limit (noise ++ flag :: span) =
      if limit < span.length + 1 then (some .oversized, []) else (none, flag :: span) := by
  rw [next]
  split
  · next opened => simp [fromFlag_append_flag bare] at opened
  · next opened =>
      rw [fromFlag_append_flag bare] at opened
      obtain ⟨rfl, rfl⟩ := List.cons.inj opened
      dsimp only
      split
      · rw [takeWhile_of_notMem plain]
      · next closed => simp [fromFlag_of_notMem plain] at closed

theorem next_closed (bare : flag ∉ noise) (plain : flag ∉ span) (after : Octets) :
    next limit (noise ++ flag :: (span ++ flag :: after)) =
      match pieceOf? limit span with
      | none => next limit (flag :: after)
      | some piece => (some piece, flag :: after) := by
  rw [next]
  split
  · next opened => simp [fromFlag_append_flag bare] at opened
  · next opened =>
      rw [fromFlag_append_flag bare] at opened
      obtain ⟨rfl, rfl⟩ := List.cons.inj opened
      dsimp only
      split
      · next closed => simp [fromFlag_append_flag plain] at closed
      · next closed =>
          rw [fromFlag_append_flag plain] at closed
          obtain ⟨rfl, rfl⟩ := List.cons.inj closed
          rw [takeWhile_append_flag plain, pieceOf?]
          split
          · rfl
          split <;> rfl

end Splitter
end RoadsideSnmp.Pmpp
