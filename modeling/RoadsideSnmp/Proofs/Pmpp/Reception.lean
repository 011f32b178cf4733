import RoadsideSnmp.Pmpp.Link
import RoadsideSnmp.Proofs.Pmpp.Spans

/-! What one receive on a link can be. Whatever it reports, the frames that it gives and those that
can still be found in the buffer and on the wire are the ones that could be found before. -/
namespace RoadsideSnmp.Pmpp

/-- The frames in a stream, with their flags: its closed spans that are neither too short nor too
long. -/
def acceptable (limit : Nat) (stream : Octets) : List Octets :=
  ((spans stream).dropLast.filter fun span =>
    minBody ≤ span.length ∧ span.length + 2 ≤ limit).map flagged

def Piece.frame? : Piece → Option Octets
  | .whole octets => some octets
  | .oversized => none

section

variable {limit : Nat} {noise span stream : Octets}

theorem acceptable_of_notMem (bare : flag ∉ noise) : acceptable limit noise = [] := by
  rw [acceptable, spans_of_notMem bare]
  rfl

theorem acceptable_append (bare : flag ∉ noise) (stream : Octets) :
    acceptable limit (noise ++ stream) = acceptable limit stream := by
  rw [acceptable, acceptable, spans_append bare]

theorem acceptable_open (plain : flag ∉ span) : acceptable limit (flag :: span) = [] := by
  rw [acceptable, spans_open plain]
  rfl

theorem acceptable_closed (plain : flag ∉ span) (after : Octets) :
    acceptable limit (flag :: (span ++ flag :: after)) =
      ((pieceOf? limit span).bind Piece.frame?).toList ++ acceptable limit (flag :: after) := by
  have more := spans_flag_ne_nil after
  rw [acceptable, acceptable, spans_closed plain, List.dropLast_cons_of_ne_nil more, pieceOf?]
  split
  · next short => simp [Nat.not_le.mpr short]
  · next enough =>
      split
      · next long => simp [Nat.not_le.mpr long, Piece.frame?]
      · next fits => simp [Nat.not_lt.mp enough, Nat.not_lt.mp fits, Piece.frame?]

theorem acceptable_overlong (plain : flag ∉ span) (long : limit < span.length + 1)
    (chunk : Octets) :
    acceptable limit (flag :: (span ++ chunk)) = acceptable limit chunk := by
  by_cases inside : flag ∈ chunk
  · obtain ⟨front, after, rfl, bare⟩ := List.eq_append_cons_of_mem inside
    have both : flag ∉ span ++ front := by simp [plain, bare]
    have judged : (pieceOf? limit (span ++ front)).bind Piece.frame? = none := by
      rw [pieceOf?]
      split
      · rfl
      · rw [if_pos]
        · rfl
        · rw [List.length_append]
          omega
    rw [← List.append_assoc, acceptable_closed both, judged, acceptable_append bare]
    rfl
  · have both : flag ∉ span ++ chunk := by simp [plain, inside]
    rw [acceptable_open both, acceptable_of_notMem inside]

end

namespace Splitter

theorem acceptable_next (limit : Nat) (buffer wire : Octets) :
    acceptable limit (buffer ++ wire) =
      ((next limit buffer).1.bind Piece.frame?).toList ++
        acceptable limit ((next limit buffer).2 ++ wire) := by
  induction buffer using stream_induction with
  | bare noise bare =>
      rw [next_of_notMem bare, acceptable_append bare]
      rfl
  | unclosed noise span bare plain =>
      rw [next_unclosed bare plain, List.append_assoc, acceptable_append bare]
      split
      · next long => exact acceptable_overlong plain long wire
      · rfl
  | closed noise span after bare plain ih =>
      rw [next_closed bare plain, List.append_assoc, acceptable_append bare, List.cons_append,
        List.append_assoc, List.cons_append, acceptable_closed plain]
      cases judged : pieceOf? limit span with
      | none => exact ih
      | some piece => rfl

theorem acceptable_of_dry {limit : Nat} {buffer rest : Octets}
    (dry : next limit buffer = (none, rest)) : acceptable limit rest = [] := by
  induction buffer using stream_induction with
  | bare noise bare =>
      rw [next_of_notMem bare] at dry
      obtain rfl := (Prod.mk.inj dry).2
      exact acceptable_of_notMem List.not_mem_nil
  | unclosed noise span bare plain =>
      rw [next_unclosed bare plain] at dry
      split at dry
      · simp at dry
      · obtain rfl := (Prod.mk.inj dry).2
        exact acceptable_open plain
  | closed noise span after bare plain ih =>
      rw [next_closed bare plain] at dry
      cases judged : pieceOf? limit span with
      | none =>
          rw [judged] at dry
          exact ih dry
      | some piece => simp [judged] at dry

end Splitter

def Receipt.frame? : Receipt → Option Octets
  | .frame octets => some octets
  | .pending | .fault _ => none

namespace Link

/-- The frames that will be found in what was sent and has not been split, with more behind it. -/
def held (link : Link) (more : Octets) : List Octets :=
  acceptable link.limit (link.buffer ++ (link.wire ++ more))

/-- One receive: what it depends on and what it changes. -/
inductive Turn (link : Link) : Receipt → Link → Prop
  /-- The receive after a fault. -/
  | resume (failed : link.phase = .failed) :
      Turn link (.fault .closed) { link with phase := .reading }
  /-- The buffer is not looked at again before something arrives. -/
  | idle (isOpen : link.isOpen = true) (reading : link.phase = .reading) (empty : link.wire = []) :
      Turn link .pending link
  | dry {buffer : Octets} (isOpen : link.isOpen = true) (left : acceptable link.limit buffer = [])
      (same : ∀ more, link.held more = acceptable link.limit (buffer ++ more)) :
      Turn link .pending { link with buffer, wire := [], phase := .reading, ended := false }
  | frame {octets buffer wire : Octets} {ended : Bool} (going : link.isOpen = true → ended = false)
      (first : ∀ more, link.held more = octets :: acceptable link.limit (buffer ++ (wire ++ more))) :
      Turn link (.frame octets) { link with buffer, wire, phase := .splitting, ended }
  | oversized {buffer wire : Octets} {ended : Bool} (going : link.isOpen = true → ended = false)
      (same : ∀ more, link.held more = acceptable link.limit (buffer ++ (wire ++ more))) :
      Turn link (.fault .oversizedFrame) { link with buffer, wire, phase := .failed, ended }
  | abandoned {fault : LinkFault} {buffer wire : Octets} {phase : LinkPhase} {ended : Bool}
      (gone : link.isOpen = false)
      (same : ∀ more, link.held more = acceptable link.limit (buffer ++ (wire ++ more))) :
      Turn link (.fault fault) { link with buffer, wire, phase, ended }

variable {link : Link} {buffer wire : Octets} {phase : LinkPhase}

theorem deliver_turn {piece : Piece} {ended : Bool} (going : link.isOpen = true → ended = false)
    (first : ∀ more, link.held more =
      piece.frame?.toList ++ acceptable link.limit (buffer ++ (wire ++ more))) :
    Turn link (deliver piece { link with buffer, wire, phase, ended }).1
      (deliver piece { link with buffer, wire, phase := .splitting, ended }).2 := by
  cases piece with
  | whole octets => exact .frame going first
  | oversized => exact .oversized going first

theorem conclude_turn {ended : Bool} (gone : link.isOpen = false)
    (same : ∀ more, link.held more = acceptable link.limit (buffer ++ (wire ++ more))) :
    Turn link (conclude { link with buffer, wire, phase := .splitting, ended }).1
      (conclude { link with buffer, wire, phase := .splitting, ended }).2 := by
  have account (more : Octets) := (same more).trans (Splitter.acceptable_next _ buffer _)
  unfold conclude Splitter.last
  dsimp only
  obtain ⟨piece, rest, call⟩ : ∃ piece rest, Splitter.next link.limit buffer = (piece, rest) :=
    ⟨_, _, rfl⟩
  rw [call] at account ⊢
  cases piece with
  | some piece => exact deliver_turn (by simp [gone]) account
  | none =>
      dsimp only
      cases rest.isEmpty
      · exact .abandoned gone account
      · exact .abandoned gone account

theorem starve_turn (left : acceptable link.limit buffer = [])
    (same : ∀ more, link.held more = acceptable link.limit (buffer ++ more)) :
    Turn link (starve { link with buffer, wire := [], phase := .reading, ended := false }).1
      (starve { link with buffer, wire := [], phase := .reading, ended := false }).2 := by
  unfold starve
  dsimp only
  split
  · next isOpen => exact .dry isOpen left same
  · next gone => exact conclude_turn ((Bool.not_eq_true _).mp gone) same

theorem split_turn (same : ∀ more, link.held more = acceptable link.limit (buffer ++ more)) :
    Turn link (split starve { link with buffer, wire := [], phase, ended := false }).1
      (split starve { link with buffer, wire := [], phase, ended := false }).2 := by
  have account (more : Octets) := (same more).trans (Splitter.acceptable_next _ buffer more)
  unfold split
  dsimp only
  obtain ⟨piece, rest, call⟩ : ∃ piece rest, Splitter.next link.limit buffer = (piece, rest) :=
    ⟨_, _, rfl⟩
  rw [call] at account ⊢
  cases piece with
  | some piece => exact deliver_turn (fun _ => rfl) account
  | none => exact starve_turn (Splitter.acceptable_of_dry call) account

theorem read_turn (reading : link.phase = .reading) : Turn link link.read.1 link.read.2 := by
  unfold read
  split
  · next empty =>
      unfold starve
      split
      · next isOpen => exact .idle isOpen reading (List.isEmpty_iff.mp empty)
      · next gone =>
          have closed := (Bool.not_eq_true _).mp gone
          split
          · exact .abandoned closed fun _ => rfl
          · exact conclude_turn closed fun _ => rfl
  · exact split_turn fun more => by rw [held, List.append_assoc]

theorem receive_turn (going : link.isOpen = true → link.ended = false) :
    Turn link link.receive.1 link.receive.2 := by
  unfold receive
  cases phase : link.phase with
  | failed => exact .resume phase
  | reading => exact read_turn phase
  | splitting =>
      dsimp only
      split
      · next ended =>
          have gone : link.isOpen = false := by
            cases isOpen : link.isOpen with
            | false => rfl
            | true => simp [going isOpen] at ended
          have same : { link with phase := .splitting } = link := by rw [← phase]
          rw [← same]
          exact conclude_turn gone fun _ => rfl
      · next unended =>
          have account (more : Octets) :=
            Splitter.acceptable_next link.limit link.buffer (link.wire ++ more)
          unfold split
          obtain ⟨piece, rest, call⟩ :
              ∃ piece rest, Splitter.next link.limit link.buffer = (piece, rest) := ⟨_, _, rfl⟩
          rw [call] at account ⊢
          cases piece with
          | some piece => exact deliver_turn going account
          | none =>
              -- nothing in the buffer alone; what waits on the wire may close a span in it
              dsimp only
              unfold read
              dsimp only
              split
              · next empty =>
                  have none := List.isEmpty_iff.mp empty
                  have same : { link with buffer := rest, phase := .reading } =
                      { link with
                        buffer := rest, wire := [], phase := .reading, ended := false } := by
                    rw [← none, ← (Bool.not_eq_true _).mp unended]
                  rw [same]
                  refine starve_turn (Splitter.acceptable_of_dry call) fun more => ?_
                  rw [held, account, none]
                  rfl
              · refine split_turn fun more => (account more).trans ?_
                rw [← List.append_assoc]
                rfl

namespace Turn

variable {receipt : Receipt} {next : Link}

theorem same (turn : Turn link receipt next) :
    next.limit = link.limit ∧ next.isOpen = link.isOpen := by
  cases turn <;> exact ⟨rfl, rfl⟩

theorem going (turn : Turn link receipt next) (going : link.isOpen = true → link.ended = false) :
    next.isOpen = true → next.ended = false := by
  cases turn with
  | resume => exact going
  | idle => exact going
  | dry => exact fun _ => rfl
  | frame going => exact going
  | oversized going => exact going
  | abandoned gone => simp [gone]

/-- The frames that were to be found are still to be found, but for the one that was received. -/
theorem held (turn : Turn link receipt next) (more : Octets) :
    link.held more = receipt.frame?.toList ++ next.held more := by
  cases turn with
  | resume => rfl
  | idle => rfl
  | dry _ _ same => exact same more
  | frame _ first => exact first more
  | oversized _ same => exact same more
  | abandoned _ same => exact same more

theorem failed_iff (turn : Turn link receipt next) (isOpen : link.isOpen = true) :
    next.phase = .failed ↔ receipt = .fault .oversizedFrame := by
  cases turn with
  | resume => simp
  | idle _ reading => simp [reading]
  | dry => simp
  | frame => simp
  | oversized => simp
  | abandoned gone => simp [isOpen] at gone

theorem left (turn : Turn link receipt next) (working : ∀ fault, receipt ≠ .fault fault)
    (before : link.phase = .reading → acceptable link.limit link.buffer = []) :
    next.phase ≠ .failed ∧ (next.phase = .reading → acceptable next.limit next.buffer = []) := by
  cases turn with
  | resume => exact absurd rfl (working _)
  | idle _ reading => exact ⟨by simp [reading], before⟩
  | dry _ left => exact ⟨by simp, fun _ => left⟩
  | frame => exact ⟨by simp, by simp⟩
  | oversized => exact absurd rfl (working _)
  | abandoned => exact absurd rfl (working _)

theorem of_pending (turn : Turn link .pending next) : link.isOpen = true ∧
    (link.phase = .reading ∧ link.wire = [] ∨ link.held [] = []) := by
  cases turn with
  | idle isOpen reading empty => exact ⟨isOpen, .inl ⟨reading, empty⟩⟩
  | dry isOpen left same =>
      refine ⟨isOpen, .inr ?_⟩
      rw [same, List.append_nil, left]

theorem failed_of_closed (turn : Turn link (.fault .closed) next) (isOpen : link.isOpen = true) :
    link.phase = .failed := by
  cases turn with
  | resume failed => exact failed
  | abandoned gone => simp [isOpen] at gone

end Turn

theorem receive_eq_closed_iff (isOpen : link.isOpen = true) (going : link.ended = false) :
    link.receive.1 = .fault .closed ↔ link.phase = .failed := by
  constructor
  · intro closed
    have turn := receive_turn fun _ => going
    rw [closed] at turn
    exact turn.failed_of_closed isOpen
  · intro failed
    rw [receive, failed]

end Link
end RoadsideSnmp.Pmpp
