import Mathlib.Data.List.Basic
import RoadsideSnmp.Proofs.Pmpp.Division
import RoadsideSnmp.Proofs.Pmpp.Noise

/-! Frames one after another on a line with noise. The noise behind a frame may pass for a frame, or
for one that is too long, but the flag of the next frame ends it: it comes to one piece at most, and
no frame is lost to it. -/
namespace RoadsideSnmp.Pmpp

structure Sending where
  station : Station
  valid : ∃ address control protocolId, Station.make address control protocolId = .ok station
  payload : Octets

inductive Gap where
  /-- Nothing, and the flag opens the next frame as well. -/
  | shared
  | noise (octets : Octets)

def Gap.octets : Gap → Octets
  | .shared => []
  | .noise octets => octets

/-- A gap with the frames behind it, of which the first has lost its opening flag if it is shared. -/
def Gap.before (frames : Octets) : Gap → Octets
  | .shared => frames.drop 1
  | .noise octets => octets ++ frames

def Sending.toStandard (payload : Octets) : Sending :=
  ⟨.standard, ⟨[0x05], 0x03, [0xC1], rfl⟩, payload⟩

def Sending.framed (sending : Sending) : Octets := frame sending.station sending.payload

/-- Frames on the line, each with what is behind it. -/
def carried : List (Sending × Gap) → Octets
  | [] => []
  | (sending, gap) :: later => sending.framed ++ gap.before (carried later)

inductive Arrival where
  | opened (result : Except DecodeError Unframed)
  | oversized
  deriving DecidableEq

def Piece.arrival : Piece → Arrival
  | .whole octets => .opened (unframe octets false)
  | .oversized => .oversized

def Sending.arrival (sending : Sending) : Arrival :=
  .opened (.ok ⟨some sending.station, sending.payload, .valid⟩)

/-- What noise behind a frame comes to. Behind the last frame no flag closes it, and it can only be
too long, the flag in front of it counted. -/
def noisePiece? (limit : Nat) (last : Bool) (noise : Octets) : Option Piece :=
  if last then if limit < noise.length + 1 then some .oversized else none
  else pieceOf? limit noise

def arrivals (limit : Nat) : List (Sending × Gap) → List Arrival
  | [] => []
  | (sending, gap) :: later =>
      sending.arrival ::
        ((noisePiece? limit later.isEmpty gap.octets).toList.map Piece.arrival ++
          arrivals limit later)

namespace Sending

theorem framed_eq (sending : Sending) :
    sending.framed = flagged (sending.station.span sending.payload) :=
  frame_eq_flagged sending.station sending.payload

theorem minBody_le {limit : Nat} {sending : Sending} (fits : sending.framed.length ≤ limit) :
    minBody ≤ limit := by
  have long := sending.station.minBody_le_length_span sending.payload
  rw [framed_eq, length_flagged] at fits
  omega

theorem pieceOf?_span {limit : Nat} {sending : Sending} (fits : sending.framed.length ≤ limit) :
    pieceOf? limit (sending.station.span sending.payload) = some (.whole sending.framed) := by
  have long := sending.station.minBody_le_length_span sending.payload
  rw [framed_eq, length_flagged] at fits
  rw [pieceOf?, if_neg (Nat.not_lt.mpr long), if_neg (Nat.not_lt.mpr fits), framed_eq]

theorem arrival_eq (sending : Sending) : (Piece.whole sending.framed).arrival = sending.arrival := by
  obtain ⟨address, control, protocolId, made⟩ := sending.valid
  rw [Piece.arrival, framed, unframe_frame made, arrival]

end Sending

section

variable {limit : Nat} {gap : Gap} {later sendings : List (Sending × Gap)}

theorem divide_before (still : flag ∉ gap.octets) :
    (divide limit (flag :: gap.before (carried later))).1 =
      (noisePiece? limit later.isEmpty gap.octets).toList ++ (divide limit (carried later)).1 := by
  cases later with
  | nil =>
      have alone : gap.before (carried []) = gap.octets := by
        cases gap <;> simp [Gap.before, Gap.octets, carried]
      rw [alone, divide_open still, carried, divide_of_notMem List.not_mem_nil]
      simp only [noisePiece?, List.isEmpty_nil, if_true, List.append_nil]
      split <;> rfl
  | cons next rest =>
      obtain ⟨behind, opens⟩ : ∃ behind, carried (next :: rest) = flag :: behind := ⟨_, rfl⟩
      cases gap with
      | shared => rw [opens]; rfl
      | noise octets =>
          rw [opens]
          exact congrArg Prod.fst (divide_closed still behind)

theorem map_arrival_divide (still : ∀ sent ∈ sendings, flag ∉ sent.2.octets)
    (fits : ∀ sent ∈ sendings, sent.1.framed.length ≤ limit) :
    (divide limit (carried sendings)).1.map Piece.arrival = arrivals limit sendings := by
  induction sendings with
  | nil => rw [carried, divide_of_notMem List.not_mem_nil, arrivals, List.map_nil]
  | cons sent later ih =>
      obtain ⟨sending, gap⟩ := sent
      have plain := sending.station.flag_notMem_span sending.payload
      have behind := ih (fun sent inside => still sent (List.mem_cons_of_mem _ inside))
        fun sent inside => fits sent (List.mem_cons_of_mem _ inside)
      have judged := Sending.pieceOf?_span (fits _ List.mem_cons_self)
      have line : carried ((sending, gap) :: later) =
          flag :: (sending.station.span sending.payload ++ flag :: gap.before (carried later)) := by
        simp [carried, Sending.framed_eq, flagged]
      rw [line, divide_closed plain, judged, divide_before (still _ List.mem_cons_self), arrivals,
        ← behind, ← sending.arrival_eq, ← List.map_append]
      rfl

theorem length_le_length_arrivals (limit : Nat) (sendings : List (Sending × Gap)) :
    sendings.length ≤ (arrivals limit sendings).length := by
  induction sendings with
  | nil => exact Nat.zero_le _
  | cons sent later ih =>
      simp only [arrivals, List.length_append, List.length_cons]
      omega

theorem noisePiece?_last_eq_none_iff (noise : Octets) :
    noisePiece? limit true noise = none ↔ noise.length + 1 ≤ limit := by
  rw [noisePiece?, if_pos rfl]
  split
  · next long => exact iff_of_false (by simp) (Nat.not_le.mpr long)
  · next fits => exact iff_of_true rfl (Nat.not_lt.mp fits)

theorem arrivals_eq_iff : arrivals limit sendings = sendings.map (·.1.arrival) ↔
    (∀ sent ∈ sendings.dropLast, sent.2.octets.length < minBody) ∧
      ∀ sent ∈ sendings.getLast?, sent.2.octets.length + 1 ≤ limit := by
  induction sendings with
  | nil => simp [arrivals]
  | cons sent later ih =>
      have apart : arrivals limit (sent :: later) = (sent :: later).map (·.1.arrival) ↔
          noisePiece? limit later.isEmpty sent.2.octets = none ∧
            arrivals limit later = later.map (·.1.arrival) := by
        rw [arrivals, List.map_cons, List.cons_inj_right]
        cases noisePiece? limit later.isEmpty sent.2.octets with
        | none => simp
        | some piece =>
            -- a list with one more is longer than what it should be
            refine iff_of_false (fun same => ?_) (by simp)
            have enough := length_le_length_arrivals limit later
            have lengths := congrArg List.length same
            simp only [Option.toList_some, List.length_append, List.length_map,
              List.length_singleton] at lengths
            omega
      rw [apart]
      cases later with
      | nil => simp [arrivals, noisePiece?_last_eq_none_iff]
      | cons next rest =>
          rw [ih, List.dropLast_cons_cons, List.forall_mem_cons, List.getLast?_cons_cons, and_assoc]
          exact and_congr_left' (pieceOf?_eq_none_iff limit sent.2.octets)

namespace Splitter

variable {chunks : List Octets}

theorem takes_of_notMem (bare : flag ∉ chunks.flatten) : Takes limit [] chunks [] [] := by
  induction chunks with
  | nil => exact .nil []
  | cons chunk chunks ih =>
      rw [List.flatten_cons, List.mem_append, not_or] at bare
      exact .cons (.dry (next_of_notMem bare.1)) (ih bare.2)

theorem exists_takes_carried {leading : Octets} (quiet : flag ∉ leading)
    (still : ∀ sent ∈ sendings, flag ∉ sent.2.octets)
    (fits : ∀ sent ∈ sendings, sent.1.framed.length ≤ limit)
    (cut : chunks.flatten = leading ++ carried sendings) :
    ∃ pieces rest, Takes limit [] chunks pieces rest ∧
      pieces.map Piece.arrival = arrivals limit sendings := by
  cases sendings with
  | nil =>
      rw [carried, List.append_nil] at cut
      exact ⟨[], [], takes_of_notMem (cut ▸ quiet), rfl⟩
  | cons sent later =>
      have large := Sending.minBody_le (fits sent List.mem_cons_self)
      have takes : Takes limit [] chunks (divide limit chunks.flatten).1
          (divide limit chunks.flatten).2 := (takes_iff large).mpr rfl
      refine ⟨_, _, takes, ?_⟩
      rw [cut, divide_append quiet, map_arrival_divide still fits]

end Splitter

/-- Whatever noise is around the frames and however the line is cut into chunks, the calls of the
splitter come to one end, and what is made of their pieces is every payload in order, with what the
noise behind it comes to, if that is anything. -/
theorem carried_arrives (limit : Nat) (leading : Octets) (sendings : List (Sending × Gap))
    (chunks : List Octets) (quiet : flag ∉ leading)
    (still : ∀ sent ∈ sendings, flag ∉ sent.2.octets)
    (fits : ∀ sent ∈ sendings, sent.1.framed.length ≤ limit)
    (cut : chunks.flatten = leading ++ carried sendings) :
    ∃ pieces rest,
      (∀ others left,
        Splitter.Takes limit [] chunks others left ↔ others = pieces ∧ left = rest) ∧
      pieces.map Piece.arrival = arrivals limit sendings ∧
      (∀ sent ∈ sendings, sent.2.octets = [] →
        ∀ last, noisePiece? limit last sent.2.octets = none) ∧
      (arrivals limit sendings = sendings.map (·.1.arrival) ↔
        (∀ sent ∈ sendings.dropLast, sent.2.octets.length < minBody) ∧
          ∀ sent ∈ sendings.getLast?, sent.2.octets.length + 1 ≤ limit) := by
  obtain ⟨pieces, rest, takes, arrive⟩ := Splitter.exists_takes_carried quiet still fits cut
  refine ⟨pieces, rest, fun others left => ⟨fun also => also.unique takes, ?_⟩, arrive,
    fun sent inside none last => ?_, arrivals_eq_iff⟩
  · rintro ⟨rfl, rfl⟩
    exact takes
  · have large := Sending.minBody_le (fits sent inside)
    rw [none]
    cases last with
    | false => rfl
    | true => exact (noisePiece?_last_eq_none_iff []).mpr (Nat.le_trans (by decide) large)

end

theorem carried_arrives_noisyLine : ∃ pieces rest,
    (∀ others left,
      Splitter.Takes 9 []
        [[0x11, 0x22, 0x7E, 0x05, 0x03, 0xC1, 0x30, 0x00, 0x0A, 0x2A, 0x7E, 0x05, 0x03, 0xC1, 0x7D],
          [0x5E, 0x66, 0x34, 0x7E, 0x01, 0x02, 0x03, 0x04, 0x05, 0x7E, 0x05, 0x03, 0xC1, 0x9C, 0x02],
          [0x7E, 0x00, 0x00, 0x00, 0x00, 0x00, 0x00, 0x00, 0x00, 0x00]] others left ↔
        others = pieces ∧ left = rest) ∧
    pieces.map Piece.arrival =
      [.opened (.ok ⟨some .standard, [0x30, 0x00], .valid⟩),
        .opened (.ok ⟨some .standard, [0x7E], .valid⟩),
        .opened (.ok ⟨some ⟨.single 0x01, 0x02, .single 0x03⟩, [], .mismatch 1284 40251⟩),
        .opened (.ok ⟨some .standard, [], .valid⟩),
        .oversized] := by
  obtain ⟨pieces, rest, calls, arrive, -, -⟩ := carried_arrives 9 [0x11, 0x22]
    [(.toStandard [0x30, 0x00], .shared), (.toStandard [0x7E], .noise [0x01, 0x02, 0x03, 0x04, 0x05]),
      (.toStandard [], .noise (List.replicate 9 0x00))]
    [[0x11, 0x22, 0x7E, 0x05, 0x03, 0xC1, 0x30, 0x00, 0x0A, 0x2A, 0x7E, 0x05, 0x03, 0xC1, 0x7D],
      [0x5E, 0x66, 0x34, 0x7E, 0x01, 0x02, 0x03, 0x04, 0x05, 0x7E, 0x05, 0x03, 0xC1, 0x9C, 0x02],
      [0x7E, 0x00, 0x00, 0x00, 0x00, 0x00, 0x00, 0x00, 0x00, 0x00]]
    (by decide) (by decide) (by decide +kernel) (by decide +kernel)
  refine ⟨pieces, rest, calls, arrive.trans ?_⟩
  decide +kernel

/-- Noise behind the last frame that is as long as the limit is too long already, since the flag in
front of it counts: a frame of nine octets, nine octets of noise and a limit of nine. -/
theorem noise_at_limit_arrives :
    ¬ ∀ (limit : Nat) (leading : Octets) (sendings : List (Sending × Gap)) (chunks : List Octets)
        (pieces : List Piece) (rest : Octets),
      flag ∉ leading → (∀ sent ∈ sendings, flag ∉ sent.2.octets) →
      (∀ sent ∈ sendings, sent.1.framed.length ≤ limit) →
      chunks.flatten = leading ++ carried sendings →
      (∀ sent ∈ sendings.dropLast, sent.2.octets.length < minBody) →
      (∀ sent ∈ sendings.getLast?, sent.2.octets.length ≤ limit) →
      Splitter.Takes limit [] chunks pieces rest →
      pieces.map Piece.arrival = sendings.map (·.1.arrival) := by
  intro quiet
  have takes : Splitter.Takes 9 []
      [[0x7E, 0x05, 0x03, 0xC1, 0x30, 0x00, 0x0A, 0x2A, 0x7E] ++ List.replicate 9 0x00]
      [.whole [0x7E, 0x05, 0x03, 0xC1, 0x30, 0x00, 0x0A, 0x2A, 0x7E], .oversized] [] :=
    (Splitter.takes_iff (by decide)).mpr (by decide)
  have alone := quiet 9 [] [(.toStandard [0x30, 0x00], .noise (List.replicate 9 0x00))] _ _ _
    (by decide) (by decide) (by decide +kernel) (by decide +kernel) (by decide) (by decide) takes
  exact absurd (congrArg List.length alone) (by decide)

end RoadsideSnmp.Pmpp
