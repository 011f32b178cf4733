import Mathlib.Data.List.Induction
import RoadsideSnmp.Proofs.Pmpp.Reception

/-! What a link makes of all that a device sends. The device writes and leaves as it likes, and
receives come in between; a read that takes only a part of what was written is one that finds the
rest written later. The frames come out in order, each once and as it was sent. After a span that
is too long the link reads as closed once, and what stands behind the span comes only when the
device sends more. -/
namespace RoadsideSnmp.Pmpp

inductive LinkEvent where
  /-- The device writes. -/
  | feed (octets : Octets)
  /-- The device leaves. -/
  | close
  | receive
  deriving DecidableEq, Repr

/-- A link, all that was written to it, and what its receives came to, first one first. -/
structure LinkHistory where
  link : Link
  fed : Octets
  receipts : List Receipt

namespace LinkHistory

def opening (peer : String) (limit : Nat) : LinkHistory := ⟨.connect peer limit, [], []⟩

def after (history : LinkHistory) : LinkEvent → LinkHistory
  | .feed octets =>
      { history with
        link := history.link.feed octets
        fed := if history.link.isOpen then history.fed ++ octets else history.fed }
  | .close => { history with link := history.link.close }
  | .receive =>
      { history with
        link := history.link.receive.2
        receipts := history.receipts ++ [history.link.receive.1] }

def run (peer : String) (limit : Nat) (events : List LinkEvent) : LinkHistory :=
  events.foldl after (opening peer limit)

def frames (history : LinkHistory) : List Octets := history.receipts.filterMap Receipt.frame?

variable {peer : String} {limit : Nat} {history : LinkHistory} {events : List LinkEvent}

theorem run_concat (event : LinkEvent) :
    run peer limit (events ++ [event]) = (run peer limit events).after event := by
  simp [run]

/-- Nothing is lost, and the link knows what it has told. -/
structure Faithful (limit : Nat) (history : LinkHistory) : Prop where
  bound : history.link.limit = limit
  going : history.link.isOpen = true → history.link.ended = false
  whole : ∀ more, acceptable limit (history.fed ++ more) =
    history.frames ++ history.link.held more
  /-- Without a fault the buffer is split before anything is waited for. -/
  ready : (∀ fault, .fault fault ∉ history.receipts) → history.link.phase ≠ .failed ∧
    (history.link.phase = .reading → acceptable limit history.link.buffer = [])
  told : history.link.isOpen = true → (history.link.phase = .failed ↔
    history.receipts.getLast? = some (.fault .oversizedFrame))

namespace Faithful

theorem opening (peer : String) (limit : Nat) : Faithful limit (opening peer limit) where
  bound := rfl
  going _ := rfl
  whole _ := rfl
  ready _ := ⟨by simp [LinkHistory.opening, Link.connect],
    fun _ => acceptable_of_notMem List.not_mem_nil⟩
  told _ := by simp [LinkHistory.opening, Link.connect]

theorem feed (faithful : Faithful limit history) (octets : Octets) :
    Faithful limit (history.after (.feed octets)) := by
  unfold after Link.feed
  cases isOpen : history.link.isOpen with
  | false => exact ⟨faithful.bound, faithful.going, faithful.whole, faithful.ready, faithful.told⟩
  | true =>
      refine ⟨faithful.bound, fun _ => faithful.going isOpen, fun more => ?_, faithful.ready,
        fun _ => faithful.told isOpen⟩
      have whole := faithful.whole (octets ++ more)
      rw [← List.append_assoc, Link.held, ← List.append_assoc history.link.wire] at whole
      exact whole

theorem close (faithful : Faithful limit history) : Faithful limit (history.after .close) where
  bound := faithful.bound
  going isOpen := by simp [after, Link.close] at isOpen
  whole := faithful.whole
  ready := faithful.ready
  told isOpen := by simp [after, Link.close] at isOpen

theorem receive (faithful : Faithful limit history) :
    Faithful limit (history.after .receive) := by
  have turn := Link.receive_turn faithful.going
  constructor
  · exact turn.same.1.trans faithful.bound
  · exact turn.going faithful.going
  · intro more
    have received : (history.after .receive).frames =
        history.frames ++ history.link.receive.1.frame?.toList := by
      cases found : history.link.receive.1.frame? <;> simp [after, frames, found]
    rw [received, List.append_assoc]
    exact (faithful.whole more).trans (congrArg _ (turn.held more))
  · intro clean
    have before := faithful.ready fun fault told => clean fault (List.mem_append_left _ told)
    have working (fault : LinkFault) : history.link.receive.1 ≠ .fault fault := by
      intro told
      exact clean fault (List.mem_append_right _ (List.mem_singleton.mpr told.symm))
    rw [← faithful.bound] at before ⊢
    have left := turn.left working before.2
    rw [turn.same.1] at left
    exact left
  · intro isOpen
    have before : history.link.isOpen = true := turn.same.2.symm.trans isOpen
    have failed := turn.failed_iff before
    simpa [after] using failed

theorem run (peer : String) (limit : Nat) (events : List LinkEvent) :
    Faithful limit (run peer limit events) := by
  induction events using List.reverseRecOn with
  | nil => exact .opening peer limit
  | append_singleton events event ih =>
      rw [run_concat]
      cases event with
      | feed octets => exact ih.feed octets
      | close => exact ih.close
      | receive => exact ih.receive

end Faithful

theorem frames_eq_of_held (faithful : Faithful limit history) (none : history.link.held [] = []) :
    history.frames = acceptable limit history.fed := by
  have whole := faithful.whole []
  rw [List.append_nil, none, List.append_nil] at whole
  exact whole.symm

/-- However the device writes, leaves and is listened to, the frames that have been received are
the first of those that it has sent. Until a receive has reported a fault, one that stays pending
has left none of them behind. -/
theorem frames_prefix (peer : String) (limit : Nat) (events : List LinkEvent) :
    (run peer limit events).frames <+: acceptable limit (run peer limit events).fed ∧
      ((∀ fault, .fault fault ∉ (run peer limit events).receipts) →
        (run peer limit events).link.receive.1 = .pending →
          (run peer limit events).frames = acceptable limit (run peer limit events).fed) := by
  have faithful := Faithful.run peer limit events
  generalize run peer limit events = history at faithful
  constructor
  · have whole := faithful.whole []
    rw [List.append_nil] at whole
    exact ⟨_, whole.symm⟩
  · intro clean pending
    have turn := Link.receive_turn faithful.going
    rw [pending] at turn
    obtain ⟨-, ⟨reading, empty⟩ | none⟩ := turn.of_pending
    · refine frames_eq_of_held faithful ?_
      rw [Link.held, empty, List.append_nil, List.append_nil, faithful.bound]
      exact (faithful.ready clean).2 reading
    · exact frames_eq_of_held faithful none

/-- A span was too long, and since the receive that told of it the device has sent nothing. -/
def Stalled (peer : String) (limit : Nat) (events : List LinkEvent) : Prop :=
  ∃ before later, events = before ++ .receive :: later ∧
    (run peer limit before).link.receive.1 = .fault .oversizedFrame ∧
      ∀ octets, .feed octets ∈ later → octets = []

theorem Stalled.concat {event : LinkEvent} (stalled : Stalled peer limit events)
    (quiet : ∀ octets, event = .feed octets → octets = []) :
    Stalled peer limit (events ++ [event]) := by
  obtain ⟨before, later, rfl, told, silent⟩ := stalled
  refine ⟨before, later ++ [event], by simp, told, fun octets sent => ?_⟩
  obtain among | last := List.mem_append.mp sent
  · exact silent octets among
  · exact quiet octets (List.mem_singleton.mp last).symm

/-- What an open link keeps to itself is behind a span that was too long. -/
structure Heeds (peer : String) (limit : Nat) (events : List LinkEvent) : Prop where
  failed : (run peer limit events).link.phase = .failed →
    (run peer limit events).link.wire = [] → Stalled peer limit events
  reading : (run peer limit events).link.phase = .reading →
    (run peer limit events).link.wire = [] →
      acceptable limit (run peer limit events).link.buffer = [] ∨ Stalled peer limit events

theorem Heeds.feed (heeds : Heeds peer limit events) (octets : Octets)
    (isOpen : (run peer limit events).link.isOpen = true) :
    Heeds peer limit (events ++ [.feed octets]) := by
  have fed : (run peer limit (events ++ [.feed octets])).link =
      { (run peer limit events).link with
        wire := (run peer limit events).link.wire ++ octets } := by
    rw [run_concat, after, Link.feed, if_pos isOpen]
  have still (stalled : Stalled peer limit events) (silent : octets = []) :
      Stalled peer limit (events ++ [.feed octets]) :=
    stalled.concat fun others same => (LinkEvent.feed.inj same) ▸ silent
  constructor
  · rw [fed]
    intro failed empty
    obtain ⟨before, silent⟩ := List.append_eq_nil_iff.mp empty
    exact still (heeds.failed failed before) silent
  · rw [fed]
    intro reading empty
    obtain ⟨before, silent⟩ := List.append_eq_nil_iff.mp empty
    exact (heeds.reading reading before).imp_right fun stalled => still stalled silent

theorem Heeds.receive (heeds : Heeds peer limit events)
    (isOpen : (run peer limit events).link.isOpen = true) :
    Heeds peer limit (events ++ [.receive]) := by
  have turn := Link.receive_turn (Faithful.run peer limit events).going
  have received : (run peer limit (events ++ [.receive])).link =
      (run peer limit events).link.receive.2 := by
    rw [run_concat, after]
  have still (stalled : Stalled peer limit events) :
      Stalled peer limit (events ++ [.receive]) :=
    stalled.concat fun octets same => by simp at same
  have told (oversized : (run peer limit events).link.receive.1 = .fault .oversizedFrame) :
      Stalled peer limit (events ++ [.receive]) :=
    ⟨events, [], rfl, oversized, by simp⟩
  constructor
  all_goals
    rw [received]
    generalize (run peer limit events).link.receive.1 = receipt,
      (run peer limit events).link.receive.2 = next at turn told
  · cases turn with
    | resume => simp
    | idle _ reading => simp [reading]
    | dry => simp
    | frame => simp
    | oversized => exact fun _ _ => told rfl
    | abandoned gone => simp [isOpen] at gone
  · cases turn with
    | resume failed => exact fun _ empty => .inr (still (heeds.failed failed empty))
    | idle => exact fun reading empty => (heeds.reading reading empty).imp_right still
    | dry _ left =>
        rw [(Faithful.run peer limit events).bound] at left
        exact fun _ _ => .inl left
    | frame => simp
    | oversized => simp
    | abandoned gone => simp [isOpen] at gone

theorem heeds (isOpen : (run peer limit events).link.isOpen = true) : Heeds peer limit events := by
  induction events using List.reverseRecOn with
  | nil => exact ⟨by simp [run, opening, Link.connect], fun _ _ =>
      .inl (acceptable_of_notMem List.not_mem_nil)⟩
  | append_singleton events event ih =>
      cases event with
      | feed octets =>
          have before : (run peer limit events).link.isOpen = true := by
            rw [run_concat, after] at isOpen
            unfold Link.feed at isOpen
            split at isOpen
            · exact isOpen
            · exact isOpen
          exact (ih before).feed octets before
      | close => simp [run_concat, after, Link.close] at isOpen
      | receive =>
          have turn := Link.receive_turn (Faithful.run peer limit events).going
          rw [run_concat, after] at isOpen
          have before := turn.same.2.symm.trans isOpen
          exact (ih before).receive before

/-- While the device holds its end, a receive says that the link is closed just when the one before
has told of a span that was too long; and one that stays pending has left no frame behind, unless
the device has sent nothing since such a span was told of. -/
theorem receive_of_open (isOpen : (run peer limit events).link.isOpen = true) :
    ((run peer limit events).link.receive.1 = .fault .closed ↔
      (run peer limit events).receipts.getLast? = some (.fault .oversizedFrame)) ∧
    ((run peer limit events).link.receive.1 = .pending →
      (run peer limit events).frames = acceptable limit (run peer limit events).fed ∨
        Stalled peer limit events) := by
  have faithful := Faithful.run peer limit events
  have heeds := heeds isOpen
  have going := faithful.going isOpen
  constructor
  · rw [Link.receive_eq_closed_iff isOpen going, faithful.told isOpen]
  · intro pending
    have turn := Link.receive_turn faithful.going
    rw [pending] at turn
    obtain ⟨-, ⟨reading, empty⟩ | none⟩ := turn.of_pending
    · refine (heeds.reading reading empty).imp_left fun left => frames_eq_of_held faithful ?_
      rw [Link.held, empty, List.append_nil, List.append_nil, faithful.bound, left]
    · exact .inl (frames_eq_of_held faithful none)

def crowded : List LinkEvent :=
  [.feed [flag, 1, 2, 3, 4, 5, 6, 7, flag, 1, 2, 3, 4, 5, flag], .receive]

theorem receive_of_open_crowded :
    (run "device" 8 (crowded ++ [.receive])).link.isOpen = true ∧
      Stalled "device" 8 (crowded ++ [.receive]) := by
  have isOpen : (run "device" 8 (crowded ++ [.receive])).link.isOpen = true := by decide +kernel
  refine ⟨isOpen, ((receive_of_open isOpen).2 (by decide +kernel)).resolve_left ?_⟩
  decide +kernel

/-- An open link can read as closed, and a pending receive can leave a frame behind. -/
theorem not_forall_prompt :
    (¬∀ peer limit events, (run peer limit events).link.receive.1 = .fault .closed →
      (run peer limit events).link.isOpen = false) ∧
    ¬∀ peer limit events, (run peer limit events).link.receive.1 = .pending →
      (run peer limit events).frames = acceptable limit (run peer limit events).fed := by
  constructor
  · intro gone
    have closed := gone "device" 8 crowded (by decide +kernel)
    revert closed
    decide +kernel
  · intro prompt
    have all := prompt "device" 8 (crowded ++ [.receive]) (by decide +kernel)
    revert all
    decide +kernel

end LinkHistory
end RoadsideSnmp.Pmpp
