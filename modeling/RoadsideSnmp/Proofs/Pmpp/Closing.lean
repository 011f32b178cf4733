import RoadsideSnmp.Proofs.Pmpp.Delivery
import RoadsideSnmp.Proofs.Pmpp.Series

/-! What a link says when its device leaves behind complete frames. None of them is lost. But the
flag that closes the last one stays in the buffer, where it could open another, and the end of the
stream finds it there: the first receive after the frames reports octets that no flag will close,
and only those after it report that the link is closed. -/
namespace RoadsideSnmp.Pmpp
namespace Link

/-- A link that has reported no fault and will meet no span that is too long. -/
structure Steady (link : Link) : Prop where
  calm : Calm link.limit (link.buffer ++ link.wire)
  working : link.phase ≠ .failed
  /-- The end of the stream is seen with nothing left on the wire. -/
  ending : link.ended = true → link.isOpen = false ∧ link.wire = [] ∧ link.phase = .splitting

/-- The device has left, and that has been seen and reported. -/
structure Over (link : Link) : Prop where
  gone : link.isOpen = false
  empty : link.wire = []
  ended : link.ended = true
  reported : link.phase ≠ .splitting

inductive Reply (link : Link) : Receipt → Link → Prop
  | frame {octets : Octets} {next : Link}
      (kept : Kept (link.buffer ++ link.wire) (next.buffer ++ next.wire)) (steady : next.Steady) :
      Reply link (.frame octets) next
  | pending {next : Link} (isOpen : link.isOpen = true)
      (kept : Kept (link.buffer ++ link.wire) (next.buffer ++ next.wire)) (steady : next.Steady) :
      Reply link .pending next
  | closed {next : Link} (gone : link.isOpen = false) (bare : flag ∉ link.buffer ++ link.wire)
      (past : next.Over) : Reply link (.fault .closed) next
  | unterminated {next : Link} (gone : link.isOpen = false)
      (opened : flag ∈ link.buffer ++ link.wire) (left : next.held [] = []) (past : next.Over) :
      Reply link (.fault .unterminated) next

variable {link now next : Link} {receipt : Receipt}

theorem Steady.going (steady : link.Steady) (isOpen : link.isOpen = true) :
    link.ended = false := by
  cases ended : link.ended with
  | false => rfl
  | true => simp [(steady.ending ended).1] at isOpen

theorem Steady.close (steady : link.Steady) : link.close.Steady := by
  refine ⟨steady.calm, steady.working, fun ended => ?_⟩
  obtain ⟨-, empty, splitting⟩ := steady.ending ended
  exact ⟨rfl, empty, splitting⟩

theorem Steady.kept (steady : link.Steady) {rest : Octets} (kept : Kept link.buffer rest) :
    Calm link.limit (rest ++ link.wire) :=
  (kept.append link.wire).calm steady.calm

theorem Steady.reading (steady : link.Steady) (unended : link.ended = false) {rest : Octets}
    (kept : Kept link.buffer rest) : Steady { link with buffer := rest, phase := .reading } :=
  ⟨steady.kept kept, by simp, by simp [unended]⟩

theorem Steady.splitting (steady : link.Steady) {rest : Octets} (kept : Kept link.buffer rest) :
    Steady { link with buffer := rest, phase := .splitting } := by
  refine ⟨steady.kept kept, by simp, fun ended => ?_⟩
  obtain ⟨gone, empty, -⟩ := steady.ending ended
  exact ⟨gone, empty, rfl⟩

theorem Steady.call (steady : link.Steady) :
    (Splitter.next link.limit link.buffer).1 ≠ some .oversized ∧
      Kept link.buffer (Splitter.next link.limit link.buffer).2 :=
  Splitter.next_of_calm (steady.calm.part (List.prefix_append _ _).isInfix)

theorem Reply.of_kept (reply : Reply now receipt next)
    (kept : Kept (link.buffer ++ link.wire) (now.buffer ++ now.wire))
    (same : now.isOpen = link.isOpen) : Reply link receipt next := by
  cases reply with
  | frame more steady => exact .frame (kept.trans more) steady
  | pending isOpen more steady => exact .pending (same ▸ isOpen) (kept.trans more) steady
  | closed gone bare past => exact .closed (same ▸ gone) (kept.flag_mem_iff.not.mp bare) past
  | unterminated gone opened left past =>
      exact .unterminated (same ▸ gone) (kept.flag_mem_iff.mp opened) left past

theorem conclude_reply (steady : link.Steady) (ended : link.ended = true) :
    Reply link link.conclude.1 link.conclude.2 := by
  obtain ⟨gone, empty, splitting⟩ := steady.ending ended
  obtain ⟨taken, kept⟩ := steady.call
  unfold conclude Splitter.last
  obtain ⟨piece, rest, call⟩ : ∃ piece rest, Splitter.next link.limit link.buffer = (piece, rest) :=
    ⟨_, _, rfl⟩
  rw [call] at taken kept ⊢
  match piece, rest with
  | some .oversized, _ => exact absurd rfl taken
  | some (.whole octets), rest =>
      exact .frame (kept.append link.wire) ⟨steady.kept kept, steady.working, steady.ending⟩
  | none, [] =>
      refine .closed gone ?_ ⟨gone, empty, ended, by simp⟩
      rw [empty, List.append_nil]
      exact fun inside => absurd (kept.flagged inside) List.not_mem_nil
  | none, first :: rest =>
      have opened := Splitter.flag_mem_of_dry call (List.cons_ne_nil first rest)
      refine .unterminated gone (List.mem_append_left _ opened) ?_ ⟨gone, empty, ended, by simp⟩
      have none := Splitter.acceptable_of_dry call
      simpa [held, empty] using none

theorem starve_reply (steady : link.Steady) (unended : link.ended = false)
    (empty : link.wire = []) : Reply link link.starve.1 link.starve.2 := by
  unfold starve
  split
  · next isOpen => exact .pending isOpen (.refl _) steady
  · next gone =>
      have closed := (Bool.not_eq_true _).mp gone
      rw [unended, if_neg Bool.false_ne_true]
      have seen : Steady { link with ended := true, phase := .splitting } :=
        ⟨steady.calm, by simp, fun _ => ⟨closed, empty, rfl⟩⟩
      exact (conclude_reply seen rfl).of_kept (.refl _) rfl

theorem split_reply (steady : link.Steady) {dry : Link → Receipt × Link}
    (otherwise : ∀ rest, Kept link.buffer rest →
      Reply link (dry { link with buffer := rest, phase := .reading }).1
        (dry { link with buffer := rest, phase := .reading }).2) :
    Reply link (split dry link).1 (split dry link).2 := by
  obtain ⟨taken, kept⟩ := steady.call
  unfold split
  obtain ⟨piece, rest, call⟩ : ∃ piece rest, Splitter.next link.limit link.buffer = (piece, rest) :=
    ⟨_, _, rfl⟩
  rw [call] at taken kept ⊢
  match piece with
  | some .oversized => exact absurd rfl taken
  | some (.whole octets) => exact .frame (kept.append link.wire) (steady.splitting kept)
  | none => exact otherwise rest kept

theorem read_reply (steady : link.Steady) (unended : link.ended = false) :
    Reply link link.read.1 link.read.2 := by
  unfold read
  split
  · next empty => exact starve_reply steady unended (List.isEmpty_iff.mp empty)
  · have taken : Kept (link.buffer ++ link.wire) (link.buffer ++ link.wire ++ []) := by
      rw [List.append_nil]
      exact .refl _
    have filled : Steady { link with
        buffer := link.buffer ++ link.wire, wire := [], ended := false } :=
      ⟨taken.calm steady.calm, steady.working, by simp⟩
    refine (split_reply filled fun rest kept => ?_).of_kept taken rfl
    exact (starve_reply (filled.reading rfl kept) rfl rfl).of_kept (kept.append []) rfl

theorem receive_reply (steady : link.Steady) : Reply link link.receive.1 link.receive.2 := by
  unfold receive
  cases phase : link.phase with
  | failed => exact absurd phase steady.working
  | reading =>
      have unended : link.ended = false := by
        by_contra ended
        have seen := (steady.ending ((Bool.not_eq_false _).mp ended)).2.2
        simp [phase] at seen
      exact read_reply steady unended
  | splitting =>
      dsimp only
      split
      · next ended => exact conclude_reply steady ended
      · next going =>
          have unended := (Bool.not_eq_true _).mp going
          refine split_reply steady fun rest kept => ?_
          have reply := read_reply (steady.reading unended kept) unended
          exact reply.of_kept (kept.append link.wire) rfl

theorem Over.receive (past : link.Over) :
    link.receive.1 = .fault .closed ∧ link.receive.2.Over := by
  unfold Link.receive
  cases phase : link.phase with
  | failed => exact ⟨rfl, past.gone, past.empty, past.ended, by simp⟩
  | reading => simp [read, starve, past.gone, past.empty, past.ended, past]
  | splitting => exact absurd phase past.reported

/-- What is left to report when the device leaves: the frames that have not been received, and
octets that no flag will close if there has been a flag. -/
def parting (link : Link) : List Receipt :=
  (link.held []).map .frame ++
    if flag ∈ link.buffer ++ link.wire then [.fault .unterminated] else []

theorem parting_of_notMem (bare : flag ∉ link.buffer ++ link.wire) : link.parting = [] := by
  rw [parting, if_neg bare, held, List.append_nil, List.append_nil, acceptable_of_notMem bare]
  rfl

theorem parting_receive (gone : link.isOpen = false) (steady : link.Steady) :
    link.parting = link.receive.1 :: link.receive.2.parting ∧
        link.receive.2.isOpen = false ∧ link.receive.2.Steady ∨
      link.receive.2.Over ∧ (link.parting = [link.receive.1] ∨
        link.parting = [] ∧ link.receive.1 = .fault .closed) := by
  have turn := receive_turn steady.going
  have still : link.receive.2.isOpen = false := turn.same.2.trans gone
  have found := turn.held []
  have reply := receive_reply steady
  generalize link.receive.1 = receipt, link.receive.2 = next at *
  cases reply with
  | @frame octets _ kept steady =>
      refine .inl ⟨?_, still, steady⟩
      have first : link.held [] = octets :: next.held [] := found
      simp only [parting, first, kept.flag_mem_iff, List.map_cons, List.cons_append]
  | pending isOpen => simp [gone] at isOpen
  | closed _ bare past => exact .inr ⟨past, .inr ⟨parting_of_notMem bare, rfl⟩⟩
  | unterminated _ opened left past =>
      have none : link.held [] = [] := found.trans left
      refine .inr ⟨past, .inl ?_⟩
      rw [parting, none, if_pos opened]
      rfl

end Link

namespace LinkHistory

variable {peer : String} {limit many : Nat} {history : LinkHistory} {before : List LinkEvent}

theorem receipts_of_over (past : history.link.Over) (count : Nat) :
    ((List.replicate count .receive).foldl after history).receipts =
      history.receipts ++ List.replicate count (.fault .closed) := by
  induction count generalizing history with
  | zero => simp
  | succ count ih =>
      obtain ⟨closed, still⟩ := past.receive
      rw [List.replicate_succ, List.foldl_cons, ih still, after, closed, List.append_assoc]
      rfl

theorem receipts_of_gone (gone : history.link.isOpen = false) (steady : history.link.Steady)
    {count : Nat} (enough : count ≤ many) :
    ((List.replicate count .receive).foldl after history).receipts =
      history.receipts ++
        (history.link.parting ++ List.replicate many (Receipt.fault .closed)).take count := by
  -- `many` does not go down with `count`, so what is cut off is the same list at every step
  induction count generalizing history with
  | zero => simp
  | succ count ih =>
      have stepped : ((List.replicate (count + 1) .receive).foldl after history).receipts =
          ((List.replicate count .receive).foldl after (history.after .receive)).receipts := rfl
      rw [stepped]
      obtain ⟨first, still, working⟩ | ⟨past, last⟩ := Link.parting_receive gone steady
      · have rest := @ih (history.after .receive) still working (Nat.le_of_succ_le enough)
        rw [rest, first, List.cons_append, List.take_succ_cons, after, List.append_assoc]
        rfl
      · rw [@receipts_of_over (history.after .receive) past, after, List.append_assoc]
        obtain only | ⟨none, closed⟩ := last
        · simp only [only, List.singleton_append, List.take_succ_cons, List.take_replicate,
            Nat.min_eq_left (Nat.le_of_succ_le enough)]
        · rw [none, closed, List.nil_append, List.take_replicate, Nat.min_eq_left enough]
          rfl

structure Undisturbed (history : LinkHistory) : Prop where
  isOpen : history.link.isOpen = true
  steady : history.link.Steady
  kept : Kept history.fed (history.link.buffer ++ history.link.wire)
  clean : ∀ fault, .fault fault ∉ history.receipts

theorem after_feed (isOpen : history.link.isOpen = true) (octets : Octets) :
    history.after (.feed octets) = { history with
      link := { history.link with wire := history.link.wire ++ octets }
      fed := history.fed ++ octets } := by
  unfold after Link.feed
  dsimp only
  rw [if_pos isOpen, if_pos isOpen]

theorem fed_grows (event : LinkEvent) : history.fed <+: (history.after event).fed := by
  cases event with
  | feed octets =>
      unfold after
      dsimp only
      split
      · exact List.prefix_append _ octets
      · exact List.prefix_rfl
  | close => exact List.prefix_rfl
  | receive => exact List.prefix_rfl

namespace Undisturbed

theorem opening (peer : String) (limit : Nat) : Undisturbed (opening peer limit) where
  isOpen := rfl
  steady := ⟨.of_notMem List.not_mem_nil, by simp [LinkHistory.opening, Link.connect],
    by simp [LinkHistory.opening, Link.connect]⟩
  kept := .refl []
  clean _ := List.not_mem_nil

theorem feed (undisturbed : Undisturbed history) {octets : Octets}
    (calm : Calm history.link.limit (history.fed ++ octets)) :
    Undisturbed (history.after (.feed octets)) := by
  obtain ⟨isOpen, steady, kept, clean⟩ := undisturbed
  have more := kept.append octets
  rw [List.append_assoc] at more
  rw [after_feed isOpen]
  refine ⟨isOpen, ⟨more.calm calm, steady.working, fun ended => ?_⟩, more, clean⟩
  simp [steady.going isOpen] at ended

theorem receive (undisturbed : Undisturbed history) : Undisturbed (history.after .receive) := by
  obtain ⟨isOpen, steady, kept, clean⟩ := undisturbed
  have reply := Link.receive_reply steady
  have still := (Link.receive_turn steady.going).same.2.trans isOpen
  unfold after
  generalize history.link.receive.1 = receipt, history.link.receive.2 = next at *
  cases reply with
  | frame more steady => exact ⟨still, steady, kept.trans more, by simpa using clean⟩
  | pending _ more steady => exact ⟨still, steady, kept.trans more, by simpa using clean⟩
  | closed gone => simp [isOpen] at gone
  | unterminated gone => simp [isOpen] at gone

theorem run (stays : .close ∉ before) (calm : Calm limit (run peer limit before).fed) :
    Undisturbed (run peer limit before) := by
  induction before using List.reverseRecOn with
  | nil => exact .opening peer limit
  | append_singleton events event ih =>
      obtain ⟨earlier, now⟩ := not_or.mp (List.mem_append.not.mp stays)
      rw [run_concat] at calm ⊢
      have undisturbed := ih earlier (calm.part (fed_grows event).isInfix)
      cases event with
      | feed octets =>
          rw [after_feed undisturbed.isOpen] at calm
          refine undisturbed.feed ?_
          rwa [(Faithful.run peer limit events).bound]
      | close => exact absurd List.mem_cons_self now
      | receive => exact undisturbed.receive

end Undisturbed

/-- The device writes noise and a series of frames, in pieces and with receives in between, leaves
when all is written, and is listened to `count` times more. Before it leaves, a receive that does
not stay pending has the next frame. Afterwards there are the frames that are left, then, unless
there were no frames at all, one report of octets that no flag will close, and from then on the
link is closed. -/
theorem receipts_of_series {noise stream : Octets} {bodies : List Octets} (bare : flag ∉ noise)
    (series : Series limit bodies stream) (stays : .close ∉ before)
    (fed : (run peer limit before).fed = noise ++ stream) (count : Nat) :
    ∃ early, (∀ fault, .fault fault ∉ (run peer limit before).receipts) ∧
      (run peer limit before).frames = (bodies.take early).map flagged ∧
      (run peer limit (before ++ .close :: List.replicate count .receive)).receipts =
        (run peer limit before).receipts ++
          ((bodies.drop early).map (Receipt.frame ∘ flagged) ++
            (if bodies = [] then [] else [Receipt.fault .unterminated]) ++
            List.replicate count (Receipt.fault .closed)).take count := by
  have calm : Calm limit (run peer limit before).fed := by
    rw [fed]
    exact series.calm.append bare
  obtain ⟨isOpen, steady, kept, clean⟩ := Undisturbed.run stays calm
  have whole : bodies.map flagged =
      (run peer limit before).frames ++ (run peer limit before).link.held [] := by
    rw [← (Faithful.run peer limit before).whole, List.append_nil, fed, acceptable_append bare,
      series.acceptable]
  have opened : flag ∈ (run peer limit before).link.buffer ++ (run peer limit before).link.wire ↔
      bodies ≠ [] := by
    rw [kept.flag_mem_iff, fed, List.mem_append, ← series.flag_mem_iff]
    simp [bare]
  have held : (run peer limit before).link.held [] =
      (bodies.drop (run peer limit before).frames.length).map flagged := by
    rw [List.map_drop, whole, List.drop_left]
  have parting : (run peer limit before).link.close.parting =
      (bodies.drop (run peer limit before).frames.length).map (Receipt.frame ∘ flagged) ++
        if bodies = [] then [] else [Receipt.fault .unterminated] := by
    rw [← List.map_map, ← held, ← ite_not (bodies = []), ← if_congr opened rfl rfl]
    rfl
  refine ⟨(run peer limit before).frames.length, clean, ?_, ?_⟩
  · rw [List.map_take, whole, List.take_left]
  · rw [run, List.foldl_append, List.foldl_cons, ← parting]
    exact @receipts_of_gone count ((run peer limit before).after .close) rfl steady.close count
      (Nat.le_refl count)

/-- Noise and two frames that share a flag, in pieces, with a receive that comes too early and one
that comes in time for the first frame. -/
def sharedFlag : List LinkEvent :=
  [.feed [0, 0, flag, 1, 2, 3], .receive, .feed [4, 5, flag, 6], .receive,
    .feed [7, 8, 9, 10, flag]]

theorem sharedFlag_series : Series 8 [[1, 2, 3, 4, 5], [6, 7, 8, 9, 10]]
    [flag, 1, 2, 3, 4, 5, flag, 6, 7, 8, 9, 10, flag] :=
  .shared ⟨by decide, by decide, by decide⟩ (.separate ⟨by decide, by decide, by decide⟩ .none)

theorem receipts_of_series_sharedFlag :
    .close ∉ sharedFlag ∧
      (run "device" 8 sharedFlag).fed =
        [0, 0] ++ [flag, 1, 2, 3, 4, 5, flag, 6, 7, 8, 9, 10, flag] ∧
      ∃ early, (∀ fault, .fault fault ∉ (run "device" 8 sharedFlag).receipts) ∧
        (run "device" 8 sharedFlag).frames =
          ([[1, 2, 3, 4, 5], [6, 7, 8, 9, 10]].take early).map flagged ∧
        (run "device" 8 (sharedFlag ++ .close :: List.replicate 4 .receive)).receipts =
          (run "device" 8 sharedFlag).receipts ++
            (([[1, 2, 3, 4, 5], [6, 7, 8, 9, 10]].drop early).map (Receipt.frame ∘ flagged) ++
              [Receipt.fault .unterminated] ++ List.replicate 4 (Receipt.fault .closed)).take 4 :=
  have stays : .close ∉ sharedFlag := by decide
  have fed : (run "device" 8 sharedFlag).fed =
      [0, 0] ++ [flag, 1, 2, 3, 4, 5, flag, 6, 7, 8, 9, 10, flag] := by decide +kernel
  ⟨stays, fed, receipts_of_series (by decide) sharedFlag_series stays fed 4⟩

/-- A device that leaves when its only frame has been received is not taken to have left between
two frames. -/
theorem not_forall_tidy :
    ¬∀ peer limit bodies stream before, Series limit bodies stream → .close ∉ before →
      (run peer limit before).fed = stream → (run peer limit before).frames = bodies.map flagged →
        (run peer limit (before ++ [.close])).link.receive.1 = .fault .closed := by
  intro tidy
  have series : Series 8 [[1, 2, 3, 4, 5]] [flag, 1, 2, 3, 4, 5, flag] :=
    .separate ⟨by decide, by decide, by decide⟩ .none
  have closed := tidy "device" 8 _ _ [.feed [flag, 1, 2, 3, 4, 5, flag], .receive] series
    (by decide) (by decide +kernel) (by decide +kernel)
  revert closed
  decide +kernel

end LinkHistory
end RoadsideSnmp.Pmpp
