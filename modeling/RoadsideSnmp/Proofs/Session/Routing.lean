import RoadsideSnmp.Proofs.Session.Record

/-! Requests on one session do not get in each other's way, as long as the numbers of those under
way are distinct. Whatever arrives and in whatever order they take their steps, each gets only
replies to itself, each reply goes to one of them, and none that is awaited goes by. -/
namespace RoadsideSnmp

structure Routed (start : Session) (dropped : List Ticket) (exchanges : List Exchange)
    (session : Session) (log : List Taking) : Prop where
  registered : Registered exchanges session
  accounted : Accounted exchanges session log
  logged : Logged start dropped exchanges session log

namespace Routed

variable {start : Session} {dropped : List Ticket} {exchanges others : List Exchange}
  {exchange : Exchange} {session : Session} {log : List Taking}

theorem perm {listed : List Exchange} (routed : Routed start dropped exchanges session log)
    (perm : exchanges.Perm listed) : Routed start dropped listed session log where
  registered := routed.registered.perm perm
  accounted := routed.accounted.perm perm
  logged := routed.logged.perm perm

theorem resume (routed : Routed start dropped (exchange :: others) session log) :
    Routed start dropped ((exchange.resume session).1 :: others) (exchange.resume session).2
      log := by
  obtain ⟨stage, listener, resumed, -⟩ := exchange.resume_eq session
  have inside := exchange.isInside_resume session
  have minds : exchange.stage.mindsMail → _ := Exchange.mindsMail_resume session
  have result := exchange.result?_resume session
  rw [resumed] at inside minds result ⊢
  constructor
  · refine List.forall_mem_cons.mpr ⟨fun open_ => ?_, fun other among => ?_⟩
    · exact routed.registered exchange List.mem_cons_self (inside ▸ open_)
    · exact routed.registered other (List.mem_cons_of_mem _ among)
  · refine List.forall_mem_cons.mpr ⟨?_, fun other among => ?_⟩
    · have account := routed.accounted exchange List.mem_cons_self
      dsimp only
      generalize messagesFor exchange.ticket session.mail = letters at account
      generalize messagesFor exchange.ticket (claims log) = replies at account
      cases account with
      | waits unanswered => exact .waits (result ▸ unanswered)
      | has looks number => exact .has (minds looks) number
      | had closed number => exact .had (result ▸ closed) number
    · exact routed.accounted other (List.mem_cons_of_mem _ among)
  · have logged := routed.logged
    refine ⟨logged.config, logged.received, fun claim inside => ?_, logged.issued,
      List.forall_mem_cons.mpr (List.forall_mem_cons.mp logged.present), logged.stale⟩
    refine (logged.owned claim inside).imp_right ?_
    rintro ⟨owner, among, same⟩
    obtain rfl | among := List.mem_cons.mp among
    · exact ⟨_, List.mem_cons_self, same⟩
    · exact ⟨owner, List.mem_cons_of_mem _ among, same⟩

theorem move {next : Exchange} {after : Session}
    (routed : Routed start dropped (exchange :: others) session log)
    (underway : Underway others exchange session) (alone : Alone exchange others)
    (move : exchange.Move session next after) :
    Routed start dropped (next :: others) after
      (log ++ (exchange.taking? session).toList) where
  registered := routed.registered.move underway alone move
  accounted := routed.accounted.move underway routed.registered move
  logged := routed.logged.move underway routed.registered move

theorem poll (routed : Routed start dropped (exchange :: others) session log)
    (settled : Settled (exchange :: others) session) (alone : Alone exchange others) :
    Routed start dropped ((exchange.poll session).1 :: others) (exchange.poll session).2
      (log ++ exchange.polled session) := by
  have begun : Alone (exchange.resume session).1 others := by
    obtain ⟨stage, listener, resumed, -⟩ := exchange.resume_eq session
    have result := exchange.result?_resume session
    rw [resumed] at result ⊢
    exact fun unfinished => alone (result ▸ unfinished)
  have keeps : ∀ {exchange session log next after},
      Underway others exchange session ∧ Alone exchange others ∧
        Routed start dropped (exchange :: others) session log →
      exchange.Move session next after →
      Underway others next after ∧ Alone next others ∧
        Routed start dropped (next :: others) after
          (log ++ (exchange.taking? session).toList) := by
    intro exchange session log next after held move
    obtain ⟨underway, alone, routed⟩ := held
    exact ⟨underway.move move, alone.move move, routed.move underway alone move⟩
  have whole := Exchange.advance_keeps
    (fun exchange session log => Underway others exchange session ∧ Alone exchange others ∧
      Routed start dropped (exchange :: others) session log)
    keeps log ⟨settled.resume, begun, routed.resume⟩
  exact whole.2.2

theorem begin {after : Session} (routed : Routed start dropped others session log)
    (settled : Settled others session) (begins : session.Begins exchange after) :
    Routed start dropped (exchange :: others) after log := by
  have later : session.nextTicket ≤ after.nextTicket := by
    rw [begins.after]
    exact Nat.le_succ _
  -- the ticket is new, so nothing has been taken for it
  have known : ∀ ticket, (ticket ∈ dropped ∨ ∃ other ∈ others, other.ticket = ticket) →
      ticket ≠ exchange.ticket := by
    rintro ticket (gone | ⟨other, among, rfl⟩)
    · rw [begins.ticket]
      exact Nat.ne_of_lt (routed.logged.issued ticket gone)
    · rw [begins.ticket]
      exact Nat.ne_of_lt (settled.orderly.issued other among)
  have empty : messagesFor exchange.ticket session.mail = [] := by
    rw [messagesFor_eq_nil]
    intro letter sent
    obtain ⟨owner, among, same, -⟩ := settled.orderly.mail letter sent
    exact known letter.1 (.inr ⟨owner, among, same⟩)
  have unclaimed : messagesFor exchange.ticket (claims log) = [] := by
    rw [messagesFor_eq_nil]
    exact fun claim inside => known claim.1 (routed.logged.owned claim inside)
  have same : session.SameBooks after := by
    rw [begins.after]
    exact ⟨Nat.le_succ _, rfl, rfl, rfl⟩
  constructor
  · refine List.forall_mem_cons.mpr ⟨fun open_ => ?_, routed.registered.congr same⟩
    simp [begins.stage, Stage.isInside] at open_
  · unfold Accounted
    rw [same.mail]
    refine List.forall_mem_cons.mpr ⟨?_, routed.accounted⟩
    rw [empty, unclaimed]
    exact .waits (by simp [Exchange.result?, begins.stage])
  · have logged := routed.logged
    refine ⟨?_, logged.received, fun claim inside => ?_, fun ticket gone => ?_,
      List.forall_mem_cons.mpr ⟨fun gone => ?_, logged.present⟩, ?_⟩
    · rw [begins.after]
      exact logged.config
    · refine (logged.owned claim inside).imp_right ?_
      rintro ⟨owner, among, same⟩
      exact ⟨owner, List.mem_cons_of_mem _ among, same⟩
    · exact Nat.lt_of_lt_of_le (logged.issued ticket gone) later
    · exact known exchange.ticket (.inl gone) rfl
    · rw [begins.after]
      exact logged.stale

theorem drop (routed : Routed start dropped (exchange :: others) session log)
    (settled : Settled (exchange :: others) session) (alone : Alone exchange others)
    (unfinished : exchange.result? = none) :
    Routed start (exchange.ticket :: dropped) others (exchange.cancel session) log := by
  obtain ⟨listener, woken, left⟩ := exchange.quit_eq session
  rw [Exchange.cancel, left]
  constructor
  · exact routed.registered.vacated settled.orderly (alone unfinished) listener woken
  · intro other among
    have kept : messagesFor other.ticket (exchange.vacated session listener woken).mail =
        messagesFor other.ticket session.mail :=
      messagesFor_filter_ne (settled.orderly.ticket_ne among)
    rw [kept]
    exact routed.accounted other (List.mem_cons_of_mem _ among)
  · have logged := routed.logged
    refine ⟨logged.config, logged.received, fun claim inside => ?_, ?_, fun other among gone => ?_,
      logged.stale⟩
    · obtain gone | ⟨owner, among, same⟩ := logged.owned claim inside
      · exact .inl (List.mem_cons_of_mem _ gone)
      obtain rfl | among := List.mem_cons.mp among
      · exact .inl (same ▸ List.mem_cons_self)
      · exact .inr ⟨owner, among, same⟩
    · have issued := settled.orderly.issued exchange List.mem_cons_self
      exact List.forall_mem_cons.mpr ⟨issued, logged.issued⟩
    · obtain same | gone := List.mem_cons.mp gone
      · exact settled.orderly.ticket_ne among same
      · exact logged.present other (List.mem_cons_of_mem _ among) gone

theorem congr {after : Session} (routed : Routed start dropped exchanges session log)
    (same : session.SameBooks after) (config : after.config = session.config)
    (stale : after.counters.stale = session.counters.stale) :
    Routed start dropped exchanges after log := by
  have logged := routed.logged
  constructor
  · exact routed.registered.congr same
  · unfold Accounted
    rw [same.mail]
    exact routed.accounted
  · refine ⟨config.trans logged.config, logged.received, logged.owned, fun ticket gone => ?_,
      logged.present, stale.trans logged.stale⟩
    exact Nat.lt_of_lt_of_le (logged.issued ticket gone) same.nextTicket

end Routed

namespace Traffic

variable {start : Session} {traffic after : Traffic}

theorem Apart.alone {before later : List Exchange} {exchange : Exchange} (apart : traffic.Apart)
    (listed : traffic.exchanges = before ++ exchange :: later) :
    Alone exchange (before ++ later) := by
  intro unfinished other among inside same
  have perm : (traffic.exchanges.filter (·.result?.isNone)).Perm
      (exchange :: (before ++ later).filter (·.result?.isNone)) := by
    have middle := (listed ▸ List.perm_middle : traffic.exchanges.Perm _).filter
      (·.result?.isNone)
    rwa [List.filter_cons_of_pos (by simp [unfinished])] at middle
  have distinct := (perm.map Exchange.requestId).nodup_iff.mp apart
  refine (List.nodup_cons.mp distinct).1 (same ▸ List.mem_map_of_mem ?_)
  refine List.mem_filter.mpr ⟨among, ?_⟩
  cases stage : other.stage <;> simp_all [Exchange.result?, Stage.isInside]

theorem Step.routed (step : traffic.Step after) (apart : traffic.Apart)
    (settled : Settled traffic.exchanges traffic.session)
    (routed : Routed start traffic.dropped traffic.exchanges traffic.session traffic.log) :
    Routed start after.dropped after.exchanges after.session after.log := by
  cases step with
  | begin begun => exact routed.begin settled (Session.begins begun)
  | poll listed =>
      have alone := apart.alone listed
      rw [listed] at settled routed
      have first := routed.perm List.perm_middle
      exact (first.poll (settled.perm List.perm_middle) alone).perm List.perm_middle.symm
  | drop listed unfinished =>
      have alone := apart.alone listed
      rw [listed] at settled routed
      exact (routed.perm List.perm_middle).drop (settled.perm List.perm_middle) alone unfinished
  | arrive | pass | rouse => exact routed.congr ⟨Nat.le_refl _, rfl, rfl, rfl⟩ rfl rfl

theorem ReachedApart.routed (reached : ReachedApart start traffic) (idle : start.Idle) :
    traffic.Apart ∧
      Routed start traffic.dropped traffic.exchanges traffic.session traffic.log := by
  induction reached with
  | refl =>
      refine ⟨by simp [Apart, opening], ?_, ?_, ?_⟩
      · simp [Registered, opening]
      · simp [Accounted, opening]
      · exact ⟨rfl, by simp [opening], by simp [opening, claims], by simp [opening],
          by simp [opening], rfl⟩
  | tail earlier step ih =>
      have settled := Reached.settled (ReachedApart.reached earlier) idle
      exact ⟨step.2, step.1.routed ih.1 settled ih.2⟩

end Traffic
end RoadsideSnmp
