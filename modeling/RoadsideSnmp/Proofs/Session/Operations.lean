import RoadsideSnmp.Proofs.Session.Attempts
import RoadsideSnmp.Proofs.Session.Balance
import RoadsideSnmp.Session.Together

/-! The operations of a session are traffic. Whether they are performed one after another or share
the session, all that they do is begin requests and poll them while time passes; and when they are
over, so are all the requests that they began. -/
namespace RoadsideSnmp

namespace Traffic

def running (traffic : Traffic) : List Exchange := traffic.exchanges.filter (·.result?.isNone)

structure Faultless (traffic : Traffic) : Prop where
  agent : ∀ sent, .fault ∉ (traffic.session.line.agent sent).deliveries
  inbox : .fault ∉ traffic.session.line.inbox
  log : .fault ∉ traffic.log.map Taking.delivery

/-- From the traffic the session can come to be, with those requests under way, none of the others
given up and no fault but the agent's. -/
def Leads (traffic : Traffic) (session : Session) (running : List Exchange) : Prop :=
  ∃ after, Relation.ReflTransGen Step traffic after ∧ after.session = session ∧
    after.dropped = traffic.dropped ∧ (traffic.Faultless → after.Faultless) ∧
    after.running.Perm running

section

variable {traffic : Traffic} {session after : Session} {others rest : List Exchange}
  {exchange : Exchange}

theorem Leads.refl (running : traffic.running.Perm others) : traffic.Leads traffic.session others :=
  ⟨traffic, .refl, rfl, rfl, id, running⟩

theorem Leads.trans (leads : traffic.Leads session others)
    (onward : ∀ {middle : Traffic}, middle.session = session → middle.running.Perm others →
      middle.Leads after rest) : traffic.Leads after rest := by
  obtain ⟨middle, steps, same, dropped, faultless, running⟩ := leads
  obtain ⟨last, more, final, kept, clean, left⟩ := onward same running
  exact ⟨last, steps.trans more, final, kept.trans dropped, clean ∘ faultless, left⟩

theorem Leads.perm (leads : traffic.Leads session others) (perm : others.Perm rest) :
    traffic.Leads session rest := by
  obtain ⟨after, steps, same, dropped, faultless, running⟩ := leads
  exact ⟨after, steps, same, dropped, faultless, running.trans perm⟩

theorem leads_begin {message : Message} (running : traffic.running.Perm others)
    (begun : traffic.session.begin message = .ok (exchange, after)) :
    traffic.Leads after (exchange :: others) := by
  have begins := Session.begins begun
  have unfinished : exchange.result? = none := by simp [Exchange.result?, begins.stage]
  refine ⟨_, .single (.begin begun), rfl, rfl, fun clean => ?_, ?_⟩
  · have line : after.line = traffic.session.line := by rw [begins.after]
    constructor
    · rw [line]
      exact clean.agent
    · rw [line]
      exact clean.inbox
    · exact clean.log
  · rw [Traffic.running, List.filter_cons_of_pos (by simp [unfinished])]
    exact running.cons _

theorem leads_pass (running : traffic.running.Perm others) (time : Nat) :
    traffic.Leads (traffic.session.advanceTo time) others :=
  ⟨_, .single (.pass time), rfl, rfl, fun clean => ⟨clean.agent, clean.inbox, clean.log⟩, running⟩

theorem leads_leap (running : traffic.running.Perm others) (time : Nat) :
    traffic.Leads (traffic.session.leapTo time) others :=
  leads_pass running _

theorem leads_rouse (running : traffic.running.Perm others) (woken : List Ticket) :
    traffic.Leads { traffic.session with woken } others :=
  ⟨_, .single (.rouse woken), rfl, rfl, fun clean => ⟨clean.agent, clean.inbox, clean.log⟩, running⟩

theorem leads_poll (running : traffic.running.Perm (exchange :: others)) :
    traffic.Leads (exchange.poll traffic.session).2
      ([(exchange.poll traffic.session).1].filter (·.result?.isNone) ++ others) := by
  have inside : exchange ∈ traffic.running := running.mem_iff.mpr List.mem_cons_self
  obtain ⟨listed, unfinished⟩ := List.mem_filter.mp inside
  obtain ⟨before, later, split⟩ := List.append_of_mem listed
  have kept : (exchange :: later).filter (·.result?.isNone) =
      exchange :: later.filter (·.result?.isNone) := List.filter_cons_of_pos unfinished
  rw [Traffic.running, split, List.filter_append, kept] at running
  have same := (List.perm_middle.symm.trans running).cons_inv
  refine ⟨_, .single (.poll split), rfl, rfl, fun clean => ?_, ?_⟩
  · have goes := exchange.poll_goes traffic.session
    have faultless := goes.forall_mem (· ≠ .fault)
      (fun _ waits same => clean.inbox (same ▸ waits))
      (fun sent _ added same => clean.agent sent (same ▸ added))
    constructor
    · exact goes.agent ▸ clean.agent
    · exact fun fault => faultless.2 _ fault rfl
    · dsimp only
      rw [List.map_append, List.mem_append, not_or]
      exact ⟨clean.log, fun fault => faultless.1 _ fault rfl⟩
  · rw [Traffic.running, List.filter_append, ← List.singleton_append, List.filter_append]
    exact (List.perm_append_comm_assoc _ _ _).trans (same.append_left _)

theorem Leads.finished (closed : exchange.result? ≠ none)
    (running : traffic.running.Perm ([exchange].filter (·.result?.isNone) ++ others)) :
    traffic.Leads traffic.session others := by
  rw [List.filter_cons_of_neg (by simpa using closed)] at running
  exact .refl running

theorem leads_await {deadlines : Nat}
    (running : traffic.running.Perm ([exchange].filter (·.result?.isNone) ++ others))
    (few : exchange.attempt ≤ traffic.session.config.retries)
    (enough : exchange.result? = none → exchange.stage.isInside ∧
      traffic.session.config.retries < exchange.attempt + deadlines) :
    traffic.Leads (Session.await deadlines exchange traffic.session).2 others := by
  -- each deadline spends an attempt, so they do not run out before the attempts do
  induction deadlines generalizing traffic exchange with
  | zero =>
      refine .finished (fun unfinished => ?_) running
      exact absurd few (Nat.not_le_of_lt (enough unfinished).2)
  | succ deadlines ih =>
      unfold Session.await
      split
      · next result closed => exact .finished (by simp [closed]) running
      · next unfinished =>
          obtain ⟨inside, enough⟩ := enough unfinished
          rw [List.filter_cons_of_pos (by simp [unfinished])] at running
          refine (leads_leap running exchange.deadline).trans fun {middle} same running => ?_
          have late : exchange.deadline ≤ middle.session.now := by
            rw [same]
            exact traffic.session.le_now_leapTo _
          have config : middle.session.config = traffic.session.config := by
            rw [same]
            rfl
          rw [← config] at few enough
          rw [← same]
          refine (leads_poll running).trans fun {last} same running => ?_
          have kept : last.session.config = middle.session.config := by
            rw [same, exchange.config_poll]
          dsimp only
          rw [← same]
          refine ih running ?_ fun unfinished => ⟨(Exchange.lt_deadline_poll unfinished).1, ?_⟩
          · rw [kept]
            exact Exchange.attempt_poll_le few
          · have later := Exchange.attempt_lt_poll inside late unfinished
            rw [kept]
            omega

theorem leads_request (message : Message) (running : traffic.running.Perm others) :
    traffic.Leads (traffic.session.request message).2 others := by
  unfold Session.request
  split
  · exact .refl running
  · next exchange after begun =>
      have begins := Session.begins begun
      refine (leads_begin running begun).trans fun {middle} same running => ?_
      have few : exchange.attempt ≤ middle.session.config.retries := by
        rw [begins.attempt]
        exact Nat.zero_le _
      rw [← same]
      refine (leads_poll running).trans fun {last} same running => ?_
      have kept : last.session.config = middle.session.config := by
        rw [same, exchange.config_poll]
      dsimp only
      rw [← same]
      refine leads_await running ?_ fun unfinished => ⟨(Exchange.lt_deadline_poll unfinished).1, ?_⟩
      · rw [kept]
        exact Exchange.attempt_poll_le few
      · omega

theorem leads_perform {α : Type} (dialogue : Dialogue α) (running : traffic.running.Perm others) :
    traffic.Leads (dialogue.perform traffic.session).2 others := by
  induction dialogue generalizing traffic with
  | answer answer => exact .refl running
  | ask message next ih =>
      refine (leads_request message running).trans fun same running => ?_
      rw [Dialogue.perform, ← same]
      exact ih _ running

end

section

variable {α : Type} {traffic : Traffic} {others : List Exchange} {exchange : Exchange}

theorem leads_running {next : Except Failure Message → Dialogue α}
    (onward : ∀ result {traffic : Traffic}, traffic.running.Perm others →
      traffic.Leads (Task.ofDialogue (next result) traffic.session).2
        ((Task.ofDialogue (next result) traffic.session).1.exchange?.toList ++ others))
    (running : traffic.running.Perm (exchange :: others)) :
    traffic.Leads ((Task.running exchange next).poll traffic.session).2
      (((Task.running exchange next).poll traffic.session).1.exchange?.toList ++ others) := by
  have polled := leads_poll running
  unfold Task.poll
  dsimp only
  split
  · next result closed =>
      rw [List.filter_cons_of_neg (by simp [closed])] at polled
      refine polled.trans fun same running => ?_
      rw [← same]
      exact onward result running
  · next closed =>
      rw [List.filter_cons_of_pos (by simp [closed])] at polled
      exact polled

theorem leads_ofDialogue (dialogue : Dialogue α) (running : traffic.running.Perm others) :
    traffic.Leads (Task.ofDialogue dialogue traffic.session).2
      ((Task.ofDialogue dialogue traffic.session).1.exchange?.toList ++ others) := by
  induction dialogue generalizing traffic with
  | answer answer => exact .refl running
  | ask message next ih =>
      unfold Task.ofDialogue
      split
      · exact ih _ running
      · next exchange after begun =>
          refine (leads_begin running begun).trans fun same running => ?_
          rw [← same]
          exact leads_running ih running

theorem leads_taskPoll (task : Task α)
    (running : traffic.running.Perm (task.exchange?.toList ++ others)) :
    traffic.Leads (task.poll traffic.session).2
      ((task.poll traffic.session).1.exchange?.toList ++ others) := by
  cases task with
  | done answer => exact .refl running
  | running exchange next => exact leads_running (fun result => leads_ofDialogue _) running

end

end Traffic

namespace Together
open Traffic

variable {α : Type} {traffic : Traffic} {others : List Exchange}

theorem filterMap_exchange?_cons (task : Task α) (tasks : List (Task α)) :
    (task :: tasks).filterMap Task.exchange? =
      task.exchange?.toList ++ tasks.filterMap Task.exchange? := by
  cases task <;> rfl

theorem leads_beginAll (dialogues : List (Dialogue α)) (running : traffic.running.Perm others) :
    traffic.Leads (beginAll dialogues traffic.session).2
      ((beginAll dialogues traffic.session).1.filterMap Task.exchange? ++ others) := by
  induction dialogues generalizing traffic others with
  | nil => exact .refl running
  | cons dialogue dialogues ih =>
      refine (leads_ofDialogue dialogue running).trans fun same running => ?_
      unfold beginAll
      dsimp only
      rw [← same, filterMap_exchange?_cons, List.append_assoc]
      exact (ih running).perm (List.perm_append_comm_assoc _ _ _)

theorem leads_pollOne (ticket : Ticket) (tasks : List (Task α))
    (running : traffic.running.Perm (tasks.filterMap Task.exchange? ++ others)) :
    traffic.Leads (pollOne ticket tasks traffic.session).2
      ((pollOne ticket tasks traffic.session).1.filterMap Task.exchange? ++ others) := by
  induction tasks generalizing others with
  | nil => exact .refl running
  | cons task tasks ih =>
      rw [filterMap_exchange?_cons, List.append_assoc] at running
      unfold pollOne
      split
      · dsimp only
        rw [filterMap_exchange?_cons, List.append_assoc]
        exact leads_taskPoll task running
      · dsimp only
        rw [filterMap_exchange?_cons, List.append_assoc]
        have rest := ih (running.trans (List.perm_append_comm_assoc _ _ _))
        exact rest.perm (List.perm_append_comm_assoc _ _ _)

theorem leads_round? {tasks next : List (Task α)} {after : Session}
    (running : traffic.running.Perm (tasks.filterMap Task.exchange?))
    (round : round? tasks traffic.session = some (next, after)) :
    traffic.Leads after (next.filterMap Task.exchange?) := by
  unfold round? at round
  split at round
  · next ticket woken _ =>
      refine (leads_rouse running woken).trans fun {middle} same running => ?_
      rw [← same, Option.some_inj] at round
      have polled := leads_pollOne ticket tasks (running.trans (.of_eq (List.append_nil _).symm))
      rwa [round, List.append_nil] at polled
  · obtain ⟨time, -, round⟩ := Option.map_eq_some_iff.mp round
    obtain ⟨rfl, rfl⟩ := Prod.mk.inj round
    refine (leads_leap running time).trans fun same running => ?_
    rw [← same]
    exact leads_rouse running _

theorem leads_settle (rounds : Nat) {tasks : List (Task α)}
    (running : traffic.running.Perm (tasks.filterMap Task.exchange?)) :
    traffic.Leads (settle rounds tasks traffic.session).2
      ((settle rounds tasks traffic.session).1.filterMap Task.exchange?) := by
  induction rounds generalizing traffic tasks with
  | zero => exact .refl running
  | succ rounds ih =>
      unfold settle
      split
      · next round =>
          refine (leads_round? running round).trans fun same running => ?_
          rw [← same]
          exact ih running
      · exact .refl running

theorem leads_perform (rounds : Nat) (dialogues : List (Dialogue α))
    (running : traffic.running = []) :
    traffic.Leads (perform rounds dialogues traffic.session).2
      ((settle rounds (beginAll dialogues traffic.session).1
        (beginAll dialogues traffic.session).2).1.filterMap Task.exchange?) := by
  refine (leads_beginAll dialogues (.of_eq running)).trans fun same running => ?_
  rw [List.append_nil] at running
  rw [perform, ← same]
  exact leads_settle rounds running

end Together

/-- What can become of a session by operations each of which is over before the next begins. What
arrives between them is no fault. -/
inductive Session.Served (start : Session) : Session → Prop
  | fresh : Served start start
  | alone {α : Type} {session : Session} (earlier : Served start session)
      (dialogue : Dialogue α) : Served start (dialogue.perform session).2
  | together {α : Type} {session : Session} (earlier : Served start session) (rounds : Nat)
      (dialogues : List (Dialogue α))
      (closed : ∀ answer ∈ (Together.perform rounds dialogues session).1, answer.isSome) :
      Served start (Together.perform rounds dialogues session).2
  | queued {session : Session} (earlier : Served start session) {deliveries : List Delivery}
      (clean : .fault ∉ deliveries) :
      Served start { session with line := session.line.queue deliveries }
  | slept {session : Session} (earlier : Served start session) (time : Nat) :
      Served start (session.advanceTo time)

namespace Session.Served
open Traffic

variable {start session : Session}

theorem exchange?_eq_none_of_answer? {α : Type} {tasks : List (Task α)}
    (closed : ∀ answer ∈ tasks.map Task.answer?, answer.isSome) :
    tasks.filterMap Task.exchange? = [] := by
  rw [List.forall_mem_map] at closed
  rw [List.filterMap_eq_nil_iff]
  intro task listed
  have done := closed task listed
  cases task with
  | done => rfl
  | running => simp [Task.answer?] at done

theorem leads (served : Served start session) : (opening start).Leads session [] := by
  induction served with
  | fresh => exact .refl (.of_eq rfl)
  | alone _ dialogue ih =>
      refine ih.trans fun same running => ?_
      rw [← same]
      exact leads_perform dialogue running
  | together _ rounds dialogues closed ih =>
      refine ih.trans fun same running => ?_
      rw [← same] at closed ⊢
      have shared := Together.leads_perform rounds dialogues running.eq_nil
      rwa [exchange?_eq_none_of_answer? closed] at shared
  | queued _ clean ih =>
      refine ih.trans fun same running => ?_
      rw [← same]
      refine ⟨_, .single (.arrive _), rfl, rfl, fun faultless => ?_, running⟩
      refine ⟨faultless.agent, ?_, faultless.log⟩
      exact fun fault => (List.mem_append.mp fault).elim faultless.inbox clean
  | slept _ time ih =>
      refine ih.trans fun same running => ?_
      rw [← same]
      exact leads_pass running time

theorem balanced (served : Served start session) (idle : start.Idle)
    (zero : start.counters = .zero) (accepts : start.Accepts)
    (clean : (opening start).Faultless) :
    ∃ traffic, Reached start traffic ∧ traffic.session = session ∧ traffic.Balances start := by
  obtain ⟨traffic, reached, same, kept, faultless, running⟩ := served.leads
  refine ⟨traffic, reached, same, ?_⟩
  have whole := Reached.balanced reached idle zero accepts kept
  refine balances_of_over whole (Reached.settled reached idle) ?_ ?_
  · rintro taking taken fault
    exact (faultless clean).log (fault ▸ List.mem_map_of_mem taken)
  · intro exchange listed unfinished
    have waits := List.filter_eq_nil_iff.mp running.eq_nil exchange listed
    simp [unfinished] at waits

end Session.Served

namespace Traffic

/-- On a line that never fails the counters balance whenever no request is under way and none has
been given up; so they balance between operations. -/
theorem balances {start : Session} (idle : start.Idle) (zero : start.counters = .zero)
    (accepts : start.Accepts) :
    (∀ {traffic : Traffic}, Reached start traffic →
      (∀ taking ∈ traffic.log, taking.delivery ≠ .fault) → traffic.dropped = [] →
      (∀ exchange ∈ traffic.exchanges, exchange.result? ≠ none) → traffic.Balances start) ∧
    ∀ {session : Session}, start.Served session → (opening start).Faultless →
      ∃ traffic, Reached start traffic ∧ traffic.session = session ∧ traffic.Balances start :=
  ⟨fun reached received kept closed =>
    balances_of_over (reached.balanced idle zero accepts kept) (reached.settled idle) received closed,
   fun served clean => served.balanced idle zero accepts clean⟩

def lossyReply (requestId : Int32) : Message :=
  { Message.ofNames .v1 "public" .response [.ofNats [1, 3]] with requestId }

/-- A line with frames and a poor connection: a late reply and an empty frame, and after the second
attempt a frame that is damaged and still of use. -/
def lossyLine : Line where
  peer := "agent"
  framed := true
  agent := Line.scripted [
    ⟨[.message ((lossyReply 9).packet (some .standard)), .message (Pmpp.frame .standard [])],
      false⟩,
    ⟨[.message (Pmpp.enclose (Pmpp.Station.standard.octets ++ (lossyReply 1).encode) 0)],
      false⟩]
  inbox := []
  sent := []

def lossyStart : Session := .start .standard lossyLine 0

def lossyRequest : Message := .ofNames .v1 "public" .getRequest [.ofNats [1, 3]]

def lossyBegun : Traffic := (opening lossyStart).beginOne lossyRequest

def lossyRun : Traffic := lossyBegun.pollAt 0

def lossyEnd : Traffic := (lossyBegun.pollAt? 12 0).get (by decide +kernel)

theorem lossyRun_eq : lossyRun = lossyEnd := pollAt_of_pollAt? (Option.some_get _).symm

theorem request_lossy : lossyStart.request lossyRequest = (.ok (lossyReply 1), lossyRun.session) := by
  obtain ⟨exchange, session, begun, first⟩ : ∃ exchange session,
      lossyStart.begin lossyRequest = .ok (exchange, session) ∧
        lossyRun.exchanges = [(exchange.poll session).1] ∧
        lossyRun.session = (exchange.poll session).2 := ⟨_, _, rfl, rfl, rfl⟩
  have ended : ∀ exchange ∈ lossyRun.exchanges, exchange.result? = some (.ok (lossyReply 1)) := by
    rw [lossyRun_eq]
    decide +kernel
  rw [Session.request, begun, first.2]
  exact Session.await_of_result _ _ (ended _ (by rw [first.1]; exact List.mem_cons_self))

theorem balances_lossyRun : (Reached lossyStart lossyRun ∧ lossyRun.Balances lossyStart) ∧
    (∃ traffic, Reached lossyStart traffic ∧
      traffic.session = (lossyStart.request lossyRequest).2 ∧ traffic.Balances lossyStart) ∧
    (lossyStart.request lossyRequest).2.counters = ⟨1, 1, 0, 1, 1, 1, 1⟩ := by
  have idle : lossyStart.Idle := ⟨rfl, rfl⟩
  have reactions : ∀ sent, (lossyStart.line.agent sent).refused = false ∧
      .fault ∉ (lossyStart.line.agent sent).deliveries := by
    intro sent
    change (Line.scripted _ sent).refused = false ∧ .fault ∉ (Line.scripted _ sent).deliveries
    unfold Line.scripted
    rcases sent.length - 1 with _ | _ | place <;> simp [Line.quiet]
  have reached : Reached lossyStart lossyRun :=
    .tail (.tail .refl (step_beginOne rfl)) (step_pollAt (by decide))
  have received : ∀ taking ∈ lossyRun.log, taking.delivery ≠ .fault := by
    rw [lossyRun_eq]
    decide +kernel
  have closed : ∀ exchange ∈ lossyRun.exchanges, exchange.result?.isSome := by
    rw [lossyRun_eq]
    decide +kernel
  have served : lossyStart.Served (lossyStart.request lossyRequest).2 :=
    .alone .fresh (Dialogue.request lossyRequest id)
  have clean : (opening lossyStart).Faultless :=
    ⟨fun sent => (reactions sent).2, List.not_mem_nil, List.not_mem_nil⟩
  have whole := balances idle rfl fun sent => (reactions sent).1
  refine ⟨⟨reached, whole.1 reached received rfl fun exchange listed => ?_⟩,
    whole.2 served clean, ?_⟩
  · exact Option.isSome_iff_ne_none.mp (closed exchange listed)
  · rw [request_lossy, lossyRun_eq]
    decide +kernel

end Traffic
end RoadsideSnmp
