import RoadsideSnmp.Proofs.Session.Numbering
import RoadsideSnmp.Proofs.Session.Routing

/-! What requests on one session can rely on, whatever arrives and in whatever order they take
their steps: no reply is given to the wrong request, none is given twice, and none that somebody
awaits is lost. -/
namespace RoadsideSnmp

namespace Exchange

theorem advance_finish (exchange : Exchange) (result : Except Failure Message)
    (session : Session) :
    (exchange.finish result).advance session = (exchange.finish result, session) :=
  advance_of_idle rfl

theorem poll_of_mail {exchange : Exchange} {session : Session} {reply : Message}
    (waiting : exchange.stage = .waiting) (letters : (session.mail.map Prod.fst).Nodup)
    (sent : (exchange.ticket, reply) ∈ session.mail) :
    (exchange.poll session).1 = exchange.finish reply.outcome := by
  have found : session.mail.find? (·.1 = exchange.ticket) = some (exchange.ticket, reply) := by
    cases search : session.mail.find? (·.1 = exchange.ticket) with
    | none =>
        have none := List.find?_eq_none.mp search _ sent
        simp at none
    | some letter =>
        have inside := List.mem_of_find?_eq_some search
        have own : letter.1 = exchange.ticket := by simpa using List.find?_some search
        rw [List.inj_on_of_nodup_map letters inside sent own]
  have step : step? { exchange with stage := .checking } session =
      some (conclude { exchange with stage := .checking } reply session) := by
    simp only [step?, look, found]
  obtain ⟨listener, woken, concluded⟩ :=
    conclude_eq { exchange with stage := .checking } reply session
  rw [concluded] at step
  -- whoever waits for the turn looks into the mailbox first when polled
  rw [poll, resume, waiting]
  dsimp only
  rw [advance_of_step step, advance_finish]
  rfl

end Exchange

def Session.given? (session : Session) (exchange : Exchange) : Option (Except Failure Message) :=
  match exchange.result? with
  | some result => if isAnswer result then some result else none
  | none => (session.mail.lookup exchange.ticket).map Message.outcome

theorem Session.given?_eq_some {session : Session} (letters : (session.mail.map Prod.fst).Nodup)
    {exchange : Exchange} {result : Except Failure Message} :
    session.given? exchange = some result ↔
      exchange.result? = some result ∧ isAnswer result ∨ exchange.result? = none ∧
        ∃ reply, (exchange.ticket, reply) ∈ session.mail ∧ result = reply.outcome := by
  unfold given?
  cases closed : exchange.result? with
  | some found =>
      by_cases answer : isAnswer found
      · simp only [answer, if_true]
        constructor
        · intro same
          obtain rfl := Option.some.inj same
          exact .inl ⟨rfl, answer⟩
        · rintro (⟨same, -⟩ | ⟨absent, -⟩)
          · exact same
          · simp at absent
      · simp only [answer]
        constructor
        · intro same
          simp at same
        · rintro (⟨same, another⟩ | ⟨absent, -⟩)
          · obtain rfl := Option.some.inj same
            exact absurd another answer
          · simp at absent
  | none =>
      constructor
      · intro given
        obtain ⟨reply, found, rfl⟩ := Option.map_eq_some_iff.mp given
        exact .inr ⟨rfl, reply, mem_of_lookup found, rfl⟩
      · rintro (⟨absent, -⟩ | ⟨-, reply, sent, rfl⟩)
        · simp at absent
        · exact congrArg (Option.map Message.outcome) (lookup_of_mem letters sent)

namespace Traffic

def given (traffic : Traffic) : List (Ticket × Except Failure Message) :=
  traffic.exchanges.filterMap fun exchange =>
    (traffic.session.given? exchange).map fun result => (exchange.ticket, result)

/-- What was taken from the line for requests that have not been given up. -/
def due (traffic : Traffic) : List (Ticket × Except Failure Message) :=
  ((claims traffic.log).filter (·.1 ∉ traffic.dropped)).map fun claim =>
    (claim.1, claim.2.outcome)

variable {start : Session} {traffic : Traffic}

theorem mem_due {ticket : Ticket} {result : Except Failure Message} :
    (ticket, result) ∈ traffic.due ↔ ticket ∉ traffic.dropped ∧
      ∃ reply, (ticket, reply) ∈ claims traffic.log ∧ result = reply.outcome := by
  constructor
  · intro inside
    obtain ⟨⟨owner, reply⟩, claimed, same⟩ := List.mem_map.mp inside
    obtain ⟨rfl, rfl⟩ := Prod.mk.inj same
    obtain ⟨claimed, present⟩ := List.mem_filter.mp claimed
    exact ⟨by simpa using present, reply, claimed, rfl⟩
  · rintro ⟨present, reply, claimed, rfl⟩
    exact List.mem_map.mpr
      ⟨(ticket, reply), List.mem_filter.mpr ⟨claimed, by simpa using present⟩, rfl⟩

theorem mem_given (letters : (traffic.session.mail.map Prod.fst).Nodup) {ticket : Ticket}
    {result : Except Failure Message} : (ticket, result) ∈ traffic.given ↔
      ∃ exchange ∈ traffic.exchanges, exchange.ticket = ticket ∧
        (exchange.result? = some result ∧ isAnswer result ∨ exchange.result? = none ∧
          ∃ reply, (ticket, reply) ∈ traffic.session.mail ∧ result = reply.outcome) := by
  rw [given, List.mem_filterMap]
  constructor
  · rintro ⟨exchange, inside, same⟩
    obtain ⟨held, given, same⟩ := Option.map_eq_some_iff.mp same
    obtain ⟨rfl, rfl⟩ := Prod.mk.inj same
    exact ⟨exchange, inside, rfl, (Session.given?_eq_some letters).mp given⟩
  · rintro ⟨exchange, inside, rfl, facts⟩
    have given := (Session.given?_eq_some letters).mpr facts
    exact ⟨exchange, inside, by rw [given]; rfl⟩

theorem map_fst_given_sublist (exchanges : List Exchange)
    (give : Exchange → Option (Except Failure Message)) :
    ((exchanges.filterMap fun exchange =>
      (give exchange).map fun result => (exchange.ticket, result)).map Prod.fst).Sublist
      (exchanges.map Exchange.ticket) := by
  induction exchanges with
  | nil => exact .slnil
  | cons exchange exchanges ih =>
      cases given : give exchange with
      | none =>
          rw [List.filterMap_cons_none (by rw [given]; rfl), List.map_cons]
          exact ih.cons _
      | some result =>
          rw [List.filterMap_cons_some (by rw [given]; rfl), List.map_cons, List.map_cons]
          exact ih.cons_cons _

theorem given_nodup (tickets : (traffic.exchanges.map Exchange.ticket).Nodup) :
    traffic.given.Nodup :=
  (tickets.sublist (map_fst_given_sublist traffic.exchanges traffic.session.given?)).of_map _

theorem due_nodup
    (routed : Routed start traffic.dropped traffic.exchanges traffic.session traffic.log) :
    traffic.due.Nodup := by
  refine .of_map Prod.fst ?_
  rw [due, List.map_map, List.nodup_iff_count_le_one]
  intro ticket
  by_cases inside : ticket ∈ ((claims traffic.log).filter (·.1 ∉ traffic.dropped)).map Prod.fst
  · obtain ⟨claim, claimed, rfl⟩ := List.mem_map.mp inside
    obtain ⟨claimed, present⟩ := List.mem_filter.mp claimed
    obtain gone | ⟨exchange, among, same⟩ := routed.logged.owned claim claimed
    · exact absurd gone (by simpa using present)
    -- a request that is still there has been claimed for once at most
    have once := routed.accounted.length_claimed_le among
    rw [same, messagesFor, List.length_map, ← List.countP_eq_length_filter] at once
    rw [List.count, List.countP_map]
    refine Nat.le_trans (List.Sublist.countP_le List.filter_sublist) (Nat.le_trans ?_ once)
    refine List.countP_mono_left fun other _ equal => ?_
    simpa using equal
  · exact Nat.le_trans (Nat.le_of_eq (List.count_eq_zero.mpr inside)) (Nat.zero_le 1)

structure Undisturbed (start : Session) (traffic : Traffic) : Prop where
  tickets : (traffic.exchanges.map Exchange.ticket).Nodup
  present : ∀ exchange ∈ traffic.exchanges, exchange.ticket ∉ traffic.dropped
  /-- What was taken has arrived, and is taken in order and once. -/
  received : start.line.inbox ++ traffic.arrived =
    traffic.log.map Taking.delivery ++ traffic.session.line.inbox
  /-- A request is over with an answer only if that was received as a response to it. -/
  own : ∀ exchange ∈ traffic.exchanges, ∀ result, exchange.result? = some result →
    isAnswer result → ∃ octets reply,
      ⟨.message octets, some (exchange.ticket, reply)⟩ ∈ traffic.log ∧
        (start.unpack octets).1 = .ok reply ∧ reply.kind = .response ∧
        reply.requestId = exchange.requestId ∧ result = reply.outcome
  /-- What has been given and what was taken for someone are the same, one for one. -/
  once : traffic.given.Perm traffic.due
  /-- A response that was taken while its number was listed ends the attempt that listed it. -/
  handed : ∀ octets owner reply, ⟨.message octets, some (owner, reply)⟩ ∈ traffic.log →
    owner ∈ traffic.dropped ∨ ∃ exchange ∈ traffic.exchanges, exchange.ticket = owner ∧
      (exchange.result? = some reply.outcome ∨
        exchange.stage.isInside ∧ (owner, reply) ∈ traffic.session.mail ∧
          (exchange.poll traffic.session).1 = exchange.finish reply.outcome)
  /-- Stale are the messages that could be read and were taken for nobody. -/
  stale : traffic.session.counters.stale =
    start.counters.stale + traffic.log.countP start.isStale
  /-- Numbers are listed once. -/
  numbers : (traffic.session.pending.map Prod.fst).Nodup
  /-- Listed are the requests inside an attempt that have not been given a reply. -/
  listed : ∀ number ticket, (number, ticket) ∈ traffic.session.pending ↔
    ∃ exchange ∈ traffic.exchanges, exchange.requestId = number ∧ exchange.ticket = ticket ∧
      exchange.stage.isInside ∧ traffic.session.NoMail ticket

theorem given_perm_due
    (orderly : Orderly traffic.exchanges traffic.session)
    (routed : Routed start traffic.dropped traffic.exchanges traffic.session traffic.log) :
    traffic.given.Perm traffic.due := by
  -- neither list has anything twice, so it is enough that each has what the other has
  refine (List.perm_ext_iff_of_nodup (given_nodup orderly.tickets) (due_nodup routed)).mpr ?_
  rintro ⟨ticket, result⟩
  rw [mem_given orderly.letters, mem_due]
  constructor
  · rintro ⟨exchange, inside, rfl, ⟨closed, answer⟩ | ⟨-, reply, sent, rfl⟩⟩
    · obtain ⟨reply, claimed, -, rfl⟩ := routed.accounted.of_answered inside closed answer
      exact ⟨routed.logged.present exchange inside, reply, claimed, rfl⟩
    · exact ⟨routed.logged.present exchange inside, reply,
        routed.accounted.of_mail inside sent, rfl⟩
  · rintro ⟨present, reply, claimed, rfl⟩
    obtain gone | ⟨exchange, inside, rfl⟩ := routed.logged.owned _ claimed
    · exact absurd gone present
    refine ⟨exchange, inside, rfl, ?_⟩
    obtain closed | ⟨minds, sent⟩ := routed.accounted.of_claimed inside claimed
    · exact .inl ⟨closed, isAnswer_outcome reply⟩
    · refine .inr ⟨?_, reply, sent, rfl⟩
      cases stage : exchange.stage <;> simp_all [Exchange.result?, Stage.mindsMail]

theorem undisturbed_of_apart (reached : ReachedApart start traffic) (idle : start.Idle) :
    traffic.Undisturbed start := by
  have settled := reached.reached.settled idle
  have routed := (reached.routed idle).2
  constructor
  · exact settled.orderly.tickets
  · exact routed.logged.present
  · exact reached.reached.received
  · intro exchange inside result closed answer
    obtain ⟨reply, claimed, number, same⟩ := routed.accounted.of_answered inside closed answer
    obtain ⟨taking, taken, claim⟩ := List.mem_filterMap.mp claimed
    obtain ⟨⟨octets, delivery, decoded⟩, kind⟩ := routed.logged.received taking taken _ _ claim
    refine ⟨octets, reply, ?_, decoded, kind, number, same⟩
    rw [← delivery, ← claim]
    exact taken
  · exact given_perm_due settled.orderly routed
  · intro octets owner reply taken
    have claimed : (owner, reply) ∈ claims traffic.log :=
      List.mem_filterMap.mpr ⟨_, taken, rfl⟩
    refine (routed.logged.owned _ claimed).imp_right ?_
    rintro ⟨exchange, inside, rfl⟩
    refine ⟨exchange, inside, rfl, (routed.accounted.of_claimed inside claimed).imp_right ?_⟩
    rintro ⟨minds, sent⟩
    have open_ := Stage.isInside_of_mindsMail minds
    have waiting : exchange.stage = .waiting := by
      have rest := settled.rest exchange inside
      cases stage : exchange.stage <;> simp_all [Stage.mindsMail, Stage.isRest]
    exact ⟨open_, sent, Exchange.poll_of_mail waiting settled.orderly.letters sent⟩
  · exact routed.logged.stale
  · exact settled.orderly.numbers
  · intro number ticket
    constructor
    · intro listed
      obtain ⟨exchange, inside, same, facts⟩ := settled.orderly.pending _ listed
      obtain ⟨rfl, rfl⟩ := Prod.mk.inj same
      exact ⟨exchange, inside, rfl, rfl, facts⟩
    · rintro ⟨exchange, inside, rfl, rfl, open_, empty⟩
      exact routed.registered exchange inside open_ empty

/-- No request disturbs another while the numbers of those under way stay distinct, and they do on any
new session for its first 2³⁰ requests. -/
theorem undisturbed :
    (∀ {start : Session} {traffic : Traffic}, ReachedApart start traffic → start.Idle →
      traffic.Undisturbed start) ∧
    ∀ {config : Config} {line : Line} {nanoseconds : Nat} {traffic : Traffic},
      Reached (.start config line nanoseconds) traffic → traffic.session.nextTicket ≤ 2 ^ 30 →
        traffic.Undisturbed (.start config line nanoseconds) :=
  ⟨undisturbed_of_apart,
    fun reached few => undisturbed_of_apart (reached.reachedApart few) ⟨rfl, rfl⟩⟩

def sharedReply (requestId : Int32) : Message :=
  { Message.ofNames .v1 "public" .response [.ofNats [1, 3]] with requestId }

def sharedDelivery (requestId : Int32) : Delivery := .message (sharedReply requestId).encode

/-- An agent that is silent about the first message and answers two after the second, the second
one first. -/
def sharedStart : Session :=
  .start .standard ⟨"agent", false,
    Line.scripted [⟨[], false⟩, ⟨[sharedDelivery 2, sharedDelivery 1], false⟩], [], []⟩ 0

def sharedRequest : Message := .ofNames .v1 "public" .getRequest [.ofNats [1, 3]]

def sharedBegun : Traffic :=
  ((opening sharedStart).beginOne sharedRequest).beginOne sharedRequest

theorem reachedApart_sharedBegun : ReachedApart sharedStart sharedBegun :=
  .tail (.tail .refl ⟨step_beginOne (by decide), apart_of_nodup (by decide)⟩)
    ⟨step_beginOne (by decide), apart_of_nodup (by decide)⟩

def sharedTraffic : Traffic := [1, 0, 1, 0, 1].foldl pollAt sharedBegun

def sharedEnd : Traffic :=
  ([1, 0, 1, 0, 1].foldlM (pollAt? 12) sharedBegun).get (by decide +kernel)

theorem sharedTraffic_eq : sharedTraffic = sharedEnd := foldl_pollAt (Option.some_get _).symm

theorem undisturbed_sharedTraffic : sharedStart.Idle ∧
    ReachedApart sharedStart sharedTraffic ∧ sharedTraffic.Undisturbed sharedStart ∧
    sharedTraffic.exchanges.map (fun exchange => (exchange.ticket, exchange.result?)) =
      [(1, some (.ok (sharedReply 2))), (0, some (.ok (sharedReply 1)))] ∧
    sharedTraffic.arrived = [sharedDelivery 2, sharedDelivery 1] ∧
    sharedTraffic.log = [⟨sharedDelivery 2, some (1, sharedReply 2)⟩,
      ⟨sharedDelivery 1, some (0, sharedReply 1)⟩] ∧
    sharedTraffic.session.counters = ⟨2, 2, 0, 0, 0, 0, 0⟩ := by
  have idle : sharedStart.Idle := ⟨rfl, rfl⟩
  have reached : ReachedApart sharedStart sharedTraffic :=
    reachedApart_sharedBegun.polls (by decide) _
  refine ⟨idle, reached, undisturbed.1 reached idle, ?_⟩
  rw [sharedTraffic_eq]
  decide +kernel

end Traffic
end RoadsideSnmp
