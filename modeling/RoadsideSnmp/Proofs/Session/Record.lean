import RoadsideSnmp.Proofs.Session.Accounts

/-! The record of what was taken from the line. Every reply in it was received, belongs to a request
that was begun, and everything else that could be read has been counted as stale. -/
namespace RoadsideSnmp

namespace Session

def reads (session : Session) : Delivery → Bool
  | .message octets => (session.unpack octets).1.toBool
  | .silence | .fault => false

/-- A message that can be read and that nobody awaited when it was taken. -/
def isStale (session : Session) (taking : Taking) : Bool :=
  session.reads taking.delivery && taking.claim.isNone

theorem isStale_eq_of_config {first second : Session} (config : first.config = second.config) :
    first.isStale = second.isStale := by
  have reads : first.reads = second.reads := by
    funext delivery
    cases delivery <;> simp [reads, unpack_eq_of_config config]
  funext taking
  rw [isStale, isStale, reads]

theorem claim?_eq_some {session : Session} {delivery : Delivery} {owner : Ticket} {reply : Message}
    (claimed : session.claim? delivery = some (owner, reply)) :
    (∃ octets, delivery = .message octets ∧ (session.unpack octets).1 = .ok reply) ∧
      reply.kind = .response ∧ session.pending.lookup reply.requestId = some owner := by
  unfold claim? at claimed
  split at claimed
  · next octets =>
      split at claimed
      · next message decoded =>
          split at claimed
          · next kind =>
              obtain ⟨found, listed, same⟩ := Option.map_eq_some_iff.mp claimed
              obtain ⟨rfl, rfl⟩ := Prod.mk.inj same
              exact ⟨⟨octets, rfl, decoded⟩, kind, listed⟩
          · simp at claimed
      · simp at claimed
  · simp at claimed
  · simp at claimed

end Session

structure Logged (start : Session) (dropped : List Ticket) (exchanges : List Exchange)
    (session : Session) (log : List Taking) : Prop where
  config : session.config = start.config
  /-- Only replies that were received are taken for anyone. -/
  received : ∀ taking ∈ log, ∀ owner reply, taking.claim = some (owner, reply) →
    (∃ octets, taking.delivery = .message octets ∧ (start.unpack octets).1 = .ok reply) ∧
      reply.kind = .response
  owned : ∀ claim ∈ claims log, claim.1 ∈ dropped ∨
    ∃ exchange ∈ exchanges, exchange.ticket = claim.1
  issued : ∀ ticket ∈ dropped, ticket < session.nextTicket
  present : ∀ exchange ∈ exchanges, exchange.ticket ∉ dropped
  stale : session.counters.stale = start.counters.stale + log.countP start.isStale

namespace Exchange

variable {exchange next : Exchange} {session after : Session}

theorem Move.stale {others : List Exchange} (move : exchange.Move session next after)
    (underway : Underway others exchange session)
    (registered : Registered (exchange :: others) session) :
    after.counters.stale =
      session.counters.stale + (exchange.taking? session).toList.countP session.isStale := by
  cases move with
  | sent stage | refused stage | collected stage | cleared stage | asked stage =>
      rw [taking?_of_ne_reading (by simp [stage])]
      rfl
  | listened stage inbox =>
      rw [taking?_of_empty inbox]
      rfl
  | silenced stage inbox | broken stage inbox =>
      rw [taking?_of_reading stage inbox]
      rfl
  | garbled stage inbox unpacked =>
      rw [taking?_of_reading stage inbox]
      simp [Session.isStale, Session.reads, unpacked, Except.toBool, vacated, Session.count,
        Session.taken]
  | answered stage inbox unpacked kind own =>
      have empty := underway.looked (by simp [stage])
      have listed := registered exchange List.mem_cons_self (by rw [stage]; rfl) empty
      rw [← own] at listed
      have found := lookup_of_mem underway.orderly.numbers listed
      rw [taking?_of_reading stage inbox]
      simp [Session.isStale, Session.claim?_message unpacked kind, found, vacated, Session.count,
        Session.taken]
  | routed stage inbox unpacked kind foreign listed =>
      rw [taking?_of_reading stage inbox]
      simp [Session.isStale, Session.claim?_message unpacked kind, listed, Session.taken]
  | dropped stage inbox unpacked unwanted =>
      have unclaimed := Session.claim?_of_unwanted unpacked fun kind => (unwanted kind).2
      rw [taking?_of_reading stage inbox]
      simp [Session.isStale, Session.reads, unpacked, unclaimed, Except.toBool, Session.count,
        Session.taken]
  | expired overdue =>
      rw [taking?_of_overdue overdue]
      rfl

end Exchange

namespace Logged

variable {start : Session} {dropped : List Ticket} {exchanges others : List Exchange}
  {exchange next : Exchange} {session after : Session} {log : List Taking}

theorem perm {listed : List Exchange} (logged : Logged start dropped exchanges session log)
    (perm : exchanges.Perm listed) : Logged start dropped listed session log where
  config := logged.config
  received := logged.received
  owned claim inside := by
    obtain gone | ⟨exchange, among, same⟩ := logged.owned claim inside
    · exact .inl gone
    · exact .inr ⟨exchange, perm.mem_iff.mp among, same⟩
  issued := logged.issued
  present exchange inside := logged.present exchange (perm.mem_iff.mpr inside)
  stale := logged.stale

theorem move (logged : Logged start dropped (exchange :: others) session log)
    (underway : Underway others exchange session)
    (registered : Registered (exchange :: others) session)
    (move : exchange.Move session next after) :
    Logged start dropped (next :: others) after (log ++ (exchange.taking? session).toList) := by
  have unpack := Session.unpack_eq_of_config logged.config
  have kept : ∀ {ticket}, (∃ other ∈ exchange :: others, other.ticket = ticket) →
      ∃ other ∈ next :: others, other.ticket = ticket := by
    rintro ticket ⟨other, among, rfl⟩
    obtain rfl | among := List.mem_cons.mp among
    · exact ⟨next, List.mem_cons_self, move.same.1⟩
    · exact ⟨other, List.mem_cons_of_mem _ among, rfl⟩
  have fresh : ∀ taking ∈ (exchange.taking? session).toList,
      taking.claim = session.claim? taking.delivery := by
    intro taking taken
    unfold Exchange.taking? at taken
    split at taken
    · obtain rfl := List.mem_singleton.mp taken
      rfl
    · simp at taken
  constructor
  · exact move.config.trans logged.config
  · intro taking inside owner reply claimed
    obtain before | taken := List.mem_append.mp inside
    · exact logged.received taking before owner reply claimed
    · rw [fresh taking taken] at claimed
      have facts := Session.claim?_eq_some claimed
      rw [← unpack]
      exact ⟨facts.1, facts.2.1⟩
  · intro claim inside
    rw [claims_append] at inside
    obtain before | new := List.mem_append.mp inside
    · exact (logged.owned claim before).imp_right kept
    · obtain ⟨taking, taken, claimed⟩ := List.mem_filterMap.mp new
      rw [fresh taking taken] at claimed
      have listed := mem_of_lookup (Session.claim?_eq_some claimed).2.2
      obtain ⟨owner, among, same, -⟩ := underway.orderly.pending _ listed
      exact .inr (kept ⟨owner, among, (Prod.mk.inj same).2⟩)
  · rw [move.nextTicket]
    exact logged.issued
  · have present := List.forall_mem_cons.mp logged.present
    refine List.forall_mem_cons.mpr ⟨?_, present.2⟩
    rw [move.same.1]
    exact present.1
  · rw [move.stale underway registered, logged.stale, List.countP_append,
      Session.isStale_eq_of_config logged.config]
    exact Nat.add_assoc _ _ _

end Logged
end RoadsideSnmp
