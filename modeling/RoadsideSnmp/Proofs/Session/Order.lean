import Mathlib.Data.List.Nodup
import RoadsideSnmp.Proofs.Session.Traffic

/-! The order that requests keep among themselves, whatever their numbers. Every listed number and
every letter in a mailbox belongs to one request in the midst of an attempt, and only the first in
the queue reads the line; so a reply that is passed on always goes to a request that waits for its
turn, and is the first thing that it sees. -/
namespace RoadsideSnmp

def Session.NoMail (session : Session) (ticket : Ticket) : Prop :=
  ∀ letter ∈ session.mail, letter.1 ≠ ticket

structure Session.SameBooks (session after : Session) : Prop where
  nextTicket : session.nextTicket ≤ after.nextTicket
  pending : after.pending = session.pending
  mail : after.mail = session.mail
  turns : after.turns = session.turns

theorem mem_of_lookup {α β : Type} [BEq α] [LawfulBEq α] {entries : List (α × β)} {key : α}
    {value : β} (found : entries.lookup key = some value) : (key, value) ∈ entries := by
  obtain ⟨front, back, rfl, -⟩ := List.lookup_eq_some_iff.mp found
  exact List.mem_append_right _ List.mem_cons_self

theorem lookup_of_mem {α β : Type} [BEq α] [LawfulBEq α] {entries : List (α × β)} {key : α}
    {value : β} (keys : (entries.map Prod.fst).Nodup) (inside : (key, value) ∈ entries) :
    entries.lookup key = some value := by
  obtain ⟨front, back, rfl⟩ := List.append_of_mem inside
  refine List.lookup_eq_some_iff.mpr ⟨front, back, rfl, fun entry before => ?_⟩
  rw [List.map_append, List.nodup_append] at keys
  exact bne_iff_ne.mpr (keys.2.2 _ (List.mem_map_of_mem before) _ List.mem_cons_self).symm

/-- What holds of the requests on a session whatever happens. -/
structure Orderly (exchanges : List Exchange) (session : Session) : Prop where
  tickets : (exchanges.map Exchange.ticket).Nodup
  issued : ∀ exchange ∈ exchanges, exchange.ticket < session.nextTicket
  numbers : (session.pending.map Prod.fst).Nodup
  /-- A number is listed for a request that has been sent and has no reply. -/
  pending : ∀ entry ∈ session.pending, ∃ exchange ∈ exchanges,
    (exchange.requestId, exchange.ticket) = entry ∧ exchange.stage.isInside ∧
      session.NoMail exchange.ticket
  letters : (session.mail.map Prod.fst).Nodup
  /-- Whoever has a reply in the mailbox looks there next. -/
  mail : ∀ letter ∈ session.mail, ∃ exchange ∈ exchanges,
    exchange.ticket = letter.1 ∧ exchange.stage.mindsMail ∧
      letter.2.kind = .response ∧ letter.2.requestId = exchange.requestId
  turn : ∀ exchange ∈ exchanges, exchange.stage.hasTurn →
    session.turns.head? = some exchange.ticket

namespace Orderly

variable {exchanges others : List Exchange} {exchange next other : Exchange} {session : Session}

theorem idle (idle : session.Idle) : Orderly [] session where
  tickets := List.nodup_nil
  issued := by simp
  numbers := by simp [idle.pending]
  pending := by simp [idle.pending]
  letters := by simp [idle.mail]
  mail := by simp [idle.mail]
  turn := by simp

theorem congr (orderly : Orderly exchanges session) {after : Session}
    (same : session.SameBooks after) : Orderly exchanges after := by
  have empty : after.NoMail = session.NoMail := by
    funext ticket
    rw [Session.NoMail, same.mail, Session.NoMail]
  constructor
  · exact orderly.tickets
  · exact fun exchange inside => Nat.lt_of_lt_of_le (orderly.issued exchange inside) same.nextTicket
  · rw [same.pending]
    exact orderly.numbers
  · rw [same.pending, empty]
    exact orderly.pending
  · rw [same.mail]
    exact orderly.letters
  · rw [same.mail]
    exact orderly.mail
  · rw [same.turns]
    exact orderly.turn

theorem perm {listed : List Exchange} (orderly : Orderly exchanges session)
    (perm : exchanges.Perm listed) : Orderly listed session where
  tickets := (perm.map Exchange.ticket).nodup_iff.mp orderly.tickets
  issued exchange inside := orderly.issued exchange (perm.mem_iff.mpr inside)
  numbers := orderly.numbers
  pending entry inside := by
    obtain ⟨exchange, among, facts⟩ := orderly.pending entry inside
    exact ⟨exchange, perm.mem_iff.mp among, facts⟩
  letters := orderly.letters
  mail letter inside := by
    obtain ⟨exchange, among, facts⟩ := orderly.mail letter inside
    exact ⟨exchange, perm.mem_iff.mp among, facts⟩
  turn exchange inside := orderly.turn exchange (perm.mem_iff.mpr inside)

theorem eq_of_ticket (orderly : Orderly exchanges session) (first : exchange ∈ exchanges)
    (second : other ∈ exchanges) (same : exchange.ticket = other.ticket) : exchange = other :=
  List.inj_on_of_nodup_map orderly.tickets first second same

theorem noMail (orderly : Orderly exchanges session) (inside : exchange ∈ exchanges)
    (busy : ¬exchange.stage.mindsMail) : session.NoMail exchange.ticket := by
  intro letter sent same
  obtain ⟨owner, among, ticket, minds, -⟩ := orderly.mail letter sent
  obtain rfl := orderly.eq_of_ticket among inside (ticket.trans same)
  exact busy minds

theorem ticket_ne (orderly : Orderly (exchange :: others) session) (inside : other ∈ others) :
    other.ticket ≠ exchange.ticket := by
  have apart := orderly.tickets
  rw [List.map_cons, List.nodup_cons] at apart
  intro same
  exact apart.1 (same ▸ List.mem_map_of_mem inside)

theorem vacated (orderly : Orderly (exchange :: others) session) (listener : Option Ticket)
    (woken : List Ticket) : Orderly others (exchange.vacated session listener woken) where
  tickets := (List.nodup_cons.mp orderly.tickets).2
  issued other inside := orderly.issued other (List.mem_cons_of_mem _ inside)
  numbers := orderly.numbers.sublist (List.filter_sublist.map _)
  pending entry inside := by
    obtain ⟨listed, foreign⟩ := List.mem_filter.mp inside
    obtain ⟨owner, among, rfl, facts, empty⟩ := orderly.pending entry listed
    obtain rfl | among := List.mem_cons.mp among
    · simp at foreign
    · exact ⟨owner, among, rfl, facts, fun letter sent => empty letter (List.mem_of_mem_filter sent)⟩
  letters := orderly.letters.sublist (List.filter_sublist.map _)
  mail letter inside := by
    obtain ⟨sent, foreign⟩ := List.mem_filter.mp inside
    obtain ⟨owner, among, ticket, facts⟩ := orderly.mail letter sent
    obtain rfl | among := List.mem_cons.mp among
    · simp [ticket] at foreign
    · exact ⟨owner, among, ticket, facts⟩
  turn other inside turn := by
    -- whoever leaves was not first, or no other would have the turn
    have first := orderly.turn other (List.mem_cons_of_mem _ inside) turn
    obtain ⟨turns, listed⟩ := List.head?_eq_some_iff.mp first
    have apart := orderly.ticket_ne inside
    simp [Exchange.vacated, listed, apart]

theorem cons (orderly : Orderly others session) (fresh : next.ticket ∉ others.map Exchange.ticket)
    (issued : next.ticket < session.nextTicket) (outside : next.stage.isInside = false) :
    Orderly (next :: others) session where
  tickets := List.nodup_cons.mpr ⟨fresh, orderly.tickets⟩
  issued := List.forall_mem_cons.mpr ⟨issued, orderly.issued⟩
  numbers := orderly.numbers
  pending entry inside := by
    obtain ⟨exchange, among, facts⟩ := orderly.pending entry inside
    exact ⟨exchange, List.mem_cons_of_mem _ among, facts⟩
  letters := orderly.letters
  mail letter inside := by
    obtain ⟨exchange, among, facts⟩ := orderly.mail letter inside
    exact ⟨exchange, List.mem_cons_of_mem _ among, facts⟩
  turn := by
    refine List.forall_mem_cons.mpr ⟨fun turn => ?_, orderly.turn⟩
    simp [Stage.isInside_of_hasTurn turn] at outside

theorem register (orderly : Orderly (exchange :: others) session)
    (same : next.ticket = exchange.ticket ∧ next.requestId = exchange.requestId)
    (stage : next.stage = .checking) :
    Orderly (next :: others) (session.register exchange.requestId exchange.ticket) where
  tickets := by
    rw [List.map_cons, same.1]
    exact orderly.tickets
  issued := by
    refine List.forall_mem_cons.mpr ⟨?_, fun other inside =>
      orderly.issued other (List.mem_cons_of_mem _ inside)⟩
    rw [same.1]
    exact orderly.issued exchange List.mem_cons_self
  numbers := by
    -- whoever had the number before has lost it
    have others : ((session.pending.filter (·.1 ≠ exchange.requestId)).map Prod.fst).Nodup :=
      orderly.numbers.sublist (List.filter_sublist.map _)
    refine List.nodup_cons.mpr ⟨fun inside => ?_, others⟩
    obtain ⟨entry, listed, same⟩ := List.mem_map.mp inside
    simp [same] at listed
  pending entry inside := by
    obtain rfl | inside := List.mem_cons.mp inside
    · refine ⟨next, List.mem_cons_self, by rw [same.1, same.2], by rw [stage]; rfl, ?_⟩
      intro letter sent
      rw [same.1]
      simpa using (List.mem_filter.mp sent).2
    · obtain ⟨owner, among, facts⟩ := (orderly.vacated none []).pending entry inside
      exact ⟨owner, List.mem_cons_of_mem _ among, facts⟩
  letters := orderly.letters.sublist (List.filter_sublist.map _)
  mail letter inside := by
    obtain ⟨owner, among, facts⟩ := (orderly.vacated none []).mail letter inside
    exact ⟨owner, List.mem_cons_of_mem _ among, facts⟩
  turn := by
    refine List.forall_mem_cons.mpr ⟨fun turn => ?_, fun other inside =>
      orderly.turn other (List.mem_cons_of_mem _ inside)⟩
    simp [stage, Stage.hasTurn] at turn

theorem restage (orderly : Orderly (exchange :: others) session) {stage : Stage}
    {turns : List Ticket} (inside : exchange.stage.isInside → stage.isInside)
    (empty : ¬stage.mindsMail → session.NoMail exchange.ticket)
    (turn : stage.hasTurn → turns.head? = some exchange.ticket)
    (others_turn : ∀ other ∈ others, other.stage.hasTurn → turns.head? = some other.ticket) :
    Orderly ({ exchange with stage } :: others) { session with turns } where
  tickets := orderly.tickets
  issued := List.forall_mem_cons.mpr (List.forall_mem_cons.mp orderly.issued)
  numbers := orderly.numbers
  pending entry listed := by
    obtain ⟨owner, among, rfl, open_, without⟩ := orderly.pending entry listed
    obtain rfl | among := List.mem_cons.mp among
    · exact ⟨_, List.mem_cons_self, rfl, inside open_, without⟩
    · exact ⟨owner, List.mem_cons_of_mem _ among, rfl, open_, without⟩
  letters := orderly.letters
  mail letter sent := by
    obtain ⟨owner, among, same, minds, facts⟩ := orderly.mail letter sent
    obtain rfl | among := List.mem_cons.mp among
    · by_cases looks : stage.mindsMail
      · exact ⟨_, List.mem_cons_self, same, looks, facts⟩
      · exact absurd same.symm (empty looks letter sent)
    · exact ⟨owner, List.mem_cons_of_mem _ among, same, minds, facts⟩
  turn := List.forall_mem_cons.mpr ⟨turn, others_turn⟩

theorem turn_unique (orderly : Orderly (exchange :: others) session)
    (turn : exchange.stage.hasTurn) (inside : other ∈ others) : ¬other.stage.hasTurn := by
  intro another
  have first := orderly.turn exchange List.mem_cons_self turn
  have second := orderly.turn other (List.mem_cons_of_mem _ inside) another
  exact orderly.ticket_ne inside (Option.some.inj (second.symm.trans first))

theorem owner_waits (orderly : Orderly (exchange :: others) session)
    (rest : ∀ other ∈ others, other.stage.isRest) (turn : exchange.stage.hasTurn)
    {number : Int32} {owner : Ticket} (foreign : number ≠ exchange.requestId)
    (listed : (number, owner) ∈ session.pending) :
    ∃ other ∈ others, other.requestId = number ∧ other.ticket = owner ∧
      other.stage = .waiting ∧ session.NoMail owner := by
  obtain ⟨other, among, same, inside, empty⟩ := orderly.pending _ listed
  obtain ⟨rfl, rfl⟩ := Prod.mk.inj same
  obtain rfl | among := List.mem_cons.mp among
  · exact absurd rfl foreign
  · exact ⟨other, among, rfl, rfl, Stage.eq_waiting_of_isRest (rest other among) inside
      (orderly.turn_unique turn among), empty⟩

theorem deliver (orderly : Orderly (exchange :: others) session)
    (inside : other ∈ others) (waiting : other.stage = .waiting)
    (empty : session.NoMail other.ticket) {reply : Message} (kind : reply.kind = .response)
    (number : reply.requestId = other.requestId) :
    Orderly (exchange :: others) { session with
      pending := session.pending.filter (·.1 ≠ reply.requestId)
      mail := (other.ticket, reply) :: session.mail } where
  tickets := orderly.tickets
  issued := orderly.issued
  numbers := orderly.numbers.sublist (List.filter_sublist.map _)
  pending entry listed := by
    obtain ⟨listed, foreign⟩ := List.mem_filter.mp listed
    obtain ⟨owner, among, rfl, open_, without⟩ := orderly.pending entry listed
    refine ⟨owner, among, rfl, open_, List.forall_mem_cons.mpr ⟨fun same => ?_, without⟩⟩
    obtain rfl := orderly.eq_of_ticket (List.mem_cons_of_mem _ inside) among same
    simp [number] at foreign
  letters := by
    refine List.nodup_cons.mpr ⟨fun sent => ?_, orderly.letters⟩
    obtain ⟨letter, sent, same⟩ := List.mem_map.mp sent
    exact empty letter sent same
  mail := by
    refine List.forall_mem_cons.mpr ⟨?_, orderly.mail⟩
    exact ⟨other, List.mem_cons_of_mem _ inside, rfl, by rw [waiting]; rfl, kind, number⟩
  turn := orderly.turn

theorem leave (orderly : Orderly (exchange :: others) session) (ends : exchange.Ends next)
    (listener : Option Ticket) (woken : List Ticket) :
    Orderly (next :: others) (exchange.vacated session listener woken) := by
  have fresh := (List.nodup_cons.mp orderly.tickets).1
  have issued := orderly.issued exchange List.mem_cons_self
  rw [← ends.ticket] at fresh issued
  exact (orderly.vacated listener woken).cons fresh issued ends.outside

end Orderly

/-- What holds of a session in the midst of a poll, while the others are at rest. -/
structure Underway (others : List Exchange) (exchange : Exchange) (session : Session) : Prop where
  orderly : Orderly (exchange :: others) session
  rest : ∀ other ∈ others, other.stage.isRest
  /-- Only where it looks next can the exchange have mail. -/
  looked : exchange.stage ≠ .checking → session.NoMail exchange.ticket

namespace Underway

variable {others : List Exchange} {exchange next : Exchange} {session after : Session}

theorem leave {before : Session} {listener : Option Ticket} {woken : List Ticket}
    (underway : Underway others exchange session) (ends : exchange.Ends next)
    (same : session.SameBooks before) :
    Underway others next (exchange.vacated before listener woken) where
  orderly := (underway.orderly.congr same).leave ends listener woken
  rest := underway.rest
  looked _ letter sent := by
    rw [ends.ticket]
    simpa using (List.mem_filter.mp sent).2

theorem noMail_of_overdue (underway : Underway others exchange session)
    (overdue : exchange.Overdue session) : session.NoMail exchange.ticket := by
  by_cases stage : exchange.stage = .checking
  · rw [Exchange.Overdue, stage] at overdue
    exact overdue.1
  · exact underway.looked stage

theorem yield (underway : Underway others exchange session) (stage : exchange.stage = .reading) :
    Orderly ({ exchange with stage := .checking } :: others)
      { session with turns := session.turns.erase exchange.ticket } := by
  have turn : exchange.stage.hasTurn := by
    rw [stage]
    rfl
  have empty := underway.looked (by simp [stage])
  refine underway.orderly.restage (fun _ => rfl) (fun _ => empty) ?_ ?_
  · simp [Stage.hasTurn]
  · intro other inside another
    exact absurd another (underway.orderly.turn_unique turn inside)

theorem move (underway : Underway others exchange session) (move : exchange.Move session next after) :
    Underway others next after := by
  have orderly := underway.orderly
  have own_turn : exchange.stage.hasTurn → session.turns.head? = some exchange.ticket :=
    orderly.turn exchange List.mem_cons_self
  have others_turn : ∀ other ∈ others, other.stage.hasTurn →
      session.turns.head? = some other.ticket := fun other inside =>
    orderly.turn other (List.mem_cons_of_mem _ inside)
  cases move with
  | @sent woken stage =>
      have sent : Orderly (exchange :: others) (exchange.dispatched session woken) :=
        orderly.congr ⟨Nat.le_refl _, rfl, rfl, rfl⟩
      exact ⟨sent.register ⟨rfl, rfl⟩ rfl, underway.rest, absurd rfl⟩
  | refused | collected | broken | answered =>
      exact underway.leave (exchange.ends_finish _) ⟨Nat.le_refl _, rfl, rfl, rfl⟩
  | garbled | expired =>
      exact underway.leave (exchange.ends_failed _ _) ⟨Nat.le_refl _, rfl, rfl, rfl⟩
  | cleared stage empty =>
      have asking : Orderly ({ exchange with stage := .asking } :: others) session :=
        orderly.restage (fun _ => rfl) (fun _ => empty) (by simp [Stage.hasTurn]) others_turn
      exact ⟨asking, underway.rest, fun _ => empty⟩
  | asked stage joined =>
      have empty := underway.looked (by simp [stage])
      refine ⟨orderly.restage (fun _ => ?_) (fun _ => empty) ?_ ?_, underway.rest, fun _ => empty⟩
      · split <;> rfl
      · intro turn
        split at turn
        · next first => exact first
        · simp [Stage.hasTurn] at turn
      · intro other inside turn
        have first := others_turn other inside turn
        rw [joined]
        split
        · exact first
        · obtain ⟨turns, listed⟩ := List.head?_eq_some_iff.mp first
          rw [listed]
          rfl
  | listened stage =>
      have empty := underway.looked (by simp [stage])
      rw [stage] at own_turn
      have listening : Orderly ({ exchange with stage := .listening } :: others) session :=
        orderly.restage (fun _ => rfl) (fun _ => empty) (fun _ => own_turn rfl) others_turn
      exact ⟨listening.congr ⟨Nat.le_refl _, rfl, rfl, rfl⟩, underway.rest, fun _ => empty⟩
  | silenced stage =>
      have empty := underway.looked (by simp [stage])
      rw [stage] at own_turn
      have muted : Orderly ({ exchange with stage := .muted } :: others) session :=
        orderly.restage (fun _ => rfl) (fun _ => empty) (fun _ => own_turn rfl) others_turn
      exact ⟨muted.congr ⟨Nat.le_refl _, rfl, rfl, rfl⟩, underway.rest, fun _ => empty⟩
  | routed stage inbox unpacked kind foreign registered =>
      -- while one reads, whoever else is listed waits for the turn, so the letter is looked for
      have listed := mem_of_lookup registered
      have turn : exchange.stage.hasTurn := by
        rw [stage]
        rfl
      obtain ⟨owner, inside, number, rfl, waiting, without⟩ :=
        orderly.owner_waits underway.rest turn foreign listed
      have delivered := (underway.yield stage).deliver inside waiting without kind number.symm
      exact ⟨delivered.congr ⟨Nat.le_refl _, rfl, rfl, rfl⟩, underway.rest, absurd rfl⟩
  | dropped stage =>
      have yielded := underway.yield stage
      exact ⟨yielded.congr ⟨Nat.le_refl _, rfl, rfl, rfl⟩, underway.rest, absurd rfl⟩

end Underway

namespace Exchange

theorem isRest_of_idle {exchange : Exchange} {session : Session}
    (idle : exchange.step? session = none) : exchange.stage.isRest := by
  unfold step? at idle
  cases stage : exchange.stage <;> simp [stage, Stage.isRest] at idle ⊢

end Exchange

structure Settled (exchanges : List Exchange) (session : Session) : Prop where
  orderly : Orderly exchanges session
  rest : ∀ exchange ∈ exchanges, exchange.stage.isRest

namespace Settled

variable {exchanges others : List Exchange} {exchange : Exchange} {session : Session}

theorem perm {listed : List Exchange} (settled : Settled exchanges session)
    (perm : exchanges.Perm listed) : Settled listed session where
  orderly := settled.orderly.perm perm
  rest exchange inside := settled.rest exchange (perm.mem_iff.mpr inside)

theorem congr {after : Session} (settled : Settled exchanges session)
    (same : session.SameBooks after) : Settled exchanges after where
  orderly := settled.orderly.congr same
  rest := settled.rest

theorem resume (settled : Settled (exchange :: others) session) :
    Underway others (exchange.resume session).1 (exchange.resume session).2 := by
  have rest := (List.forall_mem_cons.mp settled.rest).2
  have own_turn : exchange.stage.hasTurn → session.turns.head? = some exchange.ticket :=
    settled.orderly.turn exchange List.mem_cons_self
  have others_turn : ∀ other ∈ others, other.stage.hasTurn →
      session.turns.head? = some other.ticket := fun other inside =>
    settled.orderly.turn other (List.mem_cons_of_mem _ inside)
  have empty : ¬exchange.stage.mindsMail → session.NoMail exchange.ticket :=
    settled.orderly.noMail List.mem_cons_self
  unfold Exchange.resume
  split
  · next stage =>
      have orderly : Orderly ({ exchange with stage := .checking } :: others) session :=
        settled.orderly.restage (fun _ => rfl) (absurd rfl) (by simp [Stage.hasTurn]) others_turn
      exact ⟨orderly, rest, absurd rfl⟩
  · next stage =>
      have none := empty (by simp [stage, Stage.mindsMail])
      rw [stage] at own_turn
      have orderly : Orderly ({ exchange with stage := .reading } :: others) session :=
        settled.orderly.restage (fun _ => rfl) (fun _ => none) (fun _ => own_turn rfl) others_turn
      obtain ⟨listener, ignored⟩ := session.ignore_eq exchange.ticket
      rw [ignored]
      exact ⟨orderly.congr ⟨Nat.le_refl _, rfl, rfl, rfl⟩, rest, fun _ => none⟩
  · next waiting _ =>
      refine ⟨settled.orderly, rest, fun checking => empty ?_⟩
      cases stage : exchange.stage <;> simp_all [Stage.mindsMail]

theorem poll (settled : Settled (exchange :: others) session) :
    Settled ((exchange.poll session).1 :: others) (exchange.poll session).2 := by
  have underway : Underway others (exchange.poll session).1 (exchange.poll session).2 :=
    Exchange.advance_keeps (fun exchange session _ => Underway others exchange session)
      (fun underway move => underway.move move) [] settled.resume
  refine ⟨underway.orderly, List.forall_mem_cons.mpr ⟨?_, underway.rest⟩⟩
  exact Exchange.isRest_of_idle (Exchange.step?_advance _ _)

theorem begin {after : Session} (settled : Settled others session)
    (begins : session.Begins exchange after) : Settled (exchange :: others) after where
  orderly := by
    have issued : exchange.ticket ∉ others.map Exchange.ticket := by
      intro inside
      obtain ⟨other, inside, same⟩ := List.mem_map.mp inside
      have less := settled.orderly.issued other inside
      rw [same, begins.ticket] at less
      exact Nat.lt_irrefl _ less
    have next : exchange.ticket < after.nextTicket := by
      rw [begins.ticket, begins.after]
      exact Nat.lt_succ_self _
    have orderly : Orderly others after := by
      refine settled.orderly.congr ⟨?_, ?_, ?_, ?_⟩
      · rw [begins.after]
        exact Nat.le_succ _
      all_goals
        rw [begins.after]
    exact orderly.cons issued next (by rw [begins.stage]; rfl)
  rest := List.forall_mem_cons.mpr ⟨by rw [begins.stage]; rfl, settled.rest⟩

theorem drop (settled : Settled (exchange :: others) session) :
    Settled others (exchange.cancel session) where
  orderly := by
    obtain ⟨listener, woken, left⟩ := exchange.quit_eq session
    rw [Exchange.cancel, left]
    exact settled.orderly.vacated listener woken
  rest := (List.forall_mem_cons.mp settled.rest).2

end Settled

namespace Traffic

variable {start : Session} {traffic after : Traffic}

theorem Step.settled (step : traffic.Step after)
    (settled : Settled traffic.exchanges traffic.session) :
    Settled after.exchanges after.session := by
  cases step with
  | begin begun => exact settled.begin (Session.begins begun)
  | poll listed =>
      rw [listed] at settled
      exact (settled.perm List.perm_middle).poll.perm List.perm_middle.symm
  | drop listed =>
      rw [listed] at settled
      exact (settled.perm List.perm_middle).drop
  | arrive | pass | rouse => exact settled.congr ⟨Nat.le_refl _, rfl, rfl, rfl⟩

theorem Reached.settled (reached : Reached start traffic) (idle : start.Idle) :
    Settled traffic.exchanges traffic.session := by
  induction reached with
  | refl => exact ⟨.idle idle, by simp [opening]⟩
  | tail _ step ih => exact step.settled ih

end Traffic
end RoadsideSnmp
