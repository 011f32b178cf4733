import RoadsideSnmp.Proofs.Session.Overlap
import RoadsideSnmp.Proofs.Session.Undisturbed

/-! What becomes of a reply when polls overlap. A request that has yet to look when its reply is
put into its mailbox ends with that reply, whatever happens in between. One that has just looked
may be overtaken by the reply: it gets the turn, reads the line and is late in the end, or finds
itself late at once. -/
namespace RoadsideSnmp

namespace Exchange

variable {exchange next : Exchange} {session after : Session} {reply : Message}

/-- The request is over with the reply, or has it in its mailbox and does not read the line. -/
def Heeds (exchange : Exchange) (reply : Message) (session : Session) : Prop :=
  exchange.result? = some reply.outcome ∨
    (exchange.ticket, reply) ∈ session.mail ∧ exchange.stage.isInside ∧ ¬exchange.stage.hasTurn

/-- The request has looked into its mailbox and not got the turn yet. -/
def HasLooked (exchange : Exchange) : Prop := exchange.stage = .asking ∨ exchange.stage = .waiting

/-- From where it has looked the request goes on to read, or is late. -/
def GoesOn (exchange : Exchange) (session : Session) (next : Exchange) : Prop :=
  exchange.stage = .asking ∧ next.stage = .reading ∨
    exchange.stage = .waiting ∧ exchange.deadline ≤ session.now ∧ next.stage.isInside = false

def firstStep? (exchange : Exchange) (session : Session) : Option Exchange :=
  ((exchange.resume session).1.step? (exchange.resume session).2).map Prod.fst

theorem Move.mem_mail (move : exchange.Move session next after) {letter : Ticket × Message}
    (sent : letter ∈ session.mail) (foreign : letter.1 ≠ exchange.ticket) :
    letter ∈ after.mail := by
  have kept : letter ∈ session.mail.filter (·.1 ≠ exchange.ticket) :=
    List.mem_filter.mpr ⟨sent, by simpa using foreign⟩
  cases move with
  | sent | refused | collected | broken | garbled | answered | expired => exact kept
  | routed => exact List.mem_cons_of_mem _ sent
  | _ => exact sent

theorem Move.of_mem_mail (move : exchange.Move session next after) {letter : Ticket × Message}
    (put : letter ∈ after.mail) (fresh : letter ∉ session.mail) :
    exchange.stage = .reading ∧ letter.2.requestId ≠ exchange.requestId ∧
      (letter.2.requestId, letter.1) ∈ session.pending := by
  have absent : letter ∉ session.mail.filter (·.1 ≠ exchange.ticket) :=
    mt List.mem_of_mem_filter fresh
  cases move with
  | sent | refused | collected | broken | garbled | answered | expired => exact absurd put absent
  | routed stage inbox unpacked kind foreign registered =>
      obtain rfl | old := List.mem_cons.mp put
      · exact ⟨stage, foreign, mem_of_lookup registered⟩
      · exact absurd old fresh
  | _ => exact absurd put fresh

theorem Move.of_letter (move : exchange.Move session next after)
    (letters : (session.mail.map Prod.fst).Nodup) (sent : (exchange.ticket, reply) ∈ session.mail)
    (inside : exchange.stage.isInside) (turn : ¬exchange.stage.hasTurn) :
    exchange.stage = .checking ∧ next = exchange.finish reply.outcome ∨
      exchange.stage = .asking ∧ next.stage = .waiting ∧ after.mail = session.mail ∨
        exchange.GoesOn session next := by
  cases move with
  | sent stage | refused stage => simp [stage, Stage.isInside] at inside
  | collected stage found =>
      have same := List.inj_on_of_nodup_map letters found sent rfl
      obtain ⟨-, rfl⟩ := Prod.mk.inj same
      exact .inl ⟨stage, rfl⟩
  | cleared stage empty => exact absurd rfl (empty _ sent)
  | @asked turns stage =>
      by_cases first : turns.head? = some exchange.ticket
      · exact .inr (.inr (.inl ⟨stage, if_pos first⟩))
      · exact .inr (.inl ⟨stage, if_neg first, rfl⟩)
  | listened stage | silenced stage | broken stage | garbled stage | answered stage
  | routed stage | dropped stage => simp [stage, Stage.hasTurn] at turn
  | expired overdue =>
      unfold Overdue at overdue
      split at overdue
      · exact absurd rfl (overdue.1 _ sent)
      · next stage => exact .inr (.inr (.inr ⟨stage, overdue, (exchange.ends_failed _ _).outside⟩))
      · next stage => simp [stage, Stage.hasTurn] at turn
      · next stage => simp [stage, Stage.hasTurn] at turn
      · exact overdue.elim

theorem Heeds.move (heeds : exchange.Heeds reply session)
    (letters : (session.mail.map Prod.fst).Nodup) (move : exchange.Move session next after) :
    next.Heeds reply after ∨
      (exchange.ticket, reply) ∈ session.mail ∧ exchange.GoesOn session next := by
  obtain closed | ⟨sent, inside, turn⟩ := heeds
  · rw [move.unfinished] at closed
    simp at closed
  obtain ⟨-, rfl⟩ | ⟨-, waiting, kept⟩ | goes := move.of_letter letters sent inside turn
  · exact .inl (.inl rfl)
  · refine .inl (.inr ⟨?_, by rw [waiting]; rfl, by simp [waiting, Stage.hasTurn]⟩)
    rw [move.same.1, kept]
    exact sent
  · exact .inr ⟨sent, goes⟩

theorem Heeds.eq_finish (heeds : exchange.Heeds reply session)
    (letters : (session.mail.map Prod.fst).Nodup) (unaware : ¬exchange.HasLooked)
    (move : exchange.Move session next after) : next = exchange.finish reply.outcome := by
  obtain closed | ⟨sent, inside, turn⟩ := heeds
  · rw [move.unfinished] at closed
    simp at closed
  obtain ⟨-, same⟩ | ⟨asking, -⟩ | ⟨asking, -⟩ | ⟨waiting, -⟩ :=
    move.of_letter letters sent inside turn
  · exact same
  · exact absurd (.inl asking) unaware
  · exact absurd (.inl asking) unaware
  · exact absurd (.inr waiting) unaware

theorem Heeds.mono (heeds : exchange.Heeds reply session)
    (kept : (exchange.ticket, reply) ∈ session.mail → (exchange.ticket, reply) ∈ after.mail) :
    exchange.Heeds reply after :=
  heeds.imp_right fun ⟨sent, facts⟩ => ⟨kept sent, facts⟩

theorem not_hasLooked_resume (rest : exchange.stage.isRest) :
    ¬(exchange.resume session).1.HasLooked := by
  unfold resume HasLooked
  split
  · simp
  · simp
  · next idle _ => cases stage : exchange.stage <;> simp_all [Stage.isRest]

theorem Heeds.resume (heeds : exchange.Heeds reply session) :
    (exchange.resume session).1.Heeds reply (exchange.resume session).2 := by
  obtain ⟨stage, listener, resumed, same | ⟨waiting, checking⟩ | ⟨listening, reading⟩⟩ :=
    exchange.resume_eq session
  · rw [resumed, same]
    exact heeds
  · rw [resumed, checking]
    obtain closed | ⟨sent, -⟩ := heeds
    · simp [result?, waiting] at closed
    · exact .inr ⟨sent, rfl, by simp [Stage.hasTurn]⟩
  · obtain closed | ⟨-, -, turn⟩ := heeds
    · simp [result?, listening] at closed
    · simp [listening, Stage.hasTurn] at turn

theorem Heeds.firstStep?_eq (heeds : exchange.Heeds reply session)
    (letters : (session.mail.map Prod.fst).Nodup) (rest : exchange.stage.isRest)
    (unfinished : exchange.result? = none) :
    exchange.firstStep? session = some (exchange.finish reply.outcome) := by
  obtain closed | ⟨sent, inside, turn⟩ := heeds
  · simp [unfinished] at closed
  have waiting := Stage.eq_waiting_of_isRest rest inside turn
  have resumed : exchange.resume session = ({ exchange with stage := .checking }, session) := by
    rw [Exchange.resume, waiting]
  have checking : Heeds { exchange with stage := .checking } reply session :=
    .inr ⟨sent, rfl, by simp [Stage.hasTurn]⟩
  have move : Move { exchange with stage := .checking } session _ _ := look_move rfl
  rw [firstStep?, resumed]
  exact congrArg some (checking.eq_finish letters (by simp [HasLooked]) move)

end Exchange

def Interplay.Heeds (owner : Ticket) (reply : Message) (interplay : Interplay) : Prop :=
  ∀ exchange ∈ interplay.exchanges, exchange.ticket = owner →
    exchange.Heeds reply interplay.session

namespace Interplay

def Unaware (owner : Ticket) (interplay : Interplay) : Prop :=
  ∀ exchange ∈ interplay.polled, exchange.ticket = owner → ¬exchange.HasLooked

/-- The request with the ticket goes on from where it has looked, though its reply has come. -/
def Overtaken (owner : Ticket) (reply : Message) (interplay after : Interplay) : Prop :=
  interplay.Step after ∧ (owner, reply) ∈ interplay.session.mail ∧
    ∃ exchange ∈ interplay.polled, ∃ next ∈ after.polled,
      exchange.ticket = owner ∧ next.ticket = owner ∧ exchange.GoesOn interplay.session next

variable {start : Session} {interplay after : Interplay} {exchange : Exchange}
  {others : List Exchange} {owner : Ticket} {reply : Message}

theorem Heeds.head (heeds : interplay.Heeds owner reply)
    (perm : interplay.exchanges.Perm (exchange :: others)) (own : exchange.ticket = owner) :
    exchange.Heeds reply interplay.session :=
  heeds exchange (perm.mem_iff.mpr List.mem_cons_self) own

theorem Heeds.tail (heeds : interplay.Heeds owner reply)
    (perm : interplay.exchanges.Perm (exchange :: others)) {other : Exchange}
    (inside : other ∈ others) (own : other.ticket = owner) :
    other.Heeds reply interplay.session :=
  heeds other (perm.mem_iff.mpr (List.mem_cons_of_mem _ inside)) own

theorem Step.nextTicket_le (step : interplay.Step after) :
    interplay.session.nextTicket ≤ after.session.nextTicket := by
  cases step with
  | begin begun =>
      rw [(Session.begins begun).after]
      exact Nat.le_succ _
  | @enter exchange =>
      obtain ⟨stage, listener, resumed, -⟩ := exchange.resume_eq interplay.session
      exact Nat.le_of_eq (by rw [resumed])
  | move _ step => exact Nat.le_of_eq (Exchange.step?_move step).nextTicket.symm
  | leave => exact Nat.le_refl _
  | @drop exchange =>
      obtain ⟨listener, woken, left⟩ := exchange.quit_eq interplay.session
      rw [Exchange.cancel, left]
      exact Nat.le_refl _
  | arrive | pass | rouse => exact Nat.le_refl _

theorem Step.heeds (step : interplay.Step after) (ordered : interplay.Ordered)
    (issued : owner < interplay.session.nextTicket) (heeds : interplay.Heeds owner reply) :
    after.Heeds owner reply ∨ interplay.Overtaken owner reply after := by
  have letters := ordered.overlapping.orderly.letters
  have happened := step
  cases step with
  | @begin _ exchange _ begun =>
      have begins := Session.begins begun
      refine .inl fun other inside same => ?_
      obtain rfl | inside := List.mem_cons.mp (List.perm_middle.mem_iff.mp inside)
      · rw [← same, begins.ticket] at issued
        exact absurd issued (Nat.lt_irrefl _)
      · refine (heeds other inside same).mono fun sent => ?_
        rw [begins.after]
        exact sent
  | @enter exchange others listed =>
      have perm := perm_of_resting listed
      refine .inl fun other inside same => ?_
      obtain rfl | inside := List.mem_cons.mp inside
      · rw [exchange.ticket_resume] at same
        exact (heeds.head perm same).resume
      · refine (heeds.tail perm inside same).mono fun sent => ?_
        rw [exchange.mail_resume]
        exact sent
  | @move exchange next others session listed step =>
      have perm := perm_of_polled listed
      have move := Exchange.step?_move step
      -- others leave the letter where it is, so only the owner's own step can pass it by
      by_cases own : exchange.ticket = owner
      · obtain heeds | ⟨sent, goes⟩ := (heeds.head perm own).move letters move
        · refine .inl fun other inside same => ?_
          obtain rfl | inside := List.mem_cons.mp inside
          · exact heeds
          · have apart := (ordered.overlapping.perm perm).ticket_ne inside
            exact absurd (same.trans own.symm) apart
        · rw [own] at sent
          exact .inr ⟨happened, sent, exchange, listed.mem_iff.mpr List.mem_cons_self, next,
            List.mem_cons_self, own, move.same.1.trans own, goes⟩
      · refine .inl fun other inside same => ?_
        obtain rfl | inside := List.mem_cons.mp inside
        · exact absurd (move.same.1.symm.trans same) own
        · refine (heeds.tail perm inside same).mono fun sent => move.mem_mail sent ?_
          rw [same]
          exact Ne.symm own
  | leave listed =>
      refine .inl fun other inside same => ?_
      have among := List.perm_middle.mem_iff.mp inside
      exact heeds other ((perm_of_polled listed).mem_iff.mpr among) same
  | @drop exchange others listed =>
      have perm := perm_of_resting listed
      obtain ⟨listener, woken, left⟩ := exchange.quit_eq interplay.session
      refine .inl fun other inside same => ?_
      have apart := (ordered.overlapping.perm perm).ticket_ne inside
      refine (heeds.tail perm inside same).mono fun sent => ?_
      rw [Exchange.cancel, left]
      exact List.mem_filter.mpr ⟨sent, by simpa using apart⟩
  | arrive | pass | rouse => exact .inl heeds

theorem Step.unaware (step : interplay.Step after) (ordered : interplay.Ordered)
    (heeds : interplay.Heeds owner reply) (unaware : interplay.Unaware owner) :
    after.Unaware owner := by
  cases step with
  | begin => exact unaware
  | enter listed =>
      refine List.forall_mem_cons.mpr ⟨fun _ => ?_, unaware⟩
      exact Exchange.not_hasLooked_resume
        (ordered.rest _ (listed.mem_iff.mpr List.mem_cons_self))
  | @move exchange next others session listed step =>
      have move := Exchange.step?_move step
      have inside := listed.mem_iff.mpr List.mem_cons_self
      refine List.forall_mem_cons.mpr ⟨fun same => ?_, fun other among => ?_⟩
      · have own := move.same.1.symm.trans same
        have closed := (heeds.head (perm_of_polled listed) own).eq_finish
          ordered.overlapping.orderly.letters (unaware exchange inside own) move
        simp [closed, Exchange.HasLooked, Exchange.finish]
      · exact unaware other (listed.mem_iff.mpr (List.mem_cons_of_mem _ among))
  | leave listed =>
      exact fun other among =>
        unaware other (listed.mem_iff.mpr (List.mem_cons_of_mem _ among))
  | drop | arrive | pass | rouse => exact unaware

section

variable {later : Interplay}

theorem Ordered.onward (ordered : interplay.Ordered)
    (onward : Relation.ReflTransGen Step interplay later) : later.Ordered := by
  induction onward with
  | refl => exact ordered
  | tail _ step ih => exact step.ordered ih

theorem nextTicket_le_onward (onward : Relation.ReflTransGen Step interplay later) :
    interplay.session.nextTicket ≤ later.session.nextTicket := by
  induction onward with
  | refl => exact Nat.le_refl _
  | tail _ step ih => exact Nat.le_trans ih step.nextTicket_le

theorem heeds_onward (ordered : interplay.Ordered) (issued : owner < interplay.session.nextTicket)
    (heeds : interplay.Heeds owner reply)
    (onward : Relation.ReflTransGen Step interplay later) :
    later.Heeds owner reply ∨ ∃ middle next, Relation.ReflTransGen Step interplay middle ∧
      middle.Overtaken owner reply next ∧ Relation.ReflTransGen Step next later := by
  induction onward with
  | refl => exact .inl heeds
  | @tail middle next before step ih =>
      obtain heeds | ⟨first, second, start, overtaken, rest⟩ := ih
      · have issued := Nat.lt_of_lt_of_le issued (nextTicket_le_onward before)
        refine (step.heeds (ordered.onward before) issued heeds).imp_right fun overtaken => ?_
        exact ⟨middle, next, before, overtaken, .refl⟩
      · exact .inr ⟨first, second, start, overtaken, rest.tail step⟩

theorem heeds_onward_of_unaware (ordered : interplay.Ordered)
    (issued : owner < interplay.session.nextTicket) (heeds : interplay.Heeds owner reply)
    (unaware : interplay.Unaware owner)
    (onward : Relation.ReflTransGen Step interplay later) :
    later.Heeds owner reply ∧ later.Unaware owner := by
  induction onward with
  | refl => exact ⟨heeds, unaware⟩
  | tail before step ih =>
      obtain ⟨heeds, unaware⟩ := ih
      have ordered := ordered.onward before
      have issued := Nat.lt_of_lt_of_le issued (nextTicket_le_onward before)
      refine ⟨?_, step.unaware ordered heeds unaware⟩
      obtain heeds | ⟨-, -, exchange, inside, next, -, own, -, goes⟩ :=
        step.heeds ordered issued heeds
      · exact heeds
      · have looked : exchange.HasLooked := goes.imp And.left And.left
        exact absurd looked (unaware exchange inside own)

end

theorem Step.addressee (step : interplay.Step after) (ordered : interplay.Ordered)
    (fresh : (owner, reply) ∉ interplay.session.mail)
    (put : (owner, reply) ∈ after.session.mail) :
    ∃ exchange ∈ after.exchanges, exchange.ticket = owner ∧ exchange.stage.isInside ∧
      ¬exchange.stage.hasTurn ∧ reply.kind = .response ∧
        reply.requestId = exchange.requestId := by
  obtain ⟨exchange, among, own, inside, kind, number⟩ :=
    (step.ordered ordered).overlapping.addressee put
  refine ⟨exchange, among, own, inside, ?_, kind, number⟩
  cases step with
  | begin begun =>
      rw [(Session.begins begun).after] at put
      exact absurd put fresh
  | @enter reader =>
      rw [reader.mail_resume] at put
      exact absurd put fresh
  | @move reader next others session listed step =>
      have move := Exchange.step?_move step
      obtain ⟨stage, foreign, -⟩ := move.of_mem_mail put fresh
      have turn : reader.stage.hasTurn := by
        rw [stage]
        rfl
      obtain rfl | among := List.mem_cons.mp among
      · exact absurd (number.trans move.same.2) foreign
      -- the one that reads has the turn
      · exact (ordered.overlapping.perm (perm_of_polled listed)).turn_unique turn among
  | leave => exact absurd put fresh
  | @drop gone =>
      obtain ⟨listener, woken, left⟩ := gone.quit_eq interplay.session
      rw [Exchange.cancel, left] at put
      exact absurd (List.mem_of_mem_filter put) fresh
  | arrive | pass | rouse => exact absurd put fresh

/-- The request heeds the reply, and if it is at rest it ends with the reply as soon as it goes
on. -/
structure Answers (owner : Ticket) (reply : Message) (interplay : Interplay) : Prop where
  heeds : interplay.Heeds owner reply
  soon : ∀ exchange ∈ interplay.resting, exchange.ticket = owner → exchange.result? = none →
    exchange.firstStep? interplay.session = some (exchange.finish reply.outcome)

theorem Heeds.answers (heeds : interplay.Heeds owner reply) (ordered : interplay.Ordered) :
    interplay.Answers owner reply where
  heeds := heeds
  soon exchange among own unfinished :=
    (heeds exchange (List.mem_append_right _ among) own).firstStep?_eq
      ordered.overlapping.orderly.letters (ordered.rest exchange among) unfinished

theorem answers_of_put (reached : Reached start interplay) (idle : start.Idle)
    (step : interplay.Step after) (fresh : (owner, reply) ∉ interplay.session.mail)
    (put : (owner, reply) ∈ after.session.mail) :
    ∃ exchange ∈ after.exchanges, exchange.ticket = owner ∧ exchange.stage.isInside ∧
      reply.kind = .response ∧ reply.requestId = exchange.requestId ∧
        ∀ later, Relation.ReflTransGen Step after later → later.Answers owner reply ∨
          exchange ∈ after.polled ∧ exchange.HasLooked ∧ ∃ middle next,
            Relation.ReflTransGen Step after middle ∧ middle.Overtaken owner reply next ∧
              Relation.ReflTransGen Step next later := by
  have before := reached.ordered idle
  have ordered := step.ordered before
  obtain ⟨exchange, among, own, inside, turn, kind, number⟩ := step.addressee before fresh put
  refine ⟨exchange, among, own, inside, kind, number, fun later onward => ?_⟩
  have only : ∀ other ∈ after.exchanges, other.ticket = owner → other = exchange :=
    fun other present same =>
      ordered.overlapping.eq_of_ticket present among (same.trans own.symm)
  have issued : owner < after.session.nextTicket := by
    rw [← own]
    exact ordered.overlapping.issued among
  have heeds : after.Heeds owner reply := by
    intro other present same
    obtain rfl := only other present same
    rw [← own] at put
    exact .inr ⟨put, inside, turn⟩
  by_cases midway : exchange ∈ after.polled ∧ exchange.HasLooked
  · refine (heeds_onward ordered issued heeds onward).imp (fun heeds => ?_) fun overtaken => ?_
    · exact heeds.answers (ordered.onward onward)
    · exact ⟨midway.1, midway.2, overtaken⟩
  · have unaware : after.Unaware owner := by
      intro other polled same looked
      obtain rfl := only other (List.mem_append_left _ polled) same
      exact midway ⟨polled, looked⟩
    obtain ⟨heeds, -⟩ := heeds_onward_of_unaware ordered issued heeds unaware onward
    exact .inl (heeds.answers (ordered.onward onward))

/-- While polls are taken in one piece, nobody has looked and not gone on. -/
theorem answers_of_mail {traffic : Traffic} (reached : Traffic.Reached start traffic)
    (idle : start.Idle) (sent : (owner, reply) ∈ traffic.session.mail) : ∃ resting,
      resting.Perm traffic.exchanges ∧ ∀ later,
        Relation.ReflTransGen Step ⟨traffic.session, [], resting⟩ later →
          later.Answers owner reply := by
  obtain ⟨resting, perm, polls⟩ := reached.interplay
  refine ⟨resting, perm, fun later onward => ?_⟩
  have orderly := (reached.settled idle).orderly
  have ordered := polls.ordered idle
  obtain ⟨exchange, among, rfl, minds, -⟩ := orderly.mail _ sent
  have heeds : Interplay.Heeds exchange.ticket reply ⟨traffic.session, [], resting⟩ := by
    intro other present same
    obtain rfl := orderly.eq_of_ticket (perm.mem_iff.mp present) among same
    exact .inr ⟨sent, Stage.isInside_of_mindsMail minds,
      Stage.not_hasTurn_of_mindsMail minds⟩
  have unaware : Unaware exchange.ticket ⟨traffic.session, [], resting⟩ := List.forall_mem_nil _
  obtain ⟨heeds, -⟩ :=
    heeds_onward_of_unaware ordered (orderly.issued exchange among) heeds unaware onward
  exact heeds.answers (ordered.onward onward)

/-- When a reply has been put into the mailbox of a request, the request ends with it, in whatever
order the requests take their steps. The one exception is a request in the midst of a poll that had
looked before: it may be overtaken. So what is in a mailbox when no poll is under way is never
overtaken. -/
theorem answers_or_overtaken (idle : start.Idle) :
    (∀ {interplay after : Interplay} {owner : Ticket} {reply : Message}, Reached start interplay →
      interplay.Step after → (owner, reply) ∉ interplay.session.mail →
      (owner, reply) ∈ after.session.mail →
        ∃ exchange ∈ after.exchanges, exchange.ticket = owner ∧ exchange.stage.isInside ∧
          reply.kind = .response ∧ reply.requestId = exchange.requestId ∧
            ∀ later, Relation.ReflTransGen Step after later → later.Answers owner reply ∨
              exchange ∈ after.polled ∧ exchange.HasLooked ∧ ∃ middle next,
                Relation.ReflTransGen Step after middle ∧ middle.Overtaken owner reply next ∧
                  Relation.ReflTransGen Step next later) ∧
    ∀ {traffic : Traffic} {owner : Ticket} {reply : Message}, Traffic.Reached start traffic →
      (owner, reply) ∈ traffic.session.mail → ∃ resting,
        resting.Perm traffic.exchanges ∧ ∀ later,
          Relation.ReflTransGen Step ⟨traffic.session, [], resting⟩ later →
            later.Answers owner reply :=
  ⟨fun reached => answers_of_put reached idle, fun reached => answers_of_mail reached idle⟩

/-- Nothing is sent again; the agent is silent about the first message and answers two after the
second, the second one first. -/
def crossedStart : Session :=
  .start { Config.standard with retries := 0 } Traffic.sharedStart.line 0

def queued : Interplay :=
  [.begin Traffic.sharedRequest, .begin Traffic.sharedRequest, .enter 0, .move 0, .move 0, .move 0,
    .move 0, .leave 0, .enter 1, .move 1, .move 1, .move 1, .leave 1, .enter 0].foldl act
    (opening crossedStart)

def sorted : Traffic := [1, 0, 1].foldl Traffic.pollAt Traffic.sharedBegun

theorem answers_or_overtaken_queued : (Reached crossedStart queued ∧
    queued.Step (queued.act (.move 0)) ∧ (1, Traffic.sharedReply 2) ∉ queued.session.mail ∧
      (1, Traffic.sharedReply 2) ∈ (queued.act (.move 0)).session.mail ∧
        ∀ later, Relation.ReflTransGen Step (queued.act (.move 0)) later →
          later.Answers 1 (Traffic.sharedReply 2)) ∧
    Traffic.Reached Traffic.sharedStart sorted ∧
      (1, Traffic.sharedReply 2) ∈ sorted.session.mail ∧ ∃ resting,
        resting.Perm sorted.exchanges ∧ ∀ later,
          Relation.ReflTransGen Step ⟨sorted.session, [], resting⟩ later →
            later.Answers 1 (Traffic.sharedReply 2) := by
  constructor
  · have idle : crossedStart.Idle := ⟨rfl, rfl⟩
    have apart : Relation.ReflTransGen StepApart (opening crossedStart) queued :=
      onward_acts (by decide +kernel)
    have reached : Reached crossedStart queued :=
      Relation.ReflTransGen.mono (fun _ _ => And.left) _ _ apart
    have fresh : (1, Traffic.sharedReply 2) ∉ queued.session.mail := by decide +kernel
    have put : (1, Traffic.sharedReply 2) ∈ (queued.act (.move 0)).session.mail := by decide +kernel
    have step : queued.Step (queued.act (.move 0)) := by
      refine (queued.step_act (.move 0)).resolve_left fun same => fresh ?_
      rwa [same] at put
    refine ⟨reached, step, fresh, put, fun later onward => ?_⟩
    obtain ⟨exchange, among, own, -, -, -, ends⟩ :=
      (answers_or_overtaken idle).1 reached step fresh put
    refine (ends later onward).resolve_right fun looked => ?_
    have absent : 1 ∉ (queued.act (.move 0)).polled.map Exchange.ticket := by decide +kernel
    exact absent (List.mem_map.mpr ⟨exchange, looked.1, own⟩)
  · have reached : Traffic.Reached Traffic.sharedStart sorted :=
      (Traffic.reachedApart_sharedBegun.polls (by decide) _).reached
    have same : sorted =
        ([1, 0, 1].foldlM (Traffic.pollAt? 12) Traffic.sharedBegun).get (by decide +kernel) :=
      Traffic.foldl_pollAt (Option.some_get _).symm
    have sent : (1, Traffic.sharedReply 2) ∈ sorted.session.mail := by
      rw [same]
      decide +kernel
    exact ⟨reached, sent, (answers_or_overtaken ⟨rfl, rfl⟩).2 reached sent⟩

def crossed : Interplay :=
  [.begin Traffic.sharedRequest, .begin Traffic.sharedRequest, .enter 1, .move 1, .move 1, .enter 0,
    .move 0, .move 0, .move 0].foldl act (opening crossedStart)

/-- The first request reads both replies and is over; then the second one gets the turn, reads what
is not there and is late. -/
def crossedEnd : Interplay :=
  [.move 0, .move 0, .move 0, .leave 0, .move 1, .move 1, .leave 1, .pass 5000000000,
    .enter 1, .move 1, .move 1].foldl act (crossed.act (.move 0))

/-- A request can time out while its reply, which came in time, lies in its mailbox. -/
theorem not_forall_heeds : ¬∀ {start : Session} {interplay after later : Interplay}
    {owner : Ticket} {reply : Message}, start.Idle →
    Relation.ReflTransGen StepApart (opening start) interplay → interplay.StepApart after →
    (owner, reply) ∉ interplay.session.mail → (owner, reply) ∈ after.session.mail →
    (∀ exchange ∈ after.exchanges, exchange.ticket = owner →
      after.session.now < exchange.deadline) →
    Relation.ReflTransGen StepApart after later → later.Heeds owner reply := by
  intro heeds
  have reached : Relation.ReflTransGen StepApart (opening crossedStart) crossed :=
    onward_acts (by decide +kernel)
  have fresh : (1, Traffic.sharedReply 2) ∉ crossed.session.mail := by decide +kernel
  have put : (1, Traffic.sharedReply 2) ∈ (crossed.act (.move 0)).session.mail := by decide +kernel
  have step : crossed.Step (crossed.act (.move 0)) := by
    refine (crossed.step_act (.move 0)).resolve_left fun same => fresh ?_
    rwa [same] at put
  have early : ∀ exchange ∈ (crossed.act (.move 0)).exchanges, exchange.ticket = 1 →
      (crossed.act (.move 0)).session.now < exchange.deadline := by decide +kernel
  have onward : Relation.ReflTransGen StepApart (crossed.act (.move 0)) crossedEnd :=
    onward_acts (by decide +kernel)
  have heeds := heeds ⟨rfl, rfl⟩ reached ⟨step, by decide +kernel⟩ fresh put early onward
  have late : ∃ exchange ∈ crossedEnd.exchanges, exchange.ticket = 1 ∧
      exchange.result? = some (.error (.timeout 5000000000 2 0)) := by decide +kernel
  obtain ⟨exchange, among, own, late⟩ := late
  obtain same | ⟨-, inside, -⟩ := heeds exchange among own
  · have answer := isAnswer_outcome (Traffic.sharedReply 2)
    rw [← Option.some.inj (late.symm.trans same)] at answer
    exact absurd answer Bool.false_ne_true
  · rw [Exchange.result?] at late
    cases stage : exchange.stage <;> simp [stage, Stage.isInside] at inside late

end Interplay
end RoadsideSnmp
