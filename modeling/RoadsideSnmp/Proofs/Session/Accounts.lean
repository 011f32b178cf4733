import RoadsideSnmp.Proofs.Session.Registered

/-! What became of every reply that was taken from the line for a request: it lies in the mailbox,
or the request is over with it. So no request gets a reply that was not taken for it, and none is
lost or given twice. -/
namespace RoadsideSnmp

def isAnswer : Except Failure Message → Bool
  | .ok _ | .error (.agent _) => true
  | .error _ => false

theorem isAnswer_outcome (reply : Message) : isAnswer reply.outcome := by
  obtain same | ⟨error, same⟩ := reply.outcome_cases
  · rw [same, isAnswer]
  · rw [same, isAnswer]

def messagesFor (ticket : Ticket) (letters : List (Ticket × Message)) : List Message :=
  (letters.filter (·.1 = ticket)).map Prod.snd

section

variable {ticket other : Ticket} {message : Message} {letters more : List (Ticket × Message)}

theorem messagesFor_append :
    messagesFor ticket (letters ++ more) =
      messagesFor ticket letters ++ messagesFor ticket more := by
  simp [messagesFor]

theorem messagesFor_cons_self :
    messagesFor ticket ((ticket, message) :: letters) = message :: messagesFor ticket letters := by
  simp [messagesFor]

theorem messagesFor_cons_ne (apart : other ≠ ticket) :
    messagesFor ticket ((other, message) :: letters) = messagesFor ticket letters := by
  simp [messagesFor, apart]

theorem messagesFor_eq_nil :
    messagesFor ticket letters = [] ↔ ∀ letter ∈ letters, letter.1 ≠ ticket := by
  simp [messagesFor]

theorem mem_messagesFor : message ∈ messagesFor ticket letters ↔ (ticket, message) ∈ letters := by
  simp [messagesFor]

theorem messagesFor_filter_self : messagesFor ticket (letters.filter (·.1 ≠ ticket)) = [] := by
  rw [messagesFor_eq_nil]
  intro letter inside
  simpa using (List.mem_filter.mp inside).2

theorem messagesFor_filter_ne (apart : other ≠ ticket) :
    messagesFor other (letters.filter (·.1 ≠ ticket)) = messagesFor other letters := by
  have same : ∀ letter : Ticket × Message,
      (decide (letter.1 = other) && decide (letter.1 ≠ ticket)) = decide (letter.1 = other) := by
    intro letter
    by_cases own : letter.1 = other
    · simp [own, apart]
    · simp [own]
  simp only [messagesFor, List.filter_filter, same]

end

/-- The replies that were taken from the line, and for whom. -/
def claims (log : List Taking) : List (Ticket × Message) := log.filterMap Taking.claim

theorem claims_append (log more : List Taking) : claims (log ++ more) = claims log ++ claims more :=
  List.filterMap_append

/-- How an exchange stands to the letters in its mailbox and to the replies taken for it. -/
inductive Exchange.Account (exchange : Exchange) : List Message → List Message → Prop
  | waits (unanswered : ∀ result, exchange.result? = some result → ¬isAnswer result) :
      Account exchange [] []
  | has {reply : Message} (minds : exchange.stage.mindsMail)
      (number : reply.requestId = exchange.requestId) : Account exchange [reply] [reply]
  | had {reply : Message} (result : exchange.result? = some reply.outcome)
      (number : reply.requestId = exchange.requestId) : Account exchange [] [reply]

theorem Exchange.unanswered_failed {exchange : Exchange} {failure : Failure} {retries : Nat}
    (silent : ¬isAnswer (.error failure)) :
    ∀ result, (exchange.failed failure retries).result? = some result → ¬isAnswer result := by
  intro result
  unfold failed
  split
  · simp [result?]
  · intro closed
    obtain rfl := Option.some.inj closed
    exact silent

theorem Exchange.unanswered_of_isInside {exchange : Exchange} (inside : exchange.stage.isInside) :
    ∀ result, exchange.result? = some result → ¬isAnswer result := by
  intro result closed
  unfold result? at closed
  split at closed
  · next stage => simp [stage, Stage.isInside] at inside
  · simp at closed

def Accounted (exchanges : List Exchange) (session : Session) (log : List Taking) : Prop :=
  ∀ exchange ∈ exchanges, exchange.Account (messagesFor exchange.ticket session.mail)
    (messagesFor exchange.ticket (claims log))

namespace Accounted

variable {exchanges others : List Exchange} {exchange next other : Exchange}
  {session after : Session} {log : List Taking}

theorem perm {listed : List Exchange} (accounted : Accounted exchanges session log)
    (perm : exchanges.Perm listed) : Accounted listed session log := fun exchange inside =>
  accounted exchange (perm.mem_iff.mpr inside)

theorem unclaimed (accounted : Accounted exchanges session log) (inside : exchange ∈ exchanges)
    (unfinished : exchange.result? = none) (empty : session.NoMail exchange.ticket) :
    messagesFor exchange.ticket (claims log) = [] := by
  have account := accounted exchange inside
  rw [messagesFor_eq_nil.mpr empty] at account
  generalize messagesFor exchange.ticket (claims log) = replies at account
  cases account with
  | waits => rfl
  | had result => simp [unfinished] at result

theorem empty {taken : List Taking} (accounted : Accounted (exchange :: others) session log)
    (underway : Underway others exchange session) (ticket : next.ticket = exchange.ticket)
    (mail : after.mail = session.mail.filter (·.1 ≠ exchange.ticket))
    (own : ∀ claim ∈ claims taken, claim.1 = exchange.ticket)
    (account : next.Account [] (messagesFor exchange.ticket (claims (log ++ taken)))) :
    Accounted (next :: others) after (log ++ taken) := by
  refine List.forall_mem_cons.mpr ⟨?_, fun other inside => ?_⟩
  · rw [ticket, mail, messagesFor_filter_self]
    exact account
  · have apart := underway.orderly.ticket_ne inside
    have none : messagesFor other.ticket (claims taken) = [] := by
      rw [messagesFor_eq_nil]
      intro claim inside same
      exact apart (same.symm.trans (own claim inside))
    rw [mail, messagesFor_filter_ne apart, claims_append, messagesFor_append, none,
      List.append_nil]
    exact accounted other (List.mem_cons_of_mem _ inside)

theorem fail {taken : List Taking} (accounted : Accounted (exchange :: others) session log)
    (underway : Underway others exchange session) (unfinished : exchange.result? = none)
    (without : session.NoMail exchange.ticket) (ticket : next.ticket = exchange.ticket)
    (mail : after.mail = session.mail.filter (·.1 ≠ exchange.ticket))
    (none : claims taken = [])
    (unanswered : ∀ result, next.result? = some result → ¬isAnswer result) :
    Accounted (next :: others) after (log ++ taken) := by
  refine accounted.empty underway ticket mail (by simp [none]) ?_
  rw [claims_append, none, List.append_nil,
    accounted.unclaimed List.mem_cons_self unfinished without]
  exact .waits unanswered

theorem restage {stage : Stage} {taken : List Taking}
    (accounted : Accounted (exchange :: others) session log)
    (unfinished : exchange.result? = none) (empty : session.NoMail exchange.ticket)
    (mail : after.mail = session.mail) (none : claims taken = [])
    (inside : stage.isInside) :
    Accounted ({ exchange with stage } :: others) after (log ++ taken) := by
  unfold Accounted
  rw [claims_append, none, List.append_nil, mail]
  refine List.forall_mem_cons.mpr ⟨?_, fun other inside =>
    accounted other (List.mem_cons_of_mem _ inside)⟩
  dsimp only
  rw [messagesFor_eq_nil.mpr empty,
    accounted.unclaimed List.mem_cons_self unfinished empty]
  exact .waits (Exchange.unanswered_of_isInside inside)

theorem deliver {stage : Stage} {reply : Message} {taken : List Taking}
    (accounted : Accounted (exchange :: others) session log)
    (underway : Underway others exchange session) (unfinished : exchange.result? = none)
    (without : session.NoMail exchange.ticket) (stage_inside : stage.isInside)
    (inside : other ∈ others) (waiting : other.stage = .waiting)
    (owner_without : session.NoMail other.ticket) (number : reply.requestId = other.requestId)
    (mail : after.mail = (other.ticket, reply) :: session.mail)
    (claim : claims taken = [(other.ticket, reply)]) :
    Accounted ({ exchange with stage } :: others) after (log ++ taken) := by
  have orderly := underway.orderly
  have others_kept : ∀ ticket, ticket ≠ other.ticket →
      messagesFor ticket after.mail = messagesFor ticket session.mail ∧
        messagesFor ticket (claims (log ++ taken)) = messagesFor ticket (claims log) := by
    intro ticket apart
    rw [mail, messagesFor_cons_ne apart.symm, claims_append, claim, messagesFor_append,
      messagesFor_cons_ne apart.symm]
    exact ⟨rfl, List.append_nil _⟩
  refine List.forall_mem_cons.mpr ⟨?_, fun another among => ?_⟩
  · have kept := others_kept exchange.ticket (orderly.ticket_ne inside).symm
    dsimp only
    rw [kept.1, kept.2, messagesFor_eq_nil.mpr without,
      accounted.unclaimed List.mem_cons_self unfinished without]
    exact .waits (Exchange.unanswered_of_isInside stage_inside)
  by_cases same : another.ticket = other.ticket
  · obtain rfl := orderly.eq_of_ticket (List.mem_cons_of_mem _ among)
      (List.mem_cons_of_mem _ inside) same
    have fresh := accounted.unclaimed (List.mem_cons_of_mem _ among)
      (by simp [Exchange.result?, waiting]) owner_without
    rw [mail, messagesFor_cons_self, messagesFor_eq_nil.mpr owner_without, claims_append, claim,
      messagesFor_append, fresh, messagesFor_cons_self]
    exact .has (by rw [waiting]; rfl) number
  · have kept := others_kept another.ticket same
    rw [kept.1, kept.2]
    exact accounted another (List.mem_cons_of_mem _ among)

theorem move (accounted : Accounted (exchange :: others) session log)
    (underway : Underway others exchange session)
    (registered : Registered (exchange :: others) session)
    (move : exchange.Move session next after) :
    Accounted (next :: others) after (log ++ (exchange.taking? session).toList) := by
  have orderly := underway.orderly
  have unfinished := move.unfinished
  cases move with
  | sent stage =>
      have empty := underway.looked (by simp [stage])
      rw [Exchange.taking?_of_ne_reading (by simp [stage])]
      exact accounted.fail underway unfinished empty rfl rfl rfl
        (Exchange.unanswered_of_isInside rfl)
  | refused stage =>
      have empty := underway.looked (by simp [stage])
      rw [Exchange.taking?_of_ne_reading (by simp [stage])]
      refine accounted.fail underway unfinished empty rfl rfl rfl fun result closed => ?_
      obtain rfl := Option.some.inj closed
      exact Bool.false_ne_true
  | @collected reply _ _ stage found =>
      rw [Exchange.taking?_of_ne_reading (by simp [stage])]
      refine accounted.empty underway rfl rfl (by simp [claims]) ?_
      have account := accounted exchange List.mem_cons_self
      have letter := mem_messagesFor.mpr found
      rw [Option.toList_none, List.append_nil]
      generalize messagesFor exchange.ticket session.mail = letters at account letter
      generalize messagesFor exchange.ticket (claims log) = replies at account
      -- there is a letter, so it is the only reply that has been taken for the exchange
      cases account with
      | waits => simp at letter
      | had => simp at letter
      | has minds number =>
          obtain rfl := List.mem_singleton.mp letter
          exact .had rfl number
  | cleared stage empty =>
      rw [Exchange.taking?_of_ne_reading (by simp [stage])]
      exact accounted.restage unfinished empty rfl rfl rfl
  | asked stage =>
      have empty := underway.looked (by simp [stage])
      rw [Exchange.taking?_of_ne_reading (by simp [stage])]
      refine accounted.restage unfinished empty rfl rfl ?_
      split <;> rfl
  | listened stage inbox =>
      have empty := underway.looked (by simp [stage])
      rw [Exchange.taking?_of_empty inbox]
      exact accounted.restage unfinished empty rfl rfl rfl
  | silenced stage inbox =>
      have empty := underway.looked (by simp [stage])
      rw [Exchange.taking?_of_reading stage inbox]
      exact accounted.restage unfinished empty rfl rfl rfl
  | broken stage inbox =>
      have empty := underway.looked (by simp [stage])
      rw [Exchange.taking?_of_reading stage inbox]
      refine accounted.fail underway unfinished empty rfl rfl rfl fun result closed => ?_
      obtain rfl := Option.some.inj closed
      exact Bool.false_ne_true
  | garbled stage inbox unpacked =>
      have empty := underway.looked (by simp [stage])
      rw [Exchange.taking?_of_reading stage inbox]
      refine accounted.fail underway unfinished empty (exchange.ends_failed _ _).ticket rfl ?_ ?_
      · simp [claims, Session.claim?, unpacked]
      · exact Exchange.unanswered_failed Bool.false_ne_true
  | @answered octets _ reply _ _ _ stage inbox unpacked kind own =>
      have empty := underway.looked (by simp [stage])
      have listed := registered exchange List.mem_cons_self (by rw [stage]; rfl) empty
      rw [← own] at listed
      have claim : claims [⟨.message octets, session.claim? (.message octets)⟩] =
          [(exchange.ticket, reply)] := by
        simp [claims, Session.claim?_message unpacked kind, lookup_of_mem orderly.numbers listed]
      rw [Exchange.taking?_of_reading stage inbox, Option.toList_some]
      refine accounted.empty underway rfl rfl (by simp [claim]) ?_
      rw [claims_append, claim, messagesFor_append,
        accounted.unclaimed List.mem_cons_self unfinished empty, messagesFor_cons_self]
      exact .had rfl own
  | routed stage inbox unpacked kind foreign listed =>
      have empty := underway.looked (by simp [stage])
      have turn : exchange.stage.hasTurn := by
        rw [stage]
        rfl
      obtain ⟨other, inside, number, rfl, waiting, without⟩ :=
        orderly.owner_waits underway.rest turn foreign (mem_of_lookup listed)
      rw [Exchange.taking?_of_reading stage inbox]
      refine accounted.deliver underway unfinished empty rfl inside waiting without number.symm
        rfl ?_
      simp [claims, Session.claim?_message unpacked kind, listed]
  | dropped stage inbox unpacked unwanted =>
      have empty := underway.looked (by simp [stage])
      rw [Exchange.taking?_of_reading stage inbox]
      refine accounted.restage unfinished empty rfl ?_ rfl
      simp [claims, Session.claim?_of_unwanted unpacked fun kind => (unwanted kind).2]
  | expired overdue =>
      have empty := underway.noMail_of_overdue overdue
      rw [Exchange.taking?_of_overdue overdue]
      refine accounted.fail underway unfinished empty (exchange.ends_failed _ _).ticket rfl rfl ?_
      exact Exchange.unanswered_failed Bool.false_ne_true

theorem of_answered (accounted : Accounted exchanges session log) (inside : exchange ∈ exchanges)
    {result : Except Failure Message} (closed : exchange.result? = some result)
    (answer : isAnswer result) : ∃ reply, (exchange.ticket, reply) ∈ claims log ∧
      reply.requestId = exchange.requestId ∧ result = reply.outcome := by
  have account := accounted exchange inside
  generalize messagesFor exchange.ticket session.mail = letters at account
  generalize replies_eq : messagesFor exchange.ticket (claims log) = replies at account
  cases account with
  | waits unanswered => exact absurd answer (unanswered result closed)
  | has minds =>
      unfold Exchange.result? at closed
      split at closed
      · next stage => simp [stage, Stage.mindsMail] at minds
      · simp at closed
  | @had reply had number =>
      have taken := mem_messagesFor.mp (replies_eq ▸ List.mem_singleton_self reply)
      exact ⟨reply, taken, number, Option.some.inj (closed.symm.trans had)⟩

theorem of_claimed (accounted : Accounted exchanges session log) (inside : exchange ∈ exchanges)
    {reply : Message} (claimed : (exchange.ticket, reply) ∈ claims log) :
    exchange.result? = some reply.outcome ∨
      exchange.stage.mindsMail ∧ (exchange.ticket, reply) ∈ session.mail := by
  have account := accounted exchange inside
  have taken := mem_messagesFor.mpr claimed
  generalize letters_eq : messagesFor exchange.ticket session.mail = letters at account
  generalize messagesFor exchange.ticket (claims log) = replies at account taken
  cases account with
  | waits => simp at taken
  | has minds =>
      obtain rfl := List.mem_singleton.mp taken
      exact .inr ⟨minds, mem_messagesFor.mp (letters_eq ▸ List.mem_singleton_self reply)⟩
  | had closed =>
      obtain rfl := List.mem_singleton.mp taken
      exact .inl closed

theorem of_mail (accounted : Accounted exchanges session log) (inside : exchange ∈ exchanges)
    {reply : Message} (sent : (exchange.ticket, reply) ∈ session.mail) :
    (exchange.ticket, reply) ∈ claims log := by
  have account := accounted exchange inside
  have letter := mem_messagesFor.mpr sent
  generalize messagesFor exchange.ticket session.mail = letters at account letter
  generalize replies_eq : messagesFor exchange.ticket (claims log) = replies at account
  cases account with
  | waits => simp at letter
  | had => simp at letter
  | has =>
      obtain rfl := List.mem_singleton.mp letter
      exact mem_messagesFor.mp (replies_eq ▸ List.mem_singleton_self reply)

theorem length_claimed_le (accounted : Accounted exchanges session log)
    (inside : exchange ∈ exchanges) :
    (messagesFor exchange.ticket (claims log)).length ≤ 1 := by
  have account := accounted exchange inside
  generalize messagesFor exchange.ticket session.mail = letters at account
  generalize messagesFor exchange.ticket (claims log) = replies at account
  cases account <;> simp

end Accounted
end RoadsideSnmp
