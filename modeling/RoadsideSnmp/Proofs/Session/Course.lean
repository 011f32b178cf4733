import RoadsideSnmp.Proofs.Session.Attempts
import RoadsideSnmp.Proofs.Session.Prompt
import RoadsideSnmp.Proofs.Session.Traffic

/-! One request from its beginning to its end, with the session to itself. Every small step is noted
with its time: what is sent, what is taken from the line, and that an attempt has run out. The notes
fall into attempts, each of which but the last has failed, and the last one decides. -/
namespace RoadsideSnmp

inductive Event where
  | sent (packet : Octets)
  | took (delivery : Delivery)
  | expired

structure Note where
  time : Nat
  event : Event

def Session.span (session : Session) : Nat := Timer.wait session.now session.config.timeout

/-- How an attempt ended: nothing came in time, or nothing that can be read, or the reply. -/
inductive Ending where
  | expired
  | garbled (octets : Octets) (error : DecodeError)
  | answered (octets : Octets) (reply : Message)

namespace Ending

def event : Ending → Event
  | expired => .expired
  | garbled octets _ | answered octets _ => .took (.message octets)

def isFailure : Ending → Bool
  | answered _ _ => false
  | _ => true

end Ending

structure Attempt where
  sentAt : Nat
  /-- What it took without ending, first taken first. -/
  passed : List (Nat × Delivery)
  endedAt : Nat
  ending : Ending

def openNotes (packet : Octets) (sentAt : Nat) (passed : List (Nat × Delivery)) : List Note :=
  ⟨sentAt, .sent packet⟩ :: passed.map fun (time, delivery) => ⟨time, .took delivery⟩

def Attempt.notes (packet : Octets) (attempt : Attempt) : List Note :=
  openNotes packet attempt.sentAt attempt.passed ++ [⟨attempt.endedAt, attempt.ending.event⟩]

/-- Silence, or a message that can be read and is not a response with the number. -/
def Session.Passes (session : Session) (requestId : Int32) : Delivery → Prop
  | .silence => True
  | .message octets => ∃ message, (session.unpack octets).1 = .ok message ∧
      ¬(message.kind = .response ∧ message.requestId = requestId)
  | .fault => False

def Session.PassesAll (session : Session) (requestId : Int32) (sentAt now : Nat)
    (passed : List (Nat × Delivery)) : Prop :=
  ∀ taken ∈ passed, sentAt ≤ taken.1 ∧ taken.1 ≤ now ∧ session.Passes requestId taken.2

/-- An attempt as it must be: it ends in its time, with nothing before that would have ended it. -/
structure Attempt.IsOf (session : Session) (requestId : Int32) (attempt : Attempt) : Prop where
  order : attempt.sentAt ≤ attempt.endedAt
  inTime : attempt.endedAt ≤ attempt.sentAt + session.span
  passed : session.PassesAll requestId attempt.sentAt attempt.endedAt attempt.passed
  ending : match attempt.ending with
    | .expired => attempt.endedAt = attempt.sentAt + session.span
    | .garbled octets error => (session.unpack octets).1 = .error error
    | .answered octets reply => (session.unpack octets).1 = .ok reply ∧
        reply.kind = .response ∧ reply.requestId = requestId

def Attempt.verdict (session : Session) (requestId : Int32) (attempt : Attempt) :
    Except Failure Message :=
  match attempt.ending with
  | .expired =>
      .error (.timeout (attempt.endedAt - session.now) requestId session.config.retries)
  | .garbled _ error => .error (.decode error)
  | .answered _ reply => reply.outcome

/-- Attempts that failed one after another, each sent as soon as the one before it had ended, and
when the last of them ended. -/
inductive Failures (session : Session) (requestId : Int32) : List Attempt → Nat → Prop
  | none : Failures session requestId [] session.now
  | again {attempts : List Attempt} {attempt : Attempt}
      (before : Failures session requestId attempts attempt.sentAt)
      (isOf : attempt.IsOf session requestId) (failure : attempt.ending.isFailure) :
      Failures session requestId (attempts ++ [attempt]) attempt.endedAt

structure Report (session : Session) (requestId : Int32) (packet : Octets) (notes : List Note)
    (result : Except Failure Message) (after : Session) (attempts : List Attempt)
    (last : Attempt) : Prop where
  failures : Failures session requestId attempts last.sentAt
  isOf : last.IsOf session requestId
  few : attempts.length ≤ session.config.retries
  now : after.now = last.endedAt
  notes : notes = (attempts ++ [last]).flatMap (Attempt.notes packet)
  sent : after.line.sent =
    List.replicate (attempts.length + 1) packet ++ session.line.sent
  result : result = last.verdict session requestId
  exhausted : last.ending.isFailure → attempts.length = session.config.retries

namespace Exchange

def event? (exchange : Exchange) (session : Session) : Option Event :=
  match exchange.stage with
  | .sending => some (.sent exchange.packet)
  | .checking =>
      if (∀ letter ∈ session.mail, letter.1 ≠ exchange.ticket) ∧
          !session.pending.contains (exchange.requestId, exchange.ticket) then some .expired
      else none
  | .reading => session.line.inbox.head?.map .took
  | .waiting | .listening | .muted =>
      if exchange.deadline ≤ session.now then some .expired else none
  | .asking | .finished _ => none

structure Alone (exchange : Exchange) (session : Session) : Prop where
  mail : session.mail = []
  pending : session.pending =
    if exchange.stage.isInside then [(exchange.requestId, exchange.ticket)] else []
  turns : session.turns = if exchange.stage.hasTurn then [exchange.ticket] else []
  noQueue : exchange.stage ≠ .waiting

end Exchange

structure Line.Reliable (line : Line) : Prop where
  accepts : ∀ sent, (line.agent sent).refused = false
  agent : ∀ sent, .fault ∉ (line.agent sent).deliveries
  inbox : .fault ∉ line.inbox

/-- A request under way, and the notes of all that it did. -/
structure Course where
  exchange : Exchange
  session : Session
  notes : List Note

namespace Course

/-- What a request does by itself. Time passes only while it has nothing else to do, and not beyond
the time at which its attempt runs out. -/
inductive Goes (course : Course) : Course → Prop
  | step {next : Exchange} {after : Session}
      (step : course.exchange.step? course.session = some (next, after)) :
      Goes course ⟨next, after, course.notes ++
        ((course.exchange.event? course.session).map (Note.mk course.session.now)).toList⟩
  | resume : Goes course ⟨(course.exchange.resume course.session).1,
      (course.exchange.resume course.session).2, course.notes⟩
  | wait {time : Nat} (idle : course.exchange.step? course.session = none)
      (unfinished : course.exchange.result? = none) (early : time ≤ course.exchange.deadline) :
      Goes course { course with session := course.session.leapTo time }

inductive Step (course : Course) : Course → Prop
  | goes {next : Course} (goes : course.Goes next) : Step course next
  | arrive {deliveries : List Delivery} (faultless : .fault ∉ deliveries) :
      Step course { course with
        session := { course.session with line := course.session.line.queue deliveries } }

end Course

/-- An attempt that has been sent and has not ended, and those before it. -/
structure Opened (start : Session) (exchange : Exchange) (session : Session) (notes : List Note)
    (attempts : List Attempt) (sentAt : Nat) (passed : List (Nat × Delivery)) : Prop where
  failures : Failures start exchange.requestId attempts sentAt
  count : attempts.length = exchange.attempt
  deadline : exchange.deadline + start.now % Timer.tick = sentAt + start.span
  onTick : Timer.tick ∣ exchange.deadline
  order : sentAt ≤ session.now
  early : session.now ≤ sentAt + start.span
  passes : start.PassesAll exchange.requestId sentAt session.now passed
  notes : notes = attempts.flatMap (Attempt.notes exchange.packet) ++
    openNotes exchange.packet sentAt passed
  sent : session.line.sent =
    List.replicate (attempts.length + 1) exchange.packet ++ start.line.sent

/-- What the notes of a request say of it at each stage. -/
inductive Standing (start : Session) (exchange : Exchange) (session : Session)
    (notes : List Note) : Prop
  | ready {attempts : List Attempt} (stage : exchange.stage = .sending)
      (failures : Failures start exchange.requestId attempts session.now)
      (count : attempts.length = exchange.attempt)
      (notes : notes = attempts.flatMap (Attempt.notes exchange.packet))
      (sent : session.line.sent =
        List.replicate attempts.length exchange.packet ++ start.line.sent)
  | inside {attempts : List Attempt} {sentAt : Nat} {passed : List (Nat × Delivery)}
      (stage : exchange.stage.isInside)
      (opened : Opened start exchange session notes attempts sentAt passed)
  | ended {result : Except Failure Message} {attempts : List Attempt} {last : Attempt}
      (stage : exchange.stage = .finished result)
      (report : Report start exchange.requestId exchange.packet notes result session attempts last)

section

variable {start session after : Session} {first exchange next : Exchange} {notes : List Note}
  {attempts : List Attempt} {sentAt : Nat} {passed : List (Nat × Delivery)}

theorem Standing.opened (standing : Standing start exchange session notes)
    (inside : exchange.stage.isInside) :
    ∃ attempts sentAt passed, Opened start exchange session notes attempts sentAt passed := by
  cases standing with
  | ready stage => simp [stage, Stage.isInside] at inside
  | inside _ opened => exact ⟨_, _, _, opened⟩
  | ended stage => simp [stage, Stage.isInside] at inside

namespace Opened

theorem restage (opened : Opened start exchange session notes attempts sentAt passed)
    (stage : Stage) (now : after.now = session.now) (sent : after.line.sent = session.line.sent) :
    Opened start { exchange with stage } after notes attempts sentAt passed where
  failures := opened.failures
  count := opened.count
  deadline := opened.deadline
  onTick := opened.onTick
  order := now ▸ opened.order
  early := now ▸ opened.early
  passes := now ▸ opened.passes
  notes := opened.notes
  sent := sent ▸ opened.sent

theorem pass (opened : Opened start exchange session notes attempts sentAt passed)
    {delivery : Delivery} (passes : start.Passes exchange.requestId delivery) :
    Opened start exchange session (notes ++ [⟨session.now, .took delivery⟩]) attempts sentAt
      (passed ++ [(session.now, delivery)]) where
  failures := opened.failures
  count := opened.count
  deadline := opened.deadline
  onTick := opened.onTick
  order := opened.order
  early := opened.early
  passes := by
    refine List.forall_mem_append.mpr ⟨opened.passes, List.forall_mem_singleton.mpr ?_⟩
    exact ⟨opened.order, Nat.le_refl _, passes⟩
  notes := by
    rw [opened.notes, List.append_assoc]
    simp [openNotes]
  sent := opened.sent

theorem wait (opened : Opened start exchange session notes attempts sentAt passed) {time : Nat}
    (phase : session.now % Timer.tick = start.now % Timer.tick) (early : time ≤ exchange.deadline) :
    Opened start exchange (session.leapTo time) notes attempts sentAt passed where
  failures := opened.failures
  count := opened.count
  deadline := opened.deadline
  onTick := opened.onTick
  order := Nat.le_trans opened.order (Nat.le_max_left _ _)
  early := by
    have before := opened.early
    rw [← opened.deadline, ← phase] at before ⊢
    exact Nat.max_le.mpr ⟨before, Timer.leap_le before early opened.onTick⟩
  passes taken among := by
    obtain ⟨low, high, passes⟩ := opened.passes taken among
    exact ⟨low, Nat.le_trans high (Nat.le_max_left _ _), passes⟩
  notes := opened.notes
  sent := opened.sent

theorem ranOut (opened : Opened start exchange session notes attempts sentAt passed)
    (phase : session.now % Timer.tick = start.now % Timer.tick)
    (late : exchange.deadline ≤ session.now) : session.now = sentAt + start.span := by
  have early := opened.early
  rw [← opened.deadline, ← phase] at early ⊢
  exact Timer.eq_of_due late early opened.onTick

theorem isOf (opened : Opened start exchange session notes attempts sentAt passed)
    (ending : Ending) (ends : match ending with
      | .expired => session.now = sentAt + start.span
      | .garbled octets error => (start.unpack octets).1 = .error error
      | .answered octets reply => (start.unpack octets).1 = .ok reply ∧
          reply.kind = .response ∧ reply.requestId = exchange.requestId) :
    Attempt.IsOf start exchange.requestId ⟨sentAt, passed, session.now, ending⟩ where
  order := opened.order
  inTime := opened.early
  passed := opened.passes
  ending := by
    cases ending <;> exact ends

section

variable {ending : Ending}

theorem notes_closed (opened : Opened start exchange session notes attempts sentAt passed) :
    notes ++ [⟨session.now, ending.event⟩] =
      (attempts ++ [Attempt.mk sentAt passed session.now ending]).flatMap
        (Attempt.notes exchange.packet) := by
  rw [opened.notes, List.flatMap_append, List.flatMap_singleton, List.append_assoc]
  rfl

theorem ended (opened : Opened start exchange session notes attempts sentAt passed)
    (few : exchange.attempt ≤ start.config.retries)
    (isOf : Attempt.IsOf start exchange.requestId ⟨sentAt, passed, session.now, ending⟩)
    {result : Except Failure Message}
    (told : result = Attempt.verdict start exchange.requestId ⟨sentAt, passed, session.now, ending⟩)
    (exhausted : ending.isFailure → exchange.attempt = start.config.retries)
    (now : after.now = session.now) (sent : after.line.sent = session.line.sent) :
    Standing start (exchange.finish result) after (notes ++ [⟨session.now, ending.event⟩]) := by
  have report : Report start exchange.requestId exchange.packet
      (notes ++ [⟨session.now, ending.event⟩]) result after attempts
      ⟨sentAt, passed, session.now, ending⟩ :=
    ⟨opened.failures, isOf, opened.count ▸ few, now, opened.notes_closed, sent ▸ opened.sent, told,
      opened.count ▸ exhausted⟩
  exact .ended rfl report

theorem failed (opened : Opened start exchange session notes attempts sentAt passed)
    (few : exchange.attempt ≤ start.config.retries)
    (isOf : Attempt.IsOf start exchange.requestId ⟨sentAt, passed, session.now, ending⟩)
    (failure : ending.isFailure) {told : Failure}
    (verdict : exchange.attempt = start.config.retries → .error told =
      Attempt.verdict start exchange.requestId ⟨sentAt, passed, session.now, ending⟩)
    (now : after.now = session.now) (sent : after.line.sent = session.line.sent) :
    Standing start (exchange.failed told start.config.retries) after
      (notes ++ [⟨session.now, ending.event⟩]) := by
  unfold Exchange.failed
  split
  · have failures : Failures start exchange.requestId
        (attempts ++ [Attempt.mk sentAt passed session.now ending]) after.now := by
      rw [now]
      exact .again opened.failures isOf failure
    refine .ready rfl failures ?_ opened.notes_closed ?_
    · rw [List.length_append, opened.count]
      rfl
    · rw [sent, opened.sent, List.length_append]
      rfl
  · next more =>
      have last : exchange.attempt = start.config.retries :=
        Nat.le_antisymm few (Nat.not_lt.mp more)
      exact opened.ended few isOf (verdict last) (fun _ => last) now sent

end

end Opened

theorem Standing.congr (standing : Standing start exchange session notes)
    (now : after.now = session.now) (sent : after.line.sent = session.line.sent) :
    Standing start exchange after notes := by
  cases standing with
  | ready stage failures count notes history =>
      exact .ready stage (now ▸ failures) count notes (sent.trans history)
  | inside stage opened => exact .inside stage (opened.restage exchange.stage now sent)
  | ended stage report =>
      refine .ended stage { report with now := now.trans report.now, sent := sent.trans report.sent }

namespace Exchange

theorem event?_of_overdue (overdue : exchange.Overdue session) :
    exchange.event? session = some .expired := by
  unfold Overdue at overdue
  unfold event?
  split at overdue
  · next stage => simpa [stage] using overdue
  iterate 3
    · next stage => rw [stage, if_pos overdue]
  · exact overdue.elim

theorem Move.started (move : exchange.Move session next after) :
    next.started = exchange.started := by
  cases move with
  | garbled =>
      unfold failed
      split <;> rfl
  | expired =>
      unfold failed
      split <;> rfl
  | _ => rfl

theorem Move.reliable (move : exchange.Move session next after) (reliable : session.line.Reliable) :
    after.line.Reliable where
  accepts := move.agent ▸ reliable.accepts
  agent := move.agent ▸ reliable.agent
  inbox fault := by
    have faultless := move.goes.forall_mem (· ≠ .fault)
      (fun _ waits same => reliable.inbox (same ▸ waits))
      (fun sent _ added same => reliable.agent sent (same ▸ added))
    exact faultless.2 _ fault rfl

namespace Alone

theorem vacated {before : Session} {listener : Option Ticket} {woken : List Ticket}
    (alone : exchange.Alone session) (ends : exchange.Ends next) (mail : before.mail = session.mail)
    (pending : before.pending = session.pending) (turns : before.turns = session.turns) :
    next.Alone (exchange.vacated before listener woken) where
  mail := by simp [Exchange.vacated, mail, alone.mail]
  pending := by
    rw [ends.outside, Exchange.vacated, pending, alone.pending]
    split <;> simp
  turns := by
    have without : next.stage.hasTurn = false := by
      cases stage : next.stage.hasTurn with
      | false => rfl
      | true => simpa [ends.outside] using Stage.isInside_of_hasTurn stage
    rw [without, Exchange.vacated, turns, alone.turns]
    split <;> simp
  noQueue stage := by simpa [stage, Stage.isInside] using ends.outside

theorem congr (alone : exchange.Alone session) (mail : after.mail = session.mail)
    (pending : after.pending = session.pending) (turns : after.turns = session.turns) :
    exchange.Alone after :=
  ⟨mail.trans alone.mail, pending.trans alone.pending, turns.trans alone.turns, alone.noQueue⟩

theorem move (alone : exchange.Alone session) (move : exchange.Move session next after) :
    next.Alone after := by
  have pending := alone.pending
  have turns := alone.turns
  cases move with
  | sent stage =>
      rw [stage] at pending turns
      constructor
      · simp [dispatched, Session.register, alone.mail]
      · simp [dispatched, Session.register, pending, Stage.isInside]
      · simpa [dispatched, Session.register, Stage.hasTurn] using turns
      · simp
  | refused => exact alone.vacated (exchange.ends_finish _) rfl rfl rfl
  | collected => exact alone.vacated (exchange.ends_finish _) rfl rfl rfl
  | broken => exact alone.vacated (exchange.ends_finish _) rfl rfl rfl
  | answered => exact alone.vacated (exchange.ends_finish _) rfl rfl rfl
  | garbled => exact alone.vacated (exchange.ends_failed _ _) rfl rfl rfl
  | expired => exact alone.vacated (exchange.ends_failed _ _) rfl rfl rfl
  | cleared stage =>
      rw [stage] at pending turns
      exact ⟨alone.mail, pending, turns, by simp⟩
  | asked stage joined =>
      rw [stage] at pending turns
      obtain rfl : _ = [exchange.ticket] := by simpa [turns, Stage.hasTurn] using joined
      rw [List.head?_cons, if_pos rfl]
      exact ⟨alone.mail, pending, rfl, by simp⟩
  | listened stage =>
      rw [stage] at pending turns
      exact ⟨alone.mail, pending, turns, by simp⟩
  | silenced stage =>
      rw [stage] at pending turns
      exact ⟨alone.mail, pending, turns, by simp⟩
  | routed stage inbox unpacked kind foreign registered =>
      rw [stage] at pending
      simp [pending, Stage.isInside, List.lookup_cons, beq_false_of_ne foreign] at registered
  | dropped stage =>
      rw [stage] at pending turns
      refine ⟨alone.mail, pending, ?_, by simp⟩
      simp [turns, Stage.hasTurn]

theorem late (alone : exchange.Alone session) (overdue : exchange.Overdue session) :
    exchange.stage.isInside ∧ exchange.deadline ≤ session.now := by
  have pending := alone.pending
  unfold Overdue at overdue
  split at overdue
  · next stage => simp [pending, stage, Stage.isInside] at overdue
  · next stage => exact absurd stage alone.noQueue
  · next stage => exact ⟨by rw [stage]; rfl, overdue⟩
  · next stage => exact ⟨by rw [stage]; rfl, overdue⟩
  · exact overdue.elim

end Alone
end Exchange

theorem Session.started_begin {message : Message}
    (begun : start.begin message = .ok (exchange, after)) : exchange.started = start.now := by
  unfold Session.begin at begun
  split at begun
  · simp at begun
  · rw [← (Prod.mk.inj (Except.ok.inj begun)).1]

theorem Session.packet_begin {message : Message}
    (begun : start.begin message = .ok (exchange, after)) : exchange.packet =
      (message.withRequestId (requestId start.nextId)).packet start.config.station := by
  unfold Session.begin at begun
  split at begun
  · simp at begun
  · rw [← (Prod.mk.inj (Except.ok.inj begun)).1]

structure Kept (start : Session) (first exchange : Exchange) (session : Session)
    (notes : List Note) : Prop where
  requestId : exchange.requestId = first.requestId
  packet : exchange.packet = first.packet
  config : session.config = start.config
  /-- The clock moves by whole ticks. -/
  phase : session.now % Timer.tick = start.now % Timer.tick
  reliable : session.line.Reliable
  alone : exchange.Alone session
  started : exchange.started = start.now
  few : exchange.attempt ≤ start.config.retries
  standing : Standing start exchange session notes

namespace Kept

theorem restage (kept : Kept start first exchange session notes) (inside : exchange.stage.isInside)
    {stage : Stage} (still : stage.isInside) (now : after.now = session.now)
    (sent : after.line.sent = session.line.sent) :
    Standing start { exchange with stage } after notes := by
  obtain ⟨attempts, sentAt, passed, opened⟩ := kept.standing.opened inside
  exact .inside still (opened.restage stage now sent)

theorem pass (kept : Kept start first exchange session notes) (inside : exchange.stage.isInside)
    {stage : Stage} (still : stage.isInside) {delivery : Delivery}
    (passes : start.Passes exchange.requestId delivery) (now : after.now = session.now)
    (sent : after.line.sent = session.line.sent) :
    Standing start { exchange with stage } after
      (notes ++ [⟨session.now, .took delivery⟩]) := by
  obtain ⟨attempts, sentAt, passed, opened⟩ := kept.standing.opened inside
  exact .inside still ((opened.pass passes).restage stage now sent)

theorem standing_move (kept : Kept start first exchange session notes)
    (move : exchange.Move session next after) : Standing start next after
      (notes ++ ((exchange.event? session).map (Note.mk session.now)).toList) := by
  have unpack := Session.unpack_eq_of_config kept.config
  have reading (stage : exchange.stage = .reading) {delivery : Delivery} {rest : List Delivery}
      (inbox : session.line.inbox = delivery :: rest) :
      exchange.event? session = some (.took delivery) ∧ exchange.stage.isInside := by
    simp [Exchange.event?, stage, inbox, Stage.isInside]
  cases move with
  | sent stage =>
      cases kept.standing with
      | inside still => simp [stage, Stage.isInside] at still
      | ended finished => simp [stage] at finished
      | ready _ failures count same sent =>
          have none : start.PassesAll exchange.requestId session.now session.now [] := by
            simp [Session.PassesAll]
          refine .inside rfl ⟨failures, count, ?_, Timer.dvd_rings _, Nat.le_refl _,
            Nat.le_add_right _ _, none, ?_, ?_⟩
          · dsimp only
            rw [Session.span, Timer.wait, ← kept.phase, kept.config]
            exact Timer.rings_add session.now start.config.timeout
          · simp [Exchange.event?, stage, same, openNotes]
          · exact congrArg (exchange.packet :: ·) sent
  | refused stage refused =>
      exact absurd refused (by simp [Line.send, kept.reliable.accepts])
  | collected stage found => simp [kept.alone.mail] at found
  | cleared stage empty registered =>
      have none : exchange.event? session = none := by
        simp [Exchange.event?, stage, registered]
      rw [none, Option.map_none, Option.toList_none, List.append_nil]
      exact kept.restage (by rw [stage]; rfl) rfl rfl rfl
  | asked stage joined =>
      have none : exchange.event? session = none := by simp [Exchange.event?, stage]
      rw [none, Option.map_none, Option.toList_none, List.append_nil]
      refine kept.restage (by rw [stage]; rfl) ?_ rfl rfl
      split <;> rfl
  | listened stage inbox =>
      have none : exchange.event? session = none := by simp [Exchange.event?, stage, inbox]
      rw [none, Option.map_none, Option.toList_none, List.append_nil]
      exact kept.restage (by rw [stage]; rfl) rfl rfl rfl
  | silenced stage inbox =>
      obtain ⟨event, inside⟩ := reading stage inbox
      rw [event]
      exact kept.pass inside rfl trivial rfl rfl
  | broken stage inbox =>
      exact absurd (by simp [inbox]) kept.reliable.inbox
  | garbled stage inbox unpacked =>
      obtain ⟨event, inside⟩ := reading stage inbox
      obtain ⟨attempts, sentAt, passed, opened⟩ := kept.standing.opened inside
      rw [event, kept.config]
      have isOf := opened.isOf (.garbled _ _) (congrArg Prod.fst (unpack ▸ unpacked))
      exact opened.failed kept.few isOf rfl (fun _ => rfl) rfl rfl
  | answered stage inbox unpacked kind own =>
      obtain ⟨event, inside⟩ := reading stage inbox
      obtain ⟨attempts, sentAt, passed, opened⟩ := kept.standing.opened inside
      rw [event]
      have isOf := opened.isOf (.answered _ _)
        ⟨congrArg Prod.fst (unpack ▸ unpacked), kind, own⟩
      exact opened.ended kept.few isOf rfl (by simp [Ending.isFailure]) rfl rfl
  | routed stage inbox unpacked kind foreign =>
      obtain ⟨event, inside⟩ := reading stage inbox
      rw [event]
      refine kept.pass inside rfl ⟨_, by rw [← unpack, unpacked], fun own => foreign own.2⟩ rfl rfl
  | dropped stage inbox unpacked unwanted =>
      obtain ⟨event, inside⟩ := reading stage inbox
      rw [event]
      refine kept.pass inside rfl ⟨_, by rw [← unpack, unpacked], ?_⟩ rfl rfl
      exact fun own => (unwanted own.1).1 own.2
  | expired overdue =>
      have event := Exchange.event?_of_overdue overdue
      -- nobody takes the number away, so only time ends an attempt for which nothing is taken
      obtain ⟨inside, late⟩ := kept.alone.late overdue
      obtain ⟨attempts, sentAt, passed, opened⟩ := kept.standing.opened inside
      have isOf := opened.isOf .expired (opened.ranOut kept.phase late)
      rw [event, kept.config]
      refine opened.failed kept.few isOf rfl (fun last => ?_) rfl rfl
      rw [Exchange.timeout, kept.started, last]
      rfl

theorem move (kept : Kept start first exchange session notes)
    (move : exchange.Move session next after) : Kept start first next after
      (notes ++ ((exchange.event? session).map (Note.mk session.now)).toList) where
  requestId := move.same.2.trans kept.requestId
  packet := move.packet.trans kept.packet
  config := move.config.trans kept.config
  phase := move.now ▸ kept.phase
  reliable := move.reliable kept.reliable
  alone := kept.alone.move move
  started := move.started.trans kept.started
  few := kept.config ▸ move.attempt_le (kept.config.symm ▸ kept.few)
  standing := kept.standing_move move

theorem resume (kept : Kept start first exchange session notes) :
    Kept start first (exchange.resume session).1 (exchange.resume session).2 notes := by
  have alone := kept.alone
  obtain ⟨stage, listener, resumed, change⟩ := exchange.resume_eq session
  rw [resumed]
  rcases change with rfl | ⟨waiting, -⟩ | ⟨listening, rfl⟩
  · exact { kept with
      alone := alone.congr rfl rfl rfl
      standing := kept.standing.congr rfl rfl }
  · exact absurd waiting alone.noQueue
  · have pending := alone.pending
    have turns := alone.turns
    rw [listening] at pending turns
    exact { kept with
      alone := ⟨alone.mail, pending, turns, by simp⟩
      standing := kept.restage (by rw [listening]; rfl) rfl rfl rfl }

theorem wait (kept : Kept start first exchange session notes) {time : Nat}
    (inside : exchange.stage.isInside) (early : time ≤ exchange.deadline) :
    Kept start first exchange (session.leapTo time) notes := by
  obtain ⟨attempts, sentAt, passed, opened⟩ := kept.standing.opened inside
  exact { kept with
    phase := by rw [Session.now_leapTo, Timer.leap_mod, kept.phase]
    alone := kept.alone.congr rfl rfl rfl
    standing := .inside inside (opened.wait kept.phase early) }

theorem arrive (kept : Kept start first exchange session notes) {deliveries : List Delivery}
    (faultless : .fault ∉ deliveries) :
    Kept start first exchange { session with line := session.line.queue deliveries } notes where
  requestId := kept.requestId
  packet := kept.packet
  config := kept.config
  phase := kept.phase
  reliable := by
    refine ⟨kept.reliable.accepts, kept.reliable.agent, ?_⟩
    rw [Line.queue, List.mem_append, not_or]
    exact ⟨kept.reliable.inbox, faultless⟩
  alone := kept.alone.congr rfl rfl rfl
  started := kept.started
  few := kept.few
  standing := kept.standing.congr rfl rfl

theorem begin {message : Message} (begun : start.begin message = .ok (first, session))
    (idle : start.Idle) (free : start.turns = []) (reliable : start.line.Reliable) :
    Kept start first first session [] := by
  have begins := Session.begins begun
  have pending : session.pending = [] := by rw [begins.after, ← idle.pending]
  have mail : session.mail = [] := by rw [begins.after, ← idle.mail]
  have turns : session.turns = [] := by rw [begins.after, ← free]
  have line : session.line = start.line := by rw [begins.after]
  have now : session.now = start.now := by rw [begins.after]
  constructor
  · rfl
  · rfl
  · rw [begins.after]
  · rw [now]
  · exact line ▸ reliable
  · refine ⟨mail, ?_, ?_, by simp [begins.stage]⟩
    · simp [pending, begins.stage, Stage.isInside]
    · simp [turns, begins.stage, Stage.hasTurn]
  · exact Session.started_begin begun
  · exact begins.attempt ▸ Nat.zero_le _
  · have fresh : Failures start first.requestId [] session.now := now ▸ Failures.none
    refine .ready begins.stage fresh begins.attempt.symm rfl ?_
    rw [line]
    rfl

end Kept

namespace Course

variable {course : Course}

theorem Goes.kept {next : Course} (goes : course.Goes next)
    (kept : Kept start first course.exchange course.session course.notes) :
    Kept start first next.exchange next.session next.notes := by
  cases goes with
  | step step => exact kept.move (Exchange.step?_move step)
  | resume => exact kept.resume
  | wait idle unfinished early =>
      exact kept.wait (Exchange.lt_deadline_of_idle idle unfinished).1 early

theorem Step.kept {next : Course} (step : course.Step next)
    (kept : Kept start first course.exchange course.session course.notes) :
    Kept start first next.exchange next.session next.notes := by
  cases step with
  | goes goes => exact goes.kept kept
  | arrive faultless => exact kept.arrive faultless

theorem kept_of_steps {next : Course} (steps : Relation.ReflTransGen Step course next)
    (kept : Kept start first course.exchange course.session course.notes) :
    Kept start first next.exchange next.session next.notes := by
  induction steps with
  | refl => exact kept
  | tail _ step ih => exact step.kept ih

end Course

end
end RoadsideSnmp
