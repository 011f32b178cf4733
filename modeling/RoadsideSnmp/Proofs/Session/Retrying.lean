import Mathlib.Control.Monad.Basic
import RoadsideSnmp.Proofs.Session.Course

/-! What comes of one request with the session to itself, whatever comes on the line and whenever.
It sends the same octets a bounded number of times, each time as soon as the attempt before has
failed; it is over in a bounded time; and what it answers follows from its last attempt. -/
namespace RoadsideSnmp

section

variable {start session after : Session} {requestId : Int32} {packet : Octets} {notes : List Note}
  {result : Except Failure Message} {attempts : List Attempt} {last : Attempt}

structure Decided (start : Session) (requestId : Int32) (result : Except Failure Message)
    (after : Session) (attempts : List Attempt) (last : Attempt) : Prop where
  timeout : ∀ elapsed number retries, result = .error (.timeout elapsed number retries) →
    last.ending = .expired ∧ attempts.length = start.config.retries ∧
      elapsed = after.now - start.now ∧ number = requestId ∧ retries = start.config.retries
  decode : ∀ error, result = .error (.decode error) →
    ∃ octets, last.ending = .garbled octets error ∧ attempts.length = start.config.retries
  answer : (∀ elapsed number retries, result ≠ .error (.timeout elapsed number retries)) →
    (∀ error, result ≠ .error (.decode error)) →
      ∃ octets reply, last.ending = .answered octets reply ∧ result = reply.outcome

namespace Report

theorem decided (report : Report start requestId packet notes result after attempts last) :
    Decided start requestId result after attempts last := by
  have told := report.result
  have exhausted := report.exhausted
  unfold Attempt.verdict at told
  cases ending : last.ending with
  | expired =>
      rw [ending] at told exhausted
      obtain rfl : result = _ := told
      refine ⟨?_, by simp, fun other => absurd rfl (other _ _ _)⟩
      intro elapsed number retries same
      obtain ⟨rfl, rfl, rfl⟩ := Failure.timeout.inj (Except.error.inj same)
      exact ⟨ending, exhausted rfl, by rw [report.now], rfl, rfl⟩
  | garbled octets error =>
      rw [ending] at told exhausted
      obtain rfl : result = _ := told
      refine ⟨by simp, ?_, fun _ other => absurd rfl (other _)⟩
      intro error same
      obtain rfl := Failure.decode.inj (Except.error.inj same)
      exact ⟨octets, ending, exhausted rfl⟩
  | answered octets reply =>
      rw [ending] at told
      obtain rfl : result = reply.outcome := told
      refine ⟨?_, ?_, fun _ _ => ⟨octets, reply, ending, rfl⟩⟩
      · rcases reply.outcome_cases with same | ⟨error, same⟩ <;> simp [same]
      · rcases reply.outcome_cases with same | ⟨error, same⟩ <;> simp [same]

end Report

theorem Failures.time_le {time : Nat} (failures : Failures start requestId attempts time) :
    time ≤ start.now + attempts.length * start.span := by
  induction failures with
  | none => exact Nat.le_add_right _ _
  | again before isOf failure ih =>
      have inTime := isOf.inTime
      rw [List.length_append, List.length_singleton, Nat.succ_mul]
      omega

/-- The time in which a request is over. -/
def Session.limit (session : Session) : Nat :=
  session.now + (session.config.retries + 1) * session.span

theorem Failures.limit {time : Nat} (failures : Failures start requestId attempts time)
    (few : attempts.length ≤ start.config.retries) :
    time + start.span ≤ start.limit := by
  have before := failures.time_le
  have more : attempts.length * start.span ≤ start.config.retries * start.span :=
    Nat.mul_le_mul_right _ few
  rw [Session.limit, Nat.succ_mul]
  omega

namespace Kept

variable {first exchange : Exchange}

theorem deadline_le (kept : Kept start first exchange session notes)
    (inside : exchange.stage.isInside) : exchange.deadline ≤ start.limit := by
  obtain ⟨attempts, sentAt, passed, opened⟩ := kept.standing.opened inside
  have rings := opened.deadline
  have ends := opened.failures.limit (opened.count ▸ kept.few)
  omega

theorem now_le (kept : Kept start first exchange session notes) : session.now ≤ start.limit := by
  have few := kept.few
  cases kept.standing with
  | ready _ failures count =>
      exact Nat.le_trans (Nat.le_add_right _ _) (failures.limit (count ▸ few))
  | inside _ opened =>
      exact Nat.le_trans opened.early (opened.failures.limit (opened.count ▸ few))
  | ended _ report =>
      exact report.now ▸ Nat.le_trans report.isOf.inTime (report.failures.limit report.few)

theorem sent (kept : Kept start first exchange session notes) :
    ∃ count, count ≤ start.config.retries + 1 ∧
      session.line.sent = List.replicate count first.packet ++ start.line.sent := by
  have few := kept.few
  rw [← kept.packet]
  cases kept.standing with
  | ready _ _ count _ sent => exact ⟨_, by omega, sent⟩
  | inside _ opened => exact ⟨_, by have := opened.count; omega, opened.sent⟩
  | ended _ report => exact ⟨_, Nat.succ_le_succ report.few, report.sent⟩

theorem report (kept : Kept start first exchange session notes)
    (closed : exchange.result? = some result) : ∃ attempts last,
      Report start first.requestId first.packet notes result session attempts last := by
  rw [← kept.packet, ← kept.requestId]
  cases kept.standing with
  | ready stage => simp [Exchange.result?, stage] at closed
  | inside inside =>
      unfold Exchange.result? at closed
      split at closed
      · next stage => simp [stage, Stage.isInside] at inside
      · simp at closed
  | ended stage report =>
      rw [Exchange.result?, stage] at closed
      obtain rfl := Option.some.inj closed
      exact ⟨_, _, report⟩

end Kept
end

namespace Course

def Reached (start : Session) (message : Message) (course : Course) : Prop :=
  ∃ exchange session, start.begin message = .ok (exchange, session) ∧
    Relation.ReflTransGen Step ⟨exchange, session, []⟩ course

def Ran (start : Session) (message : Message) (course : Course) : Prop :=
  ∃ exchange session, start.begin message = .ok (exchange, session) ∧
    Relation.ReflTransGen Goes ⟨exchange, session, []⟩ course

/-- What holds all the time, and what there is to tell when the request is over. -/
structure Bounded (start : Session) (message : Message) (course : Course) : Prop where
  now : course.session.now ≤ start.limit
  /-- No timer is set for a later time. -/
  deadline : course.exchange.stage.isInside → course.exchange.deadline ≤ start.limit
  /-- If it is not over and has nothing left to do, the limit has not come. -/
  returns : course.exchange.step? course.session = none → course.exchange.result? = none →
    course.session.now < start.limit
  sent : ∃ count, count ≤ start.config.retries + 1 ∧
    course.session.line.sent = List.replicate count
      ((message.withRequestId (Session.requestId start.nextId)).packet start.config.station) ++
        start.line.sent
  report : ∀ result, course.exchange.result? = some result → ∃ attempts last,
    Report start (Session.requestId start.nextId)
      ((message.withRequestId (Session.requestId start.nextId)).packet start.config.station)
      course.notes result course.session attempts last ∧
    Decided start (Session.requestId start.nextId) result course.session attempts last

theorem Ran.reached {start : Session} {message : Message} {course : Course}
    (ran : Ran start message course) : Reached start message course := by
  obtain ⟨exchange, session, begun, steps⟩ := ran
  exact ⟨exchange, session, begun, steps.lift id fun _ _ goes => .goes goes⟩

theorem Reached.bounded {start : Session} {message : Message} {course : Course}
    (reached : Reached start message course) (idle : start.Idle) (free : start.turns = [])
    (reliable : start.line.Reliable) : Bounded start message course := by
  obtain ⟨first, session, begun, steps⟩ := reached
  have kept := kept_of_steps steps (.begin begun idle free reliable)
  have begins := Session.begins begun
  have packet := Session.packet_begin begun
  constructor
  · exact kept.now_le
  · exact kept.deadline_le
  · intro settled unfinished
    obtain ⟨inside, early⟩ := Exchange.lt_deadline_of_idle settled unfinished
    exact Nat.lt_of_lt_of_le early (kept.deadline_le inside)
  · exact packet ▸ kept.sent
  · intro result closed
    obtain ⟨attempts, last, report⟩ := kept.report closed
    rw [packet, begins.requestId] at report
    exact ⟨attempts, last, report, report.decided⟩

def Leads (course : Course) (exchange : Exchange) (session : Session) : Prop :=
  ∃ notes, Relation.ReflTransGen Goes course ⟨exchange, session, notes⟩

theorem leads_advance (course : Course) :
    course.Leads (course.exchange.advance course.session).1
      (course.exchange.advance course.session).2 := by
  obtain ⟨exchange, session, notes⟩ := course
  -- on the steps of the poll
  induction exchange, session using Exchange.advance.induct generalizing notes with
  | case1 exchange session idle =>
      rw [Exchange.advance_of_idle idle]
      exact ⟨notes, .refl⟩
  | case2 exchange session next after step ih =>
      rw [Exchange.advance_of_step step]
      obtain ⟨more, steps⟩ := ih _
      exact ⟨more, steps.head (.step step)⟩

theorem leads_poll (course : Course) :
    course.Leads (course.exchange.poll course.session).1 (course.exchange.poll course.session).2 := by
  obtain ⟨notes, steps⟩ := leads_advance ⟨_, _, course.notes⟩
  exact ⟨notes, steps.head .resume⟩

theorem leads_await {deadlines : Nat} {course : Course}
    (few : course.exchange.attempt ≤ course.session.config.retries)
    (settled : course.exchange.step? course.session = none)
    (enough : course.exchange.result? = none →
      course.session.config.retries < course.exchange.attempt + deadlines) : ∃ exchange,
    course.Leads exchange (Session.await deadlines course.exchange course.session).2 ∧
      exchange.result? = some (Session.await deadlines course.exchange course.session).1 := by
  -- each deadline spends an attempt, so they do not run out before the attempts do
  induction deadlines generalizing course with
  | zero =>
      cases closed : course.exchange.result? with
      | none => exact absurd few (Nat.not_le_of_lt (enough closed))
      | some result =>
          refine ⟨course.exchange, ⟨course.notes, .refl⟩, ?_⟩
          rw [Session.await_of_result _ _ closed, closed]
  | succ deadlines ih =>
      unfold Session.await
      cases closed : course.exchange.result? with
      | some result => exact ⟨course.exchange, ⟨course.notes, .refl⟩, closed⟩
      | none =>
          have inside := (Exchange.lt_deadline_of_idle settled closed).1
          let late := course.session.leapTo course.exchange.deadline
          let polled := course.exchange.poll late
          have waits : course.Goes { course with session := late } :=
            .wait settled closed (Nat.le_refl _)
          obtain ⟨notes, polls⟩ := leads_poll { course with session := late }
          have config : polled.2.config = course.session.config := course.exchange.config_poll late
          have few : polled.1.attempt ≤ polled.2.config.retries :=
            config ▸ Exchange.attempt_poll_le few
          have enough (unfinished : polled.1.result? = none) :
              polled.2.config.retries < polled.1.attempt + deadlines := by
            have ranOut : course.exchange.deadline ≤ late.now := course.session.le_now_leapTo _
            have later : course.exchange.attempt < polled.1.attempt :=
              Exchange.attempt_lt_poll inside ranOut unfinished
            have left := enough closed
            rw [config]
            omega
          obtain ⟨exchange, ⟨more, rest⟩, result⟩ :=
            @ih ⟨polled.1, polled.2, notes⟩ few (Exchange.step?_advance _ _) enough
          exact ⟨exchange, ⟨more, (polls.trans rest).head waits⟩, result⟩

theorem ran_request {start : Session} {message : Message} (valid : message.validate = .ok ()) :
    ∃ course, Ran start message course ∧
      course.exchange.result? = some (start.request message).1 ∧
      course.session = (start.request message).2 := by
  obtain ⟨⟨exchange, session⟩, begun⟩ : ∃ started, start.begin message = .ok started := by
    simp [Session.begin, valid]
  have begins := Session.begins begun
  have config := exchange.config_poll session
  obtain ⟨notes, polls⟩ := leads_poll ⟨exchange, session, []⟩
  have few : (exchange.poll session).1.attempt ≤ (exchange.poll session).2.config.retries :=
    config ▸ Exchange.attempt_poll_le (begins.attempt ▸ Nat.zero_le _)
  have all : (exchange.poll session).2.config.retries <
      (exchange.poll session).1.attempt + ((exchange.poll session).2.config.retries + 1) := by
    omega
  obtain ⟨last, ⟨more, awaits⟩, result⟩ := @leads_await _
    ⟨(exchange.poll session).1, (exchange.poll session).2, notes⟩ few
    (Exchange.step?_advance _ _) fun _ => all
  rw [Session.request, begun]
  exact ⟨⟨last, _, more⟩, ⟨exchange, session, begun, polls.trans awaits⟩, result, rfl⟩

end Course

/-- A message that is refused leaves the session as it was. Any other is sent and sent again within
bounds, whatever comes on the line and whenever, and the request answers accordingly. An attempt
waits for as long as it is told to and on until the timer rings. -/
theorem Session.request_retries {session : Session} (idle : session.Idle)
    (free : session.turns = []) (reliable : session.line.Reliable) (message : Message) :
    (session.config.timeout ≤ session.span ∧
      session.span < session.config.timeout + 2 * Timer.tick ∧
      (Timer.tick ∣ session.now → Timer.tick ∣ session.config.timeout →
        session.span = session.config.timeout)) ∧
    match message.validate with
    | .error fault => session.request message = (.error (.oid fault none), session)
    | .ok () =>
        (∀ course, Course.Reached session message course → course.Bounded session message) ∧
        ∃ course, Course.Ran session message course ∧
          course.exchange.result? = some (session.request message).1 ∧
          course.session = (session.request message).2 ∧ course.Bounded session message := by
  refine ⟨⟨Timer.le_wait _ _, Timer.wait_lt _ _, Timer.wait_of_dvd⟩, ?_⟩
  cases valid : message.validate with
  | error fault => simp [request, begin, valid]
  | ok =>
      obtain ⟨course, ran, result, after⟩ := Course.ran_request valid
      exact ⟨fun course reached => reached.bounded idle free reliable, course, ran, result, after,
        ran.reached.bounded idle free reliable⟩

namespace Session

variable {session : Session} {message : Message} {begun first second : Exchange × Session}
  {result : Except Failure Message}

theorem request_of_polls (begins : session.begin message = .ok begun)
    (sends : begun.1.poll begun.2 = first) (running : first.1.result? = none)
    (ends : first.1.poll (first.2.leapTo first.1.deadline) = second)
    (ended : second.1.result? = some result) : session.request message = (result, second.2) := by
  rw [request, begins]
  dsimp only
  rw [sends, await, running]
  dsimp only
  rw [ends, await_of_result _ _ ended]

end Session

section

def patchyReply (requestId : Int32) : Message :=
  { Message.ofNames .v1 "public" .response [.ofNats [1, 3]] with requestId }

/-- To the first message comes what cannot be read, to the second a stale reply and silence, to the
third the reply. -/
def patchyStart : Session :=
  .start { Config.standard with timeout := 99500000, retries := 2 } {
    peer := "agent"
    framed := false
    agent := Line.scripted [⟨[.message [0x30, 0x05]], false⟩,
      ⟨[.message (patchyReply 9).encode, .silence], false⟩,
      ⟨[.message (patchyReply 1).encode], false⟩]
    inbox := []
    sent := [] } 0

def plainRequest : Message := .ofNames .v1 "public" .getRequest [.ofNats [1, 3]]

def patchyBegun : Exchange × Session :=
  (patchyStart.begin plainRequest).toOption.get (by decide +kernel)

def patchyFirst : Exchange × Session := (patchyBegun.1.pollSteps 20 patchyBegun.2).1

def patchySecond : Exchange × Session :=
  (patchyFirst.1.pollSteps 20 (patchyFirst.2.leapTo patchyFirst.1.deadline)).1

theorem request_patchy :
    patchyStart.request plainRequest = (.ok (patchyReply 1), patchySecond.2) :=
  Session.request_of_polls rfl (Exchange.poll_eq_pollSteps (by decide +kernel)).1
    (Option.isNone_iff_eq_none.mp (by decide +kernel))
    (Exchange.poll_eq_pollSteps (by decide +kernel)).1 (by decide +kernel)

theorem reliable_patchyStart : patchyStart.line.Reliable := by
  have all : ∀ sent, (patchyStart.line.agent sent).refused = false ∧
      .fault ∉ (patchyStart.line.agent sent).deliveries := by
    intro sent
    change (Line.scripted _ sent).refused = false ∧ .fault ∉ (Line.scripted _ sent).deliveries
    unfold Line.scripted
    rcases sent.length - 1 with _ | _ | _ | place <;> simp [Line.quiet]
  exact ⟨fun sent => (all sent).1, fun sent => (all sent).2, by simp [patchyStart, Session.start]⟩

theorem request_retries_patchy :
    patchyStart.Idle ∧ patchyStart.turns = [] ∧ patchyStart.line.Reliable ∧
    (∃ course, Course.Ran patchyStart plainRequest course ∧
      course.exchange.result? = some (.ok (patchyReply 1)) ∧
      course.session = patchySecond.2 ∧ course.Bounded patchyStart plainRequest) ∧
    patchyStart.span = 100000000 ∧ patchySecond.2.now = 100000000 ∧
    patchySecond.2.line.sent.length = 3 := by
  have idle : patchyStart.Idle := ⟨rfl, rfl⟩
  have valid : plainRequest.validate = .ok () := rfl
  have whole := (Session.request_retries idle rfl reliable_patchyStart plainRequest).2
  rw [valid, request_patchy] at whole
  exact ⟨idle, rfl, reliable_patchyStart, whole.2, by decide +kernel, by decide +kernel,
    by decide +kernel⟩

def hastyStart : Session :=
  .start { Config.standard with timeout := 500000, retries := 0 } {
    peer := "agent"
    framed := false
    agent := fun _ => ⟨[.silence], false⟩
    inbox := []
    sent := [] } 0

def hastyBegun : Exchange × Session :=
  (hastyStart.begin plainRequest).toOption.get (by decide +kernel)

def hastyFirst : Exchange × Session := (hastyBegun.1.pollSteps 20 hastyBegun.2).1

def hastySecond : Exchange × Session :=
  (hastyFirst.1.pollSteps 20 (hastyFirst.2.leapTo hastyFirst.1.deadline)).1

theorem request_hasty :
    hastyStart.request plainRequest = (.error (.timeout 1000000 1 0), hastySecond.2) :=
  Session.request_of_polls rfl (Exchange.poll_eq_pollSteps (by decide +kernel)).1
    (Option.isNone_iff_eq_none.mp (by decide +kernel))
    (Exchange.poll_eq_pollSteps (by decide +kernel)).1 (by decide +kernel)

/-- A request can be over later than its attempts were told to wait. -/
theorem Session.not_forall_inTime : ¬∀ (session : Session) (message : Message),
    session.Idle → session.turns = [] → session.line.Reliable → message.validate = .ok () →
      (session.request message).2.now ≤
        session.now + (session.config.retries + 1) * session.config.timeout := by
  intro inTime
  have reliable : hastyStart.line.Reliable :=
    ⟨fun _ => rfl, fun _ => by simp [hastyStart, Session.start], List.not_mem_nil⟩
  have early := inTime hastyStart plainRequest ⟨rfl, rfl⟩ rfl reliable rfl
  rw [request_hasty] at early
  exact absurd early (by decide +kernel)

end
end RoadsideSnmp
