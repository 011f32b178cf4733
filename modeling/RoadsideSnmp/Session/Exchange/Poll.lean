import RoadsideSnmp.Session.Exchange

/-! Taking small steps until none is left. Steps run out because an attempt can only be followed
by a later one, within an attempt each message read is gone from the line, and between two reads
the stages follow one another. -/
namespace RoadsideSnmp

namespace Session

@[simp] theorem config_wake (ticket : Ticket) (session : Session) :
    (session.wake ticket).config = session.config := by
  unfold wake; split <;> rfl

@[simp] theorem line_wake (ticket : Ticket) (session : Session) :
    (session.wake ticket).line = session.line := by
  unfold wake; split <;> rfl

@[simp] theorem config_wakeAny (ticket : Option Ticket) (session : Session) :
    (session.wakeAny ticket).config = session.config := by
  cases ticket <;> simp [wakeAny]

@[simp] theorem line_wakeAny (ticket : Option Ticket) (session : Session) :
    (session.wakeAny ticket).line = session.line := by
  cases ticket <;> simp [wakeAny]

@[simp] theorem config_register (requestId : Int32) (ticket : Ticket) (session : Session) :
    (session.register requestId ticket).config = session.config := rfl

@[simp] theorem config_unregister (requestId : Int32) (ticket : Ticket) (session : Session) :
    (session.unregister requestId ticket).config = session.config := rfl

@[simp] theorem line_unregister (requestId : Int32) (ticket : Ticket) (session : Session) :
    (session.unregister requestId ticket).line = session.line := rfl

@[simp] theorem config_deliver (message : Message) (owner : Ticket) (session : Session) :
    (session.deliver message owner).config = session.config := by
  simp [deliver]

@[simp] theorem line_deliver (message : Message) (owner : Ticket) (session : Session) :
    (session.deliver message owner).line = session.line := by
  simp [deliver]

@[simp] theorem config_leave (ticket : Ticket) (session : Session) :
    (session.leave ticket).config = session.config := by
  unfold leave; split <;> simp

@[simp] theorem line_leave (ticket : Ticket) (session : Session) :
    (session.leave ticket).line = session.line := by
  unfold leave; split <;> simp

@[simp] theorem config_join (ticket : Ticket) (session : Session) :
    (session.join ticket).config = session.config := by
  unfold join; split <;> rfl

@[simp] theorem line_join (ticket : Ticket) (session : Session) :
    (session.join ticket).line = session.line := by
  unfold join; split <;> rfl

@[simp] theorem config_ignore (ticket : Ticket) (session : Session) :
    (session.ignore ticket).config = session.config := by
  unfold ignore; split <;> rfl

@[simp] theorem line_ignore (ticket : Ticket) (session : Session) :
    (session.ignore ticket).line = session.line := by
  unfold ignore; split <;> rfl

@[simp] theorem config_send (packet : Octets) (session : Session) :
    (session.send packet).2.config = session.config := by
  simp [send]

@[simp] theorem config_count (change : Counters → Counters) (session : Session) :
    (session.count change).config = session.config := rfl

@[simp] theorem line_count (change : Counters → Counters) (session : Session) :
    (session.count change).line = session.line := rfl

@[simp] theorem config_countIf (condition : Bool) (change : Counters → Counters)
    (session : Session) : (session.countIf condition change).config = session.config := by
  unfold countIf; split <;> rfl

@[simp] theorem line_countIf (condition : Bool) (change : Counters → Counters)
    (session : Session) : (session.countIf condition change).line = session.line := by
  unfold countIf; split <;> rfl

end Session

namespace Exchange

@[simp] theorem config_quit (exchange : Exchange) (session : Session) :
    (exchange.quit session).config = session.config := by
  simp [quit]

/-- How many attempts may still begin or end; an attempt about to be sent has both before it. -/
def ahead (exchange : Exchange) (session : Session) : Nat :=
  match exchange.stage with
  | .sending => 2 * (session.config.retries - exchange.attempt) + 2
  | .finished _ => 0
  | _ => 2 * (session.config.retries - exchange.attempt) + 1

/-- How many stages may follow before the line is read. -/
def rank (exchange : Exchange) : Nat :=
  match exchange.stage with
  | .checking => 3
  | .asking => 2
  | .reading => 1
  | _ => 0

def Closer (after before : Exchange × Session) : Prop :=
  after.1.ahead after.2 < before.1.ahead before.2 ∨
    after.1.ahead after.2 = before.1.ahead before.2 ∧
      (after.2.line.inbox.length < before.2.line.inbox.length ∨
        after.2.line.inbox.length = before.2.line.inbox.length ∧ after.1.rank < before.1.rank)

theorem ahead_finish (result : Except Failure Message) (exchange : Exchange) (session : Session) :
    (exchange.finish result).ahead session = 0 := rfl

theorem ahead_again_lt (exchange : Exchange) (failure : Failure) (session : Session) :
    (exchange.again failure session).1.ahead (exchange.again failure session).2 <
      2 * (session.config.retries - exchange.attempt) + 1 := by
  unfold again
  dsimp only
  split
  · next more =>
      rw [config_quit] at more
      simp only [ahead, config_quit]
      omega
  · simp [ahead_finish]

theorem ahead_expire_lt (exchange : Exchange) (session : Session) :
    (exchange.expire session).1.ahead (exchange.expire session).2 <
      2 * (session.config.retries - exchange.attempt) + 1 :=
  ahead_again_lt exchange _ _

theorem ahead_transmit_lt {exchange : Exchange} {session : Session}
    (stage : exchange.stage = .sending) :
    (exchange.transmit session).1.ahead (exchange.transmit session).2 <
      exchange.ahead session := by
  have before : exchange.ahead session =
      2 * (session.config.retries - exchange.attempt) + 2 := by simp [ahead, stage]
  rw [before]
  unfold transmit
  dsimp only
  split
  · simp [ahead_finish]
  · simp [ahead]

theorem sort_closer {exchange : Exchange} {session before : Session} (message : Message)
    (stage : exchange.stage = .reading) (config : session.config = before.config)
    (inbox : session.line.inbox.length < before.line.inbox.length) :
    Closer (exchange.sort message session) (exchange, before) := by
  have open_ : exchange.ahead before =
      2 * (before.config.retries - exchange.attempt) + 1 := by simp [ahead, stage]
  unfold sort
  split
  · exact .inl (by simp [conclude, ahead_finish, open_])
  · right
    dsimp only
    split <;> simp [ahead, stage, config, inbox]

theorem receive_closer {exchange : Exchange} {session before : Session} (octets : Octets)
    (stage : exchange.stage = .reading) (config : session.config = before.config)
    (inbox : session.line.inbox.length < before.line.inbox.length) :
    Closer (exchange.receive octets session) (exchange, before) := by
  unfold receive
  dsimp only
  split
  · exact sort_closer _ stage (by simp [config]) (by simp [inbox])
  · refine .inl (Nat.lt_of_lt_of_eq (ahead_again_lt exchange _ _) ?_)
    simp [ahead, stage, config]

theorem read_closer {exchange : Exchange} {session : Session} (stage : exchange.stage = .reading) :
    Closer (exchange.read session) (exchange, session) := by
  have open_ : exchange.ahead session =
      2 * (session.config.retries - exchange.attempt) + 1 := by simp [ahead, stage]
  unfold read
  dsimp only
  split
  · next empty => exact .inr ⟨by simp [ahead, stage], .inr ⟨rfl, by simp [rank, stage]⟩⟩
  · next some => exact .inr ⟨by simp [ahead, stage], .inl (by simp [some])⟩
  · exact .inl (by simp [ahead_finish, open_])
  · next some => exact receive_closer _ stage rfl (by simp [some])

theorem step?_closer {exchange next : Exchange} {session after : Session}
    (step : exchange.step? session = some (next, after)) :
    Closer (next, after) (exchange, session) := by
  unfold step? at step
  split at step
  · next stage =>
      rw [← Option.some.inj step]
      exact .inl (ahead_transmit_lt stage)
  · next stage =>
      rw [← Option.some.inj step]
      have open_ : exchange.ahead session =
          2 * (session.config.retries - exchange.attempt) + 1 := by simp [ahead, stage]
      unfold look
      split
      · exact .inl (by simp [conclude, ahead_finish, open_])
      · split
        -- no attempt ends here, and the exchange is nearer to the line
        · exact .inr ⟨by simp [ahead, stage], .inr ⟨rfl, by simp [rank, stage]⟩⟩
        · exact .inl (open_ ▸ ahead_expire_lt exchange session)
  · next stage =>
      rw [← Option.some.inj step]
      unfold ask
      dsimp only
      split <;> exact .inr ⟨by simp [ahead, stage], .inr ⟨by simp, by simp [rank, stage]⟩⟩
  · next stage =>
      rw [← Option.some.inj step]
      exact read_closer stage
  iterate 3
    · next stage =>
        split at step
        · rw [← Option.some.inj step]
          refine .inl (Nat.lt_of_lt_of_eq (ahead_expire_lt exchange session) ?_)
          simp [ahead, stage]
        · simp at step
  · simp at step

def advance (exchange : Exchange) (session : Session) : Exchange × Session :=
  match _step : exchange.step? session with
  | none => (exchange, session)
  | some (next, after) => advance next after
termination_by (exchange.ahead session, session.line.inbox.length, exchange.rank)
decreasing_by
  rcases step?_closer _step with less | ⟨same, less | ⟨equal, less⟩⟩
  · exact .left _ _ less
  · rw [same]
    exact .right _ (.left _ _ less)
  · rw [same, equal]
    exact .right _ (.right _ less)

def resume (exchange : Exchange) (session : Session) : Exchange × Session :=
  match exchange.stage with
  | .waiting => ({ exchange with stage := .checking }, session)
  | .listening => ({ exchange with stage := .reading }, session.ignore exchange.ticket)
  | _ => (exchange, session)

def poll (exchange : Exchange) (session : Session) : Exchange × Session :=
  (exchange.resume session).1.advance (exchange.resume session).2

/-- Gives the request up; whatever it had of the session is free again. -/
def cancel (exchange : Exchange) (session : Session) : Session := exchange.quit session

end Exchange

namespace Session

/-- A message that cannot be encoded faithfully is refused and leaves no trace. -/
def begin (message : Message) (session : Session) : Except Failure (Exchange × Session) :=
  match message.validate with
  | .error fault => .error (.oid fault none)
  | .ok () =>
      let id := requestId session.nextId
      .ok ({
        ticket := session.nextTicket
        requestId := id
        packet := (message.withRequestId id).packet session.config.station
        started := session.now
        attempt := 0
        deadline := session.now
        place := 0
        stage := .sending },
        { session with
          nextId := session.nextId + 1
          nextTicket := session.nextTicket + 1
          }.count fun counters => { counters with requests := counters.requests + 1 })

/-- Lets time pass from deadline to deadline until the exchange is over; each deadline ends an
attempt, so there are no more of them than attempts. -/
def await : (deadlines : Nat) → Exchange → Session → Except Failure Message × Session
  | 0, exchange, session =>
      (exchange.result?.getD (.error (exchange.timeout session.now)), session)
  | deadlines + 1, exchange, session =>
      match exchange.result? with
      | some result => (result, session)
      | none =>
          let (next, after) := exchange.poll (session.leapTo exchange.deadline)
          await deadlines next after

def request (message : Message) (session : Session) : Except Failure Message × Session :=
  match session.begin message with
  | .error failure => (.error failure, session)
  | .ok (exchange, session) =>
      let (exchange, session) := exchange.poll session
      await (session.config.retries + 1) exchange session

end Session
end RoadsideSnmp
