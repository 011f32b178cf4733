import RoadsideSnmp.Session

/-! One request on its way: sending, waiting for the reply, sending again. An exchange goes on in
small steps, each of which sees and changes the session; between steps other exchanges may take
theirs. A poll takes all the steps that can be taken now. -/
namespace RoadsideSnmp

inductive Stage where
  /-- An attempt is about to be sent. -/
  | sending
  /-- About to look into the mailbox. -/
  | checking
  /-- The mailbox was empty; about to ask for the turn. -/
  | asking
  /-- In the queue for the turn. -/
  | waiting
  /-- About to read the line. -/
  | reading
  /-- The line was empty. -/
  | listening
  /-- The line gave silence, and will not be read again in this attempt. -/
  | muted
  | finished (result : Except Failure Message)

structure Exchange where
  ticket : Ticket
  requestId : Int32
  packet : Octets
  started : Nat
  /-- Counts from 0. -/
  attempt : Nat
  /-- When the timer rings for the attempt. -/
  deadline : Nat
  /-- The place of the attempt's message among all that were sent. -/
  place : Nat
  stage : Stage

namespace Exchange

def result? (exchange : Exchange) : Option (Except Failure Message) :=
  match exchange.stage with
  | .finished result => some result
  | _ => none

def finish (result : Except Failure Message) (exchange : Exchange) : Exchange :=
  { exchange with stage := .finished result }

def quit (exchange : Exchange) (session : Session) : Session :=
  ((session.ignore exchange.ticket).leave exchange.ticket).unregister exchange.requestId
    exchange.ticket

/-- Ends the attempt for want of a reply. The last attempt's failure is the request's. -/
def again (exchange : Exchange) (failure : Failure) (session : Session) : Exchange × Session :=
  let session := exchange.quit session
  if exchange.attempt < session.config.retries then
    ({ exchange with attempt := exchange.attempt + 1, stage := .sending }, session)
  else (exchange.finish (.error failure), session)

def timeout (exchange : Exchange) (now : Nat) : Failure :=
  .timeout (now - exchange.started) exchange.requestId exchange.attempt

def expire (exchange : Exchange) (session : Session) : Exchange × Session :=
  exchange.again (exchange.timeout session.now)
    (session.count fun counters => { counters with timeouts := counters.timeouts + 1 })

def conclude (exchange : Exchange) (reply : Message) (session : Session) : Exchange × Session :=
  (exchange.finish ((reply.checkError.map fun _ => reply).mapError .agent),
    exchange.quit
      (session.count fun counters => { counters with responses := counters.responses + 1 }))

def transmit (exchange : Exchange) (session : Session) : Exchange × Session :=
  let counted := session.countIf (0 < exchange.attempt) fun counters =>
    { counters with retries := counters.retries + 1 }
  let sent := (counted.register exchange.requestId exchange.ticket).send exchange.packet
  if sent.1 then
    (exchange.finish (.error (.link (some sent.2.line.peer) .sendFailed)),
      exchange.quit sent.2)
  else
    ({ exchange with
        deadline := Timer.rings (sent.2.now + sent.2.config.timeout)
        place := sent.2.line.sent.length
        stage := .checking }, sent.2)

/-- The mailbox comes before the line. -/
def look (exchange : Exchange) (session : Session) : Exchange × Session :=
  match session.mail.find? (·.1 = exchange.ticket) with
  | some (_, reply) => exchange.conclude reply session
  | none =>
      if (exchange.requestId, exchange.ticket) ∈ session.pending then
        ({ exchange with stage := .asking }, session)
      else exchange.expire session

def ask (exchange : Exchange) (session : Session) : Exchange × Session :=
  let session := session.join exchange.ticket
  let stage := if session.turns.head? = some exchange.ticket then .reading else .waiting
  ({ exchange with stage }, session)

/-- Keeps a reply of its own, passes on another's, and drops what nobody awaits. -/
def sort (exchange : Exchange) (message : Message) (session : Session) : Exchange × Session :=
  if message.kind = .response ∧ message.requestId = exchange.requestId then
    exchange.conclude message session
  else
    let owner := if message.kind = .response then session.pending.lookup message.requestId else none
    let session := match owner with
      | some owner => session.deliver message owner
      | none => session.count fun counters => { counters with stale := counters.stale + 1 }
    ({ exchange with stage := .checking }, session.leave exchange.ticket)

/-- A damaged frame is counted and its content used; what cannot be read ends the attempt. -/
def receive (exchange : Exchange) (octets : Octets) (session : Session) : Exchange × Session :=
  let (decoded, damaged) := session.unpack octets
  let session := session.countIf damaged fun counters =>
    { counters with damaged := counters.damaged + 1 }
  match decoded with
  | .ok message => exchange.sort message session
  | .error error => exchange.again (.decode error)
      (session.count fun counters => { counters with undecodable := counters.undecodable + 1 })

def read (exchange : Exchange) (session : Session) : Exchange × Session :=
  let taken := { session with line := session.line.take }
  match session.line.inbox with
  | [] => ({ exchange with stage := .listening },
      { session with listener := some exchange.ticket })
  | .silence :: _ => ({ exchange with stage := .muted }, taken)
  | .fault :: _ =>
      (exchange.finish (.error (.link none .receiveFailed)), exchange.quit taken)
  | .message octets :: _ => exchange.receive octets taken

/-- The next small step, if there is one before time passes or another exchange does something. -/
def step? (exchange : Exchange) (session : Session) : Option (Exchange × Session) :=
  match exchange.stage with
  | .sending => some (exchange.transmit session)
  | .checking => some (exchange.look session)
  | .asking => some (exchange.ask session)
  | .reading => some (exchange.read session)
  | .waiting | .listening | .muted =>
      if exchange.deadline ≤ session.now then some (exchange.expire session) else none
  | .finished _ => none

end Exchange
end RoadsideSnmp
