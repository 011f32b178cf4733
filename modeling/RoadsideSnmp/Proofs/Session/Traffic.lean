import Mathlib.Logic.Relation
import RoadsideSnmp.Proofs.Session.Takings

/-! Everything that can happen to a session while requests run on it at the same time: requests
begin, are polled in any order and are given up, messages arrive, time passes. The agent reacts to
what it is sent as the session's line says, whatever that is. -/
namespace RoadsideSnmp

/-- A session, the requests that were begun on it and not given up, what was taken from its line and
what was put there, first of all first. -/
structure Traffic where
  session : Session
  exchanges : List Exchange
  dropped : List Ticket
  log : List Taking
  arrived : List Delivery

structure Session.Idle (session : Session) : Prop where
  pending : session.pending = []
  mail : session.mail = []

namespace Traffic

def opening (start : Session) : Traffic := ⟨start, [], [], [], []⟩

inductive Step (traffic : Traffic) : Traffic → Prop
  | begin {message : Message} {exchange : Exchange} {session : Session}
      (begun : traffic.session.begin message = .ok (exchange, session)) :
      Step traffic { traffic with session, exchanges := exchange :: traffic.exchanges }
  | poll {before later : List Exchange} {exchange : Exchange}
      (listed : traffic.exchanges = before ++ exchange :: later) :
      Step traffic { traffic with
        session := (exchange.poll traffic.session).2
        exchanges := before ++ (exchange.poll traffic.session).1 :: later
        log := traffic.log ++ exchange.polled traffic.session
        arrived := traffic.arrived ++
          traffic.session.line.added (exchange.poll traffic.session).2.line }
  | drop {before later : List Exchange} {exchange : Exchange}
      (listed : traffic.exchanges = before ++ exchange :: later)
      (unfinished : exchange.result? = none) :
      Step traffic { traffic with
        session := exchange.cancel traffic.session
        exchanges := before ++ later
        dropped := exchange.ticket :: traffic.dropped }
  | arrive (deliveries : List Delivery) :
      Step traffic { traffic with
        session := { traffic.session with line := traffic.session.line.queue deliveries }
        arrived := traffic.arrived ++ deliveries }
  | pass (time : Nat) : Step traffic { traffic with session := traffic.session.advanceTo time }
  | rouse (woken : List Ticket) :
      Step traffic { traffic with session := { traffic.session with woken } }

def Reached (start : Session) : Traffic → Prop := Relation.ReflTransGen Step (opening start)

def Apart (traffic : Traffic) : Prop :=
  ((traffic.exchanges.filter (·.result?.isNone)).map Exchange.requestId).Nodup

def ReachedApart (start : Session) : Traffic → Prop :=
  Relation.ReflTransGen (fun before after => before.Step after ∧ after.Apart) (opening start)

variable {start : Session} {traffic : Traffic}

theorem apart_of_nodup (distinct : (traffic.exchanges.map Exchange.requestId).Nodup) :
    traffic.Apart :=
  distinct.sublist (List.filter_sublist.map _)

def beginOne (message : Message) (traffic : Traffic) : Traffic :=
  match traffic.session.begin message with
  | .ok (exchange, session) =>
      { traffic with session, exchanges := exchange :: traffic.exchanges }
  | .error _ => traffic

def pollAt (traffic : Traffic) (place : Nat) : Traffic :=
  match traffic.exchanges[place]? with
  | some exchange =>
      { traffic with
        session := (exchange.poll traffic.session).2
        exchanges := traffic.exchanges.set place (exchange.poll traffic.session).1
        log := traffic.log ++ exchange.polled traffic.session
        arrived := traffic.arrived ++
          traffic.session.line.added (exchange.poll traffic.session).2.line }
  | none => traffic

def pollAt? (count : Nat) (traffic : Traffic) (place : Nat) : Option Traffic :=
  match traffic.exchanges[place]? with
  | some exchange =>
      let ((next, after), taken) := exchange.pollSteps count traffic.session
      if (next.step? after).isNone then
        some { traffic with
          session := after
          exchanges := traffic.exchanges.set place next
          log := traffic.log ++ taken
          arrived := traffic.arrived ++ traffic.session.line.added after.line }
      else none
  | none => some traffic

theorem pollAt_of_pollAt? {count place : Nat} {after : Traffic}
    (polled : traffic.pollAt? count place = some after) : traffic.pollAt place = after := by
  unfold pollAt? at polled
  unfold pollAt
  split at polled
  · next exchange listed =>
      obtain ⟨done, polled⟩ := Option.ite_none_right_eq_some.mp polled
      obtain ⟨poll, taken⟩ := Exchange.poll_eq_pollSteps done
      rw [poll, taken]
      exact Option.some.inj polled
  · next absent => exact Option.some.inj polled

theorem foldl_pollAt {count : Nat} {places : List Nat} {after : Traffic}
    (polled : places.foldlM (pollAt? count) traffic = some after) :
    places.foldl pollAt traffic = after := by
  induction places generalizing traffic with
  | nil => exact Option.some.inj polled
  | cons place places ih =>
      obtain ⟨middle, first, rest⟩ := Option.bind_eq_some_iff.mp polled
      rw [List.foldl_cons, pollAt_of_pollAt? first, ih rest]

theorem step_beginOne {message : Message} (valid : message.validate = .ok ()) :
    traffic.Step (traffic.beginOne message) := by
  obtain ⟨begun, same⟩ : ∃ begun, traffic.session.begin message = .ok begun := by
    simp [Session.begin, valid]
  rw [beginOne, same]
  exact .begin same

theorem step_pollAt {place : Nat} (listed : place < traffic.exchanges.length) :
    traffic.Step (traffic.pollAt place) := by
  have split := List.getElem_cons_drop listed
  rw [pollAt, List.getElem?_eq_getElem listed]
  dsimp only
  rw [List.set_eq_take_append_cons_drop, if_pos listed]
  refine .poll ?_
  rw [split, List.take_append_drop]

theorem requestIds_pollAt (traffic : Traffic) (place : Nat) :
    (traffic.pollAt place).exchanges.map Exchange.requestId =
      traffic.exchanges.map Exchange.requestId := by
  unfold pollAt
  split
  · next exchange listed =>
      obtain ⟨inside, same⟩ := List.getElem?_eq_some_iff.mp listed
      dsimp only
      rw [List.map_set, Exchange.requestId_poll, ← same, ← List.map_set,
        List.set_getElem_self inside]
  · rfl

theorem ReachedApart.polls (reached : ReachedApart start traffic)
    (distinct : (traffic.exchanges.map Exchange.requestId).Nodup) (places : List Nat) :
    ReachedApart start (places.foldl pollAt traffic) := by
  induction places generalizing traffic with
  | nil => exact reached
  | cons place places ih =>
      rw [← requestIds_pollAt traffic place] at distinct
      refine ih ?_ distinct
      by_cases listed : place < traffic.exchanges.length
      · exact .tail reached ⟨step_pollAt listed, apart_of_nodup distinct⟩
      · have same : traffic.pollAt place = traffic := by
          rw [pollAt, List.getElem?_eq_none (Nat.not_lt.mp listed)]
        rwa [same]

/-- What has been taken and what is still on the line is what has arrived, in order. -/
def Received (start : Session) (traffic : Traffic) : Prop :=
  start.line.inbox ++ traffic.arrived =
    traffic.log.map Taking.delivery ++ traffic.session.line.inbox

theorem Step.received {after : Traffic} (step : traffic.Step after)
    (received : traffic.Received start) : after.Received start := by
  unfold Received at received ⊢
  cases step with
  | begin begun =>
      rw [(Session.begins begun).after]
      exact received
  | @poll _ _ exchange =>
      rw [← List.append_assoc, received, List.append_assoc, List.map_append, List.append_assoc,
        (exchange.poll_goes traffic.session).added]
  | @drop _ _ exchange =>
      obtain ⟨listener, woken, left⟩ := exchange.quit_eq traffic.session
      rw [Exchange.cancel, left]
      exact received
  | arrive deliveries => rw [← List.append_assoc, received, List.append_assoc, Line.queue]
  | pass => exact received
  | rouse => exact received

theorem Reached.received (reached : Reached start traffic) : traffic.Received start := by
  induction reached with
  | refl => exact List.append_nil _
  | tail _ step ih => exact step.received ih

theorem ReachedApart.reached (reached : ReachedApart start traffic) : Reached start traffic := by
  induction reached with
  | refl => exact .refl
  | tail _ step ih => exact .tail ih step.1

end Traffic
end RoadsideSnmp
