import RoadsideSnmp.Proofs.Session.Framed
import RoadsideSnmp.Session.Walk

/-! What a manager can do with a session, and that it can tell frames from no frames by nothing but
the count of the damaged ones: the same operations have the same answers at the same times. -/
namespace RoadsideSnmp

theorem Walk.collect_station (config : Config) (station : Option Pmpp.Station) (room : Nat)
    (walk : Walk) (found : List Binding) :
    collect { config with station } room walk found = collect config room walk found := by
  induction room generalizing walk found with
  | zero => rfl
  | succ room ih =>
      unfold collect
      refine congrArg _ (funext fun reply => ?_)
      split <;> simp only [ih]

inductive Call where
  | request (message : Message)
  | getMany (names : List Oid)
  | get (name : Oid)
  | getNext (name : Oid)
  | getBulk (names : List Oid) (nonRepeaters maxRepetitions : Int32)
  | set (bindings : List Binding)
  | walkNext (walk : Walk)
  | walkAll (base : Oid)

inductive Call.Outcome where
  | message (reply : Except Failure Message)
  | bindings (reply : Except Failure (List Binding))
  | binding (reply : Except Failure Binding)
  | step (step : Walk.Step)

def Call.dialogue (config : Config) : Call → Dialogue Outcome
  | request message => .request message .message
  | getMany names => (Query.getMany config names).map .bindings
  | get name => (Query.get config name).map .binding
  | getNext name => (Query.getNext config name).map .binding
  | getBulk names nonRepeaters maxRepetitions =>
      (Query.getBulk config names nonRepeaters maxRepetitions).map .bindings
  | set bindings => (Query.set config bindings).map .bindings
  | walkNext walk => (walk.next config).map .step
  | walkAll base => (Walk.all config base).map .bindings

theorem Call.dialogue_station (config : Config) (station : Option Pmpp.Station) (call : Call) :
    call.dialogue { config with station } = call.dialogue config := by
  cases call with
  | walkAll base =>
      exact congrArg (Dialogue.map Outcome.bindings) (Walk.collect_station config station _ _ _)
  | _ => rfl

/-- Whoever gives up the call gives up its request; only a walk keeps its own for the next call. -/
def Call.isWhole : Call → Bool
  | walkNext _ => false
  | _ => true

namespace Session

/-- What is done with a session while no request is under way. Spans are in nanoseconds. -/
inductive Operation where
  | alone (call : Call)
  /-- The call is given up after that span. -/
  | within (span : Nat) (call : Call) (whole : call.isWhole)
  | together (rounds : Nat) (calls : List Call)
  /-- What arrives by itself. -/
  | queue (parcels : List Parcel)
  | sleep (span : Nat)
  | reset

/-- Operations one after another, each chosen by the answers so far and the times at which they
came. -/
inductive Program where
  | done
  | first (operation : Operation) (rest : List (List (Option Call.Outcome) × Nat) → Program)

structure Course where
  session : Session
  answers : List (List (Option Call.Outcome) × Nat)
  /-- What was on the line when the counters last came to be zero and what was put there since. -/
  put : List Parcel

namespace Course

/-- What was taken from the line since the counters last came to be zero. -/
def taken (course : Course) : List Parcel :=
  course.put.take (course.put.length - course.session.line.inbox.length)

def waiting (course : Course) : List Parcel :=
  course.put.drop (course.put.length - course.session.line.inbox.length)

def start (config : Config) (deliver : Parcel → Delivery) (script : List Consignment)
    (peer : String) (framed : Bool) (nanoseconds : Nat) : Course where
  session := .start config (.ofScript deliver script peer framed) nanoseconds
  answers := []
  put := []

def proceed (script : List Consignment) (answers : List (Option Call.Outcome)) (after : Session)
    (course : Course) : Course where
  session := after
  answers := course.answers ++ [(answers, after.now)]
  put := course.put ++
    Consignment.arrivals script course.session.line.sent.length after.line.sent.length

def perform (deliver : Parcel → Delivery) (script : List Consignment) (operation : Operation)
    (course : Course) : Course :=
  let session := course.session
  match operation with
  | .alone call =>
      let result := (call.dialogue session.config).perform session
      course.proceed script [some result.1] result.2
  | .within span call _ =>
      let result := (call.dialogue session.config).performWithin span session
      course.proceed script [result.1] result.2
  | .together rounds calls =>
      let result := Together.perform rounds (calls.map (Call.dialogue session.config)) session
      course.proceed script result.1 result.2
  | .queue parcels =>
      { course with
        session := { session with line := session.line.queue (parcels.map deliver) }
        put := course.put ++ parcels }
  | .sleep span => { course with session := session.leapTo (session.now + span) }
  | .reset => { course with session := session.count fun _ => .zero, put := course.waiting }

end Course

def Program.run (deliver : Parcel → Delivery) (script : List Consignment) :
    Program → Course → Course
  | done, course => course
  | first operation rest, course =>
      let next := course.perform deliver script operation
      (rest next.answers).run deliver script next

/-- The second course goes with frames where the first goes without. -/
structure Course.Beside (station : Pmpp.Station) (script : List Consignment)
    (plain framed : Course) : Prop where
  answers : framed.answers = plain.answers
  put : framed.put = plain.put
  framing : Framing station framed.session plain.session framed.session
  agent : framed.session.line.agent =
    Line.scripted (script.map (Consignment.reaction Parcel.framed))
  inbox : ∃ taken, framed.put.map Parcel.framed = taken ++ framed.session.line.inbox ∧
    framed.session.counters.damaged = taken.countP Delivery.isDamaged

namespace Course

theorem parcels_of_put {course : Course} {taken : List Delivery}
    (put : course.put.map Parcel.framed = taken ++ course.session.line.inbox) :
    course.taken.map Parcel.framed = taken ∧
      course.waiting.map Parcel.framed = course.session.line.inbox := by
  have many : course.put.length - course.session.line.inbox.length = taken.length := by
    have same := congrArg List.length put
    rw [List.length_map, List.length_append] at same
    omega
  rw [Course.taken, waiting, many, List.map_take, List.map_drop, put]
  exact ⟨List.take_left, List.drop_left⟩

namespace Beside

variable {station : Pmpp.Station} {script : List Consignment} {plain framed : Course}

theorem waiting (beside : Beside station script plain framed) :
    framed.waiting = plain.waiting := by
  rw [Course.waiting, Course.waiting, beside.put, beside.framing.mirrors.length_inbox]

theorem dialogue (beside : Beside station script plain framed) :
    Call.dialogue framed.session.config = Call.dialogue plain.session.config := by
  rw [beside.framing.config]
  exact funext (Call.dialogue_station _ _)

theorem proceed (beside : Beside station script plain framed)
    (answers : List (Option Call.Outcome)) {plainAfter framedAfter : Session}
    (framing : Framing station framed.session plainAfter framedAfter) :
    Beside station script (plain.proceed script answers plainAfter)
      (framed.proceed script answers framedAfter) := by
  have before := beside.framing.mirrors.sent
  have after := framing.mirrors.sent
  obtain ⟨taken, put, damaged⟩ := beside.inbox
  obtain ⟨others, goes, more⟩ := framing.goes
  have gained := goes.of_script beside.agent
  refine ⟨?_, ?_, framing.afresh, goes.agent.trans beside.agent, taken ++ others, ?_, ?_⟩
  · rw [Course.proceed, Course.proceed, beside.answers, framing.now]
  · rw [Course.proceed, Course.proceed, beside.put, before, after, List.length_map,
      List.length_map]
  · rw [Course.proceed, List.map_append, put, List.append_assoc, gained, List.append_assoc]
  · rw [List.countP_append, ← damaged]
    exact more

theorem perform (beside : Beside station script plain framed) (operation : Operation) :
    Beside station script (plain.perform Parcel.bare script operation)
      (framed.perform Parcel.framed script operation) := by
  have simulation := framing_simulation station framed.session
  have same := beside.dialogue
  cases operation with
  | alone call =>
      obtain ⟨answer, after⟩ := simulation.perform beside.framing
        (call.dialogue plain.session.config)
      unfold Course.perform
      dsimp only
      rw [same, answer]
      exact beside.proceed _ after
  | within span call whole =>
      obtain ⟨answer, after⟩ := simulation.performWithin beside.framing span
        (call.dialogue plain.session.config)
      unfold Course.perform
      dsimp only
      rw [same, answer]
      exact beside.proceed _ after
  | together rounds calls =>
      obtain ⟨answers, after⟩ := Together.perform_alike simulation beside.framing rounds
        (calls.map (Call.dialogue plain.session.config))
      unfold Course.perform
      dsimp only
      rw [same, answers]
      exact beside.proceed _ after
  | queue parcels =>
      obtain ⟨taken, put, damaged⟩ := beside.inbox
      refine ⟨beside.answers, congrArg (· ++ parcels) beside.put, beside.framing.queue parcels,
        beside.agent, taken, ?_, damaged⟩
      unfold Course.perform Line.queue
      dsimp only
      rw [List.map_append, put, List.append_assoc]
  | sleep span =>
      refine ⟨beside.answers, beside.put, ?_, beside.agent, beside.inbox⟩
      unfold Course.perform Session.leapTo
      dsimp only
      rw [beside.framing.now]
      exact beside.framing.pass _
  | reset =>
      obtain ⟨taken, put, damaged⟩ := beside.inbox
      exact ⟨beside.answers, beside.waiting, beside.framing.reset, beside.agent, [],
        (parcels_of_put put).2, rfl⟩

theorem run (beside : Beside station script plain framed) (program : Program) :
    Beside station script (program.run Parcel.bare script plain)
      (program.run Parcel.framed script framed) := by
  -- what the program does next depends on the answers, and these are the same
  induction program generalizing plain framed with
  | done => exact beside
  | first operation rest ih =>
      have after := beside.perform operation
      unfold Program.run
      dsimp only
      rw [after.answers]
      exact ih _ after

theorem start (config : Config) (station : Pmpp.Station) (script : List Consignment)
    (peer : String) (flagged : Bool) (nanoseconds : Nat) :
    Beside station script
      (.start { config with station := none } Parcel.bare script peer false nanoseconds)
      (.start { config with station := some station } Parcel.framed script peer flagged
        nanoseconds) := by
  refine ⟨rfl, rfl, ?_, rfl, [], rfl, rfl⟩
  have mirrors := Line.Mirrors.ofScript station script peer flagged
  have same : Session.start { config with station := some station }
      (.ofScript Parcel.framed script peer flagged) nanoseconds =
      (Session.start { config with station := none }
        (.ofScript Parcel.bare script peer false) nanoseconds).dressed station
        (.ofScript Parcel.framed script peer flagged) 0 := by
    cases flagged <;> rfl
  unfold Course.start
  rw [same]
  exact .intro rfl (.refl mirrors)

end Beside
end Course

/-- For every configuration, script and program, a session with a station has the answers of one
without, each at the same time; it sends its messages in frames, and counts what it counts, and the
frames with wrong checksums that it has taken. -/
theorem Program.transparent (config : Config) (station : Pmpp.Station)
    (script : List Consignment) (peer : String) (flagged : Bool) (nanoseconds : Nat)
    (program : Program) :
    let plain := program.run Parcel.bare script
      (.start { config with station := none } Parcel.bare script peer false nanoseconds)
    let framed := program.run Parcel.framed script
      (.start { config with station := some station } Parcel.framed script peer flagged
        nanoseconds)
    framed.answers = plain.answers ∧
      framed.session.now = plain.session.now ∧
      framed.session.counters =
        { plain.session.counters with damaged := framed.taken.countP Parcel.isDamaged } ∧
      framed.session.line.sent = plain.session.line.sent.map (Pmpp.frame station) := by
  intro plain framed
  have beside : Course.Beside station script plain framed :=
    (Course.Beside.start config station script peer flagged nanoseconds).run program
  obtain ⟨taken, put, damaged⟩ := beside.inbox
  have counted : framed.session.counters.damaged = framed.taken.countP Parcel.isDamaged := by
    rw [damaged, ← (Course.parcels_of_put put).1, List.countP_map]
    exact congrArg (List.countP · framed.taken) (funext Parcel.isDamaged_framed)
  refine ⟨beside.answers, beside.framing.now, ?_, beside.framing.mirrors.sent⟩
  rw [← counted]
  exact beside.framing.counters

end Session
end RoadsideSnmp
