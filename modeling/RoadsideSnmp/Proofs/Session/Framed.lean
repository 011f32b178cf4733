import RoadsideSnmp.Proofs.Session.Attempts
import RoadsideSnmp.Proofs.Session.Parcels
import RoadsideSnmp.Proofs.Session.Simulation

/-! A session with a station beside one without. All that the first one sends is in frames, and all
that it gets; apart from that, and from the damaged frames that it counts, it is the second one, and
so it remains through every step. -/
namespace RoadsideSnmp

namespace Session

/-- The session with a station, another line and another count of damaged frames. -/
def dressed (station : Pmpp.Station) (line : Line) (damaged : Nat) (session : Session) : Session :=
  { session with
    config := { session.config with station := some station }
    line
    counters := { session.counters with damaged } }

def took (session : Session) : Session := { session with line := session.line.take }

section

variable {station : Pmpp.Station} {line : Line} {damaged : Nat}

theorem dressed_wake (ticket : Ticket) (session : Session) :
    (session.dressed station line damaged).wake ticket =
      (session.wake ticket).dressed station line damaged := by
  unfold wake
  by_cases awake : ticket ∈ session.woken
  · rw [if_pos awake]
    exact if_pos awake
  · rw [if_neg awake]
    exact if_neg awake

theorem dressed_wakeAny (ticket : Option Ticket) (session : Session) :
    (session.dressed station line damaged).wakeAny ticket =
      (session.wakeAny ticket).dressed station line damaged := by
  cases ticket with
  | none => rfl
  | some ticket => exact dressed_wake ticket session

theorem dressed_unregister (requestId : Int32) (ticket : Ticket) (session : Session) :
    (session.dressed station line damaged).unregister requestId ticket =
      (session.unregister requestId ticket).dressed station line damaged := rfl

theorem dressed_deliver (message : Message) (owner : Ticket) (session : Session) :
    (session.dressed station line damaged).deliver message owner =
      (session.deliver message owner).dressed station line damaged :=
  dressed_wake owner { session with
    pending := session.pending.filter (·.1 ≠ message.requestId)
    mail := (owner, message) :: session.mail }

theorem dressed_leave (ticket : Ticket) (session : Session) :
    (session.dressed station line damaged).leave ticket =
      (session.leave ticket).dressed station line damaged := by
  unfold leave
  by_cases first : session.turns.head? = some ticket
  · rw [if_pos first]
    refine (if_pos first).trans ?_
    exact dressed_wakeAny _ { session with turns := session.turns.tail }
  · rw [if_neg first]
    exact if_neg first

theorem dressed_join (ticket : Ticket) (session : Session) :
    (session.dressed station line damaged).join ticket =
      (session.join ticket).dressed station line damaged := by
  unfold join
  by_cases listed : ticket ∈ session.turns
  · rw [if_pos listed]
    exact if_pos listed
  · rw [if_neg listed]
    exact if_neg listed

theorem dressed_ignore (ticket : Ticket) (session : Session) :
    (session.dressed station line damaged).ignore ticket =
      (session.ignore ticket).dressed station line damaged := by
  unfold ignore
  by_cases listens : session.listener = some ticket
  · rw [if_pos listens]
    exact if_pos listens
  · rw [if_neg listens]
    exact if_neg listens

theorem dressed_send (packet : Octets) (session : Session) :
    (session.dressed station line damaged).send (Pmpp.frame station packet) =
      ((line.send (Pmpp.frame station packet)).1, (session.send packet).2.dressed station
        (line.send (Pmpp.frame station packet)).2 damaged) :=
  congrArg _ (dressed_wakeAny session.listener
    { session with line := (session.line.send packet).2, listener := none })

end
end Session

namespace Exchange

def framed (station : Pmpp.Station) (exchange : Exchange) : Exchange :=
  { exchange with packet := Pmpp.frame station exchange.packet }

def dressed (station : Pmpp.Station) (line : Line) (damaged : Nat) (state : Exchange × Session) :
    Exchange × Session :=
  (state.1.framed station, state.2.dressed station line damaged)

section

variable {station : Pmpp.Station} {line : Line} {damaged : Nat}

theorem framed_quit (exchange : Exchange) (session : Session) :
    (exchange.framed station).quit (session.dressed station line damaged) =
      (exchange.quit session).dressed station line damaged := by
  unfold quit
  rw [Session.dressed_ignore, Session.dressed_leave, Session.dressed_unregister]
  rfl

theorem framed_failed (exchange : Exchange) (failure : Failure) (retries : Nat) :
    (exchange.framed station).failed failure retries =
      (exchange.failed failure retries).framed station := by
  unfold failed
  by_cases more : exchange.attempt < retries
  · rw [if_pos more]
    exact if_pos more
  · rw [if_neg more]
    exact if_neg more

theorem framed_again (exchange : Exchange) (failure : Failure) (session : Session) :
    (exchange.framed station).again failure (session.dressed station line damaged) =
      dressed station line damaged (exchange.again failure session) := by
  rw [again_eq, again_eq, framed_failed, framed_quit]
  rfl

theorem framed_expire (exchange : Exchange) (session : Session) :
    (exchange.framed station).expire (session.dressed station line damaged) =
      dressed station line damaged (exchange.expire session) :=
  framed_again exchange (exchange.timeout session.now) (session.count fun counters =>
    { counters with timeouts := counters.timeouts + 1 })

theorem framed_conclude (exchange : Exchange) (reply : Message) (session : Session) :
    (exchange.framed station).conclude reply (session.dressed station line damaged) =
      dressed station line damaged (exchange.conclude reply session) :=
  congrArg _ (framed_quit exchange (session.count fun counters =>
    { counters with responses := counters.responses + 1 }))

theorem framed_look (exchange : Exchange) (session : Session) :
    (exchange.framed station).look (session.dressed station line damaged) =
      dressed station line damaged (exchange.look session) := by
  have mail : (session.dressed station line damaged).mail = session.mail := rfl
  have pending : (session.dressed station line damaged).pending = session.pending := rfl
  have ticket : (exchange.framed station).ticket = exchange.ticket := rfl
  have requestId : (exchange.framed station).requestId = exchange.requestId := rfl
  unfold look
  rw [mail, pending, ticket, requestId]
  split
  · exact framed_conclude exchange _ session
  · split
    · rfl
    · exact framed_expire exchange session

theorem framed_ask (exchange : Exchange) (session : Session) :
    (exchange.framed station).ask (session.dressed station line damaged) =
      dressed station line damaged (exchange.ask session) := by
  unfold ask
  rw [Session.dressed_join]
  rfl

theorem framed_sort (exchange : Exchange) (message : Message) (session : Session) :
    (exchange.framed station).sort message (session.dressed station line damaged) =
      dressed station line damaged (exchange.sort message session) := by
  have pending : (session.dressed station line damaged).pending = session.pending := rfl
  have ticket : (exchange.framed station).ticket = exchange.ticket := rfl
  have requestId : (exchange.framed station).requestId = exchange.requestId := rfl
  unfold sort
  rw [requestId, pending, ticket]
  by_cases own : message.kind = .response ∧ message.requestId = exchange.requestId
  · rw [if_pos own, if_pos own]
    exact framed_conclude exchange message session
  · rw [if_neg own, if_neg own]
    dsimp only
    split
    · rw [Session.dressed_deliver, Session.dressed_leave]
      rfl
    · have counted : (session.dressed station line damaged).count (fun counters =>
          { counters with stale := counters.stale + 1 }) =
          (session.count fun counters =>
            { counters with stale := counters.stale + 1 }).dressed station line damaged := rfl
      rw [counted, Session.dressed_leave]
      rfl

def ready (exchange : Exchange) (session : Session) : Session :=
  (session.countIf (0 < exchange.attempt) fun counters =>
    { counters with retries := counters.retries + 1 }).register exchange.requestId exchange.ticket

theorem framed_ready (exchange : Exchange) (session : Session) :
    (exchange.framed station).ready (session.dressed station line damaged) =
      (exchange.ready session).dressed station line damaged := by
  have again (more : Bool) : (session.dressed station line damaged).countIf more (fun counters =>
      { counters with retries := counters.retries + 1 }) =
      (session.countIf more fun counters =>
        { counters with retries := counters.retries + 1 }).dressed station line damaged := by
    cases more <;> rfl
  exact congrArg (Session.register exchange.requestId exchange.ticket) (again _)

theorem transmit_eq (exchange : Exchange) (session : Session) : exchange.transmit session =
    if (session.line.send exchange.packet).1 then
      (exchange.finish (.error (.link (some session.line.peer) .sendFailed)),
        exchange.quit ((exchange.ready session).send exchange.packet).2)
    else
      ({ exchange with
          deadline := Timer.rings (session.now + session.config.timeout)
          place := (session.line.send exchange.packet).2.sent.length
          stage := .checking }, ((exchange.ready session).send exchange.packet).2) := by
  have line : (exchange.ready session).line = session.line := Session.line_countIf _ _ session
  have config : (exchange.ready session).config = session.config :=
    Session.config_countIf _ _ session
  have now : (exchange.ready session).now = session.now := by
    rw [ready, Session.countIf_retries_eq]
    rfl
  obtain ⟨woken, sent⟩ := (exchange.ready session).send_eq exchange.packet
  rw [line] at sent
  have whole : exchange.transmit session =
      (fun ready : Bool × Session => if ready.1 then
        (exchange.finish (.error (.link (some ready.2.line.peer) .sendFailed)),
          exchange.quit ready.2)
      else ({ exchange with
          deadline := Timer.rings (ready.2.now + ready.2.config.timeout)
          place := ready.2.line.sent.length
          stage := .checking }, ready.2)) ((exchange.ready session).send exchange.packet) := rfl
  rw [whole, sent]
  dsimp only
  rw [now, config]
  rfl

theorem framed_transmit {exchange : Exchange} {session : Session}
    (mirrors : line.Mirrors station session.line) :
    (exchange.framed station).transmit (session.dressed station line damaged) =
      dressed station (line.send (Pmpp.frame station exchange.packet)).2 damaged
        (exchange.transmit session) := by
  obtain ⟨refused, after⟩ := mirrors.send exchange.packet
  have places : (line.send (Pmpp.frame station exchange.packet)).2.sent.length =
      (session.line.send exchange.packet).2.sent.length := by
    rw [after.sent, List.length_map]
  have sent : (((exchange.ready session).dressed station line damaged).send
      (Pmpp.frame station exchange.packet)).2 =
      ((exchange.ready session).send exchange.packet).2.dressed station
        (line.send (Pmpp.frame station exchange.packet)).2 damaged := by
    rw [Session.dressed_send]
  rw [transmit_eq, transmit_eq, framed_ready]
  change (if (line.send (Pmpp.frame station exchange.packet)).1 then
    ((exchange.framed station).finish (.error (.link (some line.peer) .sendFailed)),
      (exchange.framed station).quit (((exchange.ready session).dressed station line damaged).send
        (Pmpp.frame station exchange.packet)).2)
    else (Exchange.mk _ _ _ _ _ _ (line.send (Pmpp.frame station exchange.packet)).2.sent.length _,
      (((exchange.ready session).dressed station line damaged).send
        (Pmpp.frame station exchange.packet)).2)) = _
  rw [refused, sent, places, mirrors.peer, framed_quit]
  split <;> rfl

theorem framed_receive (exchange : Exchange) {session : Session}
    (bare : session.config.station = none) (wrapping : Pmpp.Wrapping) (payload : Octets) :
    (exchange.framed station).receive (wrapping.wrap payload)
        (session.dressed station line damaged) =
      dressed station line (damaged + (wrapping.isDamaged payload).toNat)
        (exchange.receive payload session) := by
  have framed : (session.dressed station line damaged).config.station = some station := rfl
  unfold receive
  rw [Session.unpack_bare bare, Session.unpack_wrap framed]
  have counted (broken : Bool) : (session.dressed station line damaged).countIf broken
      (fun counters => { counters with damaged := counters.damaged + 1 }) =
      session.dressed station line (damaged + broken.toNat) := by
    cases broken <;> rfl
  dsimp only
  rw [counted]
  split
  · exact framed_sort exchange _ session
  · exact framed_again exchange _ (session.count fun counters =>
      { counters with undecodable := counters.undecodable + 1 })

theorem line_quit (exchange : Exchange) (session : Session) :
    (exchange.quit session).line = session.line := by
  simp [quit]

theorem line_again (exchange : Exchange) (failure : Failure) (session : Session) :
    (exchange.again failure session).2.line = session.line := by
  rw [again_eq, line_quit]

theorem line_sort (exchange : Exchange) (message : Message) (session : Session) :
    (exchange.sort message session).2.line = session.line := by
  unfold sort
  split
  · exact line_quit exchange _
  · dsimp only
    split <;> simp

theorem line_receive (exchange : Exchange) (octets : Octets) (session : Session) :
    (exchange.receive octets session).2.line = session.line := by
  unfold receive
  dsimp only
  split
  · rw [line_sort, Session.line_countIf]
  · rw [line_again, Session.line_count, Session.line_countIf]

theorem read_empty {exchange : Exchange} {session : Session} (inbox : session.line.inbox = []) :
    exchange.read session = ({ exchange with stage := .listening },
      { session with listener := some exchange.ticket }) := by
  unfold read
  rw [inbox]

theorem read_silence {exchange : Exchange} {session : Session} {rest : List Delivery}
    (inbox : session.line.inbox = .silence :: rest) :
    exchange.read session = ({ exchange with stage := .muted }, session.took) := by
  unfold read
  rw [inbox]
  rfl

theorem read_fault {exchange : Exchange} {session : Session} {rest : List Delivery}
    (inbox : session.line.inbox = .fault :: rest) : exchange.read session =
      (exchange.finish (.error (.link none .receiveFailed)), exchange.quit session.took) := by
  unfold read
  rw [inbox]
  rfl

theorem read_message {exchange : Exchange} {session : Session} {octets : Octets}
    {rest : List Delivery} (inbox : session.line.inbox = .message octets :: rest) :
    exchange.read session = exchange.receive octets session.took := by
  unfold read
  rw [inbox]
  rfl

theorem framed_read {exchange : Exchange} {session : Session}
    (bare : session.config.station = none) (mirrors : line.Mirrors station session.line) :
    ∃ after count taken,
      (exchange.framed station).read (session.dressed station line damaged) =
        dressed station after count (exchange.read session) ∧
      Line.Keeps station line damaged (exchange.read session).2.line taken after count := by
  obtain ⟨parcels, inbox, framedInbox⟩ := mirrors.inbox
  have there : (session.dressed station line damaged).line.inbox =
    parcels.map Parcel.framed := framedInbox
  cases parcels with
  | nil =>
      rw [read_empty inbox, read_empty there]
      exact ⟨line, damaged, [], rfl, .refl mirrors⟩
  | cons parcel parcels =>
      cases parcel with
      | silence =>
          rw [read_silence inbox, read_silence there]
          exact ⟨line.take, damaged, _, rfl, .take mirrors framedInbox⟩
      | fault =>
          rw [read_fault inbox, read_fault there]
          refine ⟨line.take, damaged, [.fault], ?_, ?_⟩
          · exact congrArg _ (framed_quit exchange session.took)
          · rw [line_quit]
            exact .take mirrors framedInbox
      | message payload wrapping =>
          rw [read_message inbox, read_message there]
          refine ⟨line.take, damaged + (wrapping.isDamaged payload).toNat,
            [.message (wrapping.wrap payload)], ?_, ?_⟩
          · have bare : session.took.config.station = none := bare
            exact framed_receive exchange bare wrapping payload
          · have counted : (Delivery.message (wrapping.wrap payload)).isDamaged =
                wrapping.isDamaged payload := Parcel.isDamaged_framed (.message payload wrapping)
            rw [line_receive, ← counted]
            exact .take mirrors framedInbox

theorem line_expire (exchange : Exchange) (session : Session) :
    (exchange.expire session).2.line = session.line :=
  line_again exchange _ _

theorem line_look (exchange : Exchange) (session : Session) :
    (exchange.look session).2.line = session.line := by
  unfold look
  split
  · exact line_quit exchange _
  · split
    · rfl
    · exact line_expire exchange session

theorem line_ask (exchange : Exchange) (session : Session) :
    (exchange.ask session).2.line = session.line :=
  Session.line_join _ session

theorem line_transmit (exchange : Exchange) (session : Session) :
    (exchange.transmit session).2.line = (session.line.send exchange.packet).2 := by
  have line : (exchange.ready session).line = session.line := Session.line_countIf _ _ session
  have sent : ((exchange.ready session).send exchange.packet).2.line =
      (session.line.send exchange.packet).2 := by
    rw [← line]
    exact Session.line_wakeAny _ _
  rw [transmit_eq]
  split
  · rw [line_quit, sent]
  · exact sent

theorem framed_idle {exchange : Exchange} {session : Session}
    (idle : exchange.step? session = none) :
    (exchange.framed station).step? (session.dressed station line damaged) = none := by
  have stage : (exchange.framed station).stage = exchange.stage := rfl
  unfold step? at idle ⊢
  rw [stage]
  split at idle
  iterate 4
    · nomatch idle
  iterate 3
    · have early : ¬ exchange.deadline ≤ session.now := fun late => by simp [late] at idle
      exact if_neg early
  · rfl

variable (damaged) in
theorem framed_step {exchange : Exchange} {session : Session} {state : Exchange × Session}
    (bare : session.config.station = none) (mirrors : line.Mirrors station session.line)
    (step : exchange.step? session = some state) : ∃ after count taken,
      (exchange.framed station).step? (session.dressed station line damaged) =
        some (dressed station after count state) ∧
      Line.Keeps station line damaged state.2.line taken after count := by
  have stage : (exchange.framed station).stage = exchange.stage := rfl
  unfold step? at step ⊢
  rw [stage]
  split at step
  · obtain rfl := Option.some.inj step
    refine ⟨_, damaged, [], congrArg some (framed_transmit mirrors), ?_⟩
    rw [line_transmit]
    exact .send mirrors exchange.packet
  · obtain rfl := Option.some.inj step
    refine ⟨line, damaged, [], congrArg some (framed_look exchange session), ?_⟩
    rw [line_look]
    exact .refl mirrors
  · obtain rfl := Option.some.inj step
    refine ⟨line, damaged, [], congrArg some (framed_ask exchange session), ?_⟩
    rw [line_ask]
    exact .refl mirrors
  · obtain rfl := Option.some.inj step
    obtain ⟨after, count, taken, read, keeps⟩ := framed_read bare mirrors
    exact ⟨after, count, taken, congrArg some read, keeps⟩
  iterate 3
    · obtain ⟨late, same⟩ := Option.ite_none_right_eq_some.mp step
      obtain rfl := Option.some.inj same
      refine ⟨line, damaged, [], ?_, ?_⟩
      · exact (if_pos late).trans (congrArg some (framed_expire exchange session))
      · rw [line_expire]
        exact .refl mirrors
  · simp at step

theorem framed_advance {exchange : Exchange} {session : Session}
    (bare : session.config.station = none) (mirrors : line.Mirrors station session.line) :
    ∃ after count taken,
      (exchange.framed station).advance (session.dressed station line damaged) =
        dressed station after count (exchange.advance session) ∧
      Line.Keeps station line damaged (exchange.advance session).2.line taken after count := by
  -- on the steps of the poll without frames, each of which is also one with frames
  induction exchange, session using advance.induct generalizing line damaged with
  | case1 exchange session idle =>
      rw [advance_of_idle idle, advance_of_idle (framed_idle idle)]
      exact ⟨line, damaged, [], rfl, .refl mirrors⟩
  | case2 exchange session next after step ih =>
      obtain ⟨middle, count, taken, stepped, keeps⟩ := framed_step damaged bare mirrors step
      have bare : after.config.station = none := (step?_move step).config ▸ bare
      obtain ⟨last, total, others, advanced, more⟩ := ih bare keeps.mirrors
      refine ⟨last, total, taken ++ others, ?_, ?_⟩
      · rw [advance_of_step step, advance_of_step stepped]
        exact advanced
      · rw [advance_of_step step]
        exact keeps.trans more

theorem framed_resume (exchange : Exchange) (session : Session) :
    (exchange.framed station).resume (session.dressed station line damaged) =
      dressed station line damaged (exchange.resume session) := by
  have stage : (exchange.framed station).stage = exchange.stage := rfl
  unfold resume
  rw [stage]
  split
  · rfl
  · exact congrArg _ (Session.dressed_ignore exchange.ticket session)
  · rfl

theorem framed_poll {exchange : Exchange} {session : Session}
    (bare : session.config.station = none) (mirrors : line.Mirrors station session.line) :
    ∃ after count taken,
      (exchange.framed station).poll (session.dressed station line damaged) =
        dressed station after count (exchange.poll session) ∧
      Line.Keeps station line damaged (exchange.poll session).2.line taken after count := by
  obtain ⟨stage, listener, resumed, -⟩ := exchange.resume_eq session
  unfold poll
  rw [framed_resume, resumed]
  exact framed_advance bare mirrors

end
end Exchange

namespace Session

/-- The second session is the first one, but on the line with frames; beside each other they have
come from where the line with frames was as it was before. -/
inductive Framing (station : Pmpp.Station) (before : Session) : Session → Session → Prop
  | intro {plain : Session} {line : Line} {damaged : Nat} {taken : List Delivery}
    (bare : plain.config.station = none)
    (keeps : Line.Keeps station before.line before.counters.damaged plain.line taken line damaged) :
    Framing station before plain (plain.dressed station line damaged)

theorem Framing.of_eq {station : Pmpp.Station} {before plain after : Session} {line : Line}
    {damaged : Nat} {taken : List Delivery} (bare : plain.config.station = none)
    (keeps : Line.Keeps station before.line before.counters.damaged plain.line taken line damaged)
    (config : after.config = plain.config) (same : after.line = plain.line) :
    Framing station before after (after.dressed station line damaged) :=
  ⟨config ▸ bare, same ▸ keeps⟩

theorem begin_framed {message : Message} {session after : Session} {exchange : Exchange}
    {station : Pmpp.Station} {line : Line} {damaged : Nat} (bare : session.config.station = none)
    (begun : session.begin message = .ok (exchange, after)) :
    (session.dressed station line damaged).begin message =
      .ok (Exchange.dressed station line damaged (exchange, after)) := by
  unfold begin at begun ⊢
  split at begun
  · nomatch begun
  · obtain ⟨rfl, rfl⟩ := Prod.mk.inj (Except.ok.inj begun)
    simp only [bare]
    rfl

theorem framing_simulation (station : Pmpp.Station) (before : Session) :
    Simulation (Exchange.framed station) (Framing station before) where
  ticket _ := rfl
  deadline _ := rfl
  place _ := rfl
  result _ := rfl
  timeout _ _ := rfl
  retries := by
    rintro _ _ ⟨⟩
    rfl
  now := by
    rintro _ _ ⟨⟩
    rfl
  woken := by
    rintro _ _ ⟨⟩
    rfl
  refused := by
    rintro _ _ message failure ⟨⟩ refused
    unfold begin at refused ⊢
    split at refused
    · exact refused
    · nomatch refused
  begun := by
    rintro first _ message exchange after ⟨bare, keeps⟩ begun
    have begins := (begins begun).after
    have config : after.config = first.config := by rw [begins]
    have line : after.line = first.line := by rw [begins]
    exact ⟨_, begin_framed bare begun, .of_eq bare keeps config line⟩
  poll := by
    rintro first _ exchange ⟨bare, keeps⟩
    obtain ⟨after, count, taken, polled, more⟩ := Exchange.framed_poll bare keeps.mirrors
    rw [polled]
    refine ⟨rfl, ⟨?_, keeps.trans more⟩⟩
    rw [Exchange.config_poll]
    exact bare
  cancel := by
    rintro first _ exchange ⟨bare, keeps⟩
    unfold Exchange.cancel
    rw [Exchange.framed_quit]
    exact .of_eq bare keeps (Exchange.config_quit _ _) (Exchange.line_quit _ _)
  pass := by
    rintro first _ time ⟨bare, keeps⟩
    exact .intro bare keeps
  rouse := by
    rintro first _ woken ⟨bare, keeps⟩
    exact .intro bare keeps

namespace Framing

variable {station : Pmpp.Station} {before plain framed : Session}

theorem config (framing : Framing station before plain framed) :
    framed.config = { plain.config with station := some station } := by
  cases framing
  rfl

theorem now (framing : Framing station before plain framed) : framed.now = plain.now := by
  cases framing
  rfl

theorem counters (framing : Framing station before plain framed) :
    framed.counters = { plain.counters with damaged := framed.counters.damaged } := by
  cases framing
  rfl

theorem mirrors (framing : Framing station before plain framed) :
    framed.line.Mirrors station plain.line := by
  obtain ⟨-, keeps⟩ := framing
  exact keeps.mirrors

theorem goes (framing : Framing station before plain framed) : ∃ taken,
    before.line.Goes taken framed.line ∧
      framed.counters.damaged = before.counters.damaged + taken.countP Delivery.isDamaged := by
  obtain ⟨-, keeps⟩ := framing
  exact ⟨_, keeps.goes, keeps.damaged⟩

theorem afresh (framing : Framing station before plain framed) :
    Framing station framed plain framed := by
  obtain ⟨bare, keeps⟩ := framing
  exact .intro bare (.refl keeps.mirrors)

theorem pass (framing : Framing station before plain framed) (time : Nat) :
    Framing station (framed.advanceTo time) (plain.advanceTo time) (framed.advanceTo time) := by
  obtain ⟨bare, keeps⟩ := framing
  exact .intro bare (.refl keeps.mirrors)

theorem queue (framing : Framing station before plain framed) (parcels : List Parcel) :
    Framing station { framed with line := framed.line.queue (parcels.map Parcel.framed) }
      { plain with line := plain.line.queue (parcels.map Parcel.bare) }
      { framed with line := framed.line.queue (parcels.map Parcel.framed) } := by
  obtain ⟨bare, keeps⟩ := framing
  exact .intro bare (.refl (keeps.mirrors.queue parcels))

theorem reset (framing : Framing station before plain framed) :
    Framing station (framed.count fun _ => .zero) (plain.count fun _ => .zero)
      (framed.count fun _ => .zero) := by
  obtain ⟨bare, keeps⟩ := framing
  exact .intro bare (.refl keeps.mirrors)

end Framing
end Session
end RoadsideSnmp
