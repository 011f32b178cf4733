import RoadsideSnmp.Proofs.Pmpp.Wrapping
import RoadsideSnmp.Proofs.Session.Numbering
import RoadsideSnmp.Proofs.Session.Prompt
import RoadsideSnmp.Proofs.Session.Walk

/-! Walking a table. The agent answers every request at once, with the entry that comes next or by
saying that there is none. The names below a base are one stretch of the order, so the walk passes
all of them and stops at the first that is not, with one request for each entry and one for the
end. -/
namespace RoadsideSnmp

def Config.Carries (config : Config) (payload octets : Octets) : Prop :=
  match config.station with
  | none => octets = payload
  | some _ => ∃ wrapping : Pmpp.Wrapping, octets = wrapping.wrap payload

theorem Session.unpack_of_carries {session : Session} {payload octets : Octets}
    (carries : session.config.Carries payload octets) :
    ∃ damaged, session.unpack octets = (Message.decode payload, damaged) := by
  unfold Config.Carries at carries
  split at carries
  · next bare =>
      obtain rfl := carries
      exact ⟨_, unpack_bare bare octets⟩
  · next framed =>
      obtain ⟨wrapping, rfl⟩ := carries
      exact ⟨_, unpack_wrap framed wrapping payload⟩

namespace Walk

structure Follows (table : List Binding) (asked : Oid) (entry : Binding) : Prop where
  listed : entry ∈ table
  behind : asked.before entry.name
  least : ∀ other ∈ table, asked.before other.name → other = entry ∨ entry.name.before other.name

/-- What an agent with this table says when asked for what follows a name: a status and bindings.
When nothing follows it may refuse or say that its view ends. -/
inductive Answer (table : List Binding) (asked : Oid) : ErrorStatus → List Binding → Prop
  | entry {entry : Binding} (follows : Follows table asked entry) :
      Answer table asked .noError [entry]
  | refusal {bindings : List Binding} (last : ∀ other ∈ table, ¬ asked.before other.name)
      (faithful : ∀ binding ∈ bindings, binding.IsFaithful) :
      Answer table asked .noSuchName bindings
  | viewEnd {name : Oid} {value : Octets} (last : ∀ other ∈ table, ¬ asked.before other.name)
      (faithful : name.IsFaithful) : Answer table asked .noError [⟨name, .endOfMibView, value⟩]

/-- The agent reacts to every request for what follows a name with one message, which answers it
and is short enough to be read. -/
def Serves (agent : List Octets → Reaction) (config : Config) (table : List Binding) : Prop :=
  ∀ (requestId : Int32) (asked : Oid) (earlier : List Octets), 0 < requestId →
    asked.validate = .ok () → ∃ (reply : Message) (octets : Octets),
      agent (((Message.ofNames config.version config.community .getNextRequest
          [asked]).withRequestId requestId).packet config.station :: earlier) =
        ⟨[.message octets], false⟩ ∧
      config.Carries reply.encode octets ∧ reply.content.length ≤ Ber.Length.maxLength ∧
      reply.kind = .response ∧ reply.requestId = requestId ∧
      Answer table asked reply.status reply.bindings

structure IsTable (table : List Binding) : Prop where
  distinct : (table.map Binding.name).Nodup
  valid : ∀ entry ∈ table, entry.name.validate = .ok ()
  normal : ∀ entry ∈ table, entry.type.IsNormal
  real : ∀ entry ∈ table, entry.type ≠ .endOfMibView

variable {table : List Binding} {asked : Oid}

theorem Answer.isNormal {reply : Message} (answer : Answer table asked reply.status reply.bindings)
    (fit : IsTable table) (kind : reply.kind = .response) : reply.IsNormal := by
  refine ⟨by simp [kind], ?_, ?_⟩
  · generalize reply.status = status at answer
    generalize reply.bindings = bindings at answer
    cases answer <;> simp [ErrorStatus.IsNormal]
  · generalize reply.status = status at answer
    generalize reply.bindings = bindings at answer
    cases answer with
    | entry follows =>
        exact List.forall_mem_singleton.mpr
          ⟨.inr (fit.valid _ follows.listed), fit.normal _ follows.listed⟩
    | refusal last faithful => exact faithful
    | viewEnd last faithful =>
        exact List.forall_mem_singleton.mpr ⟨faithful, by simp [ValueType.IsNormal]⟩

/-- What an agent with a sorted table replies: the first entry that follows, or what its version
has for the end. -/
def tableReply (table : List Binding) (asked : Oid) (request : Message) : Message :=
  match table.find? fun entry => asked.before entry.name with
  | some entry => { request with kind := .response, bindings := [entry] }
  | none =>
      match request.version with
      | .v1 => { request with kind := .response, status := .noSuchName, index := 1 }
      | .v2c | .v3 =>
          { request with kind := .response, bindings := [⟨asked, .endOfMibView, []⟩] }

def tableAgent (table : List Binding) : List Octets → Reaction
  | [] => Line.quiet
  | packet :: _ =>
      match Message.decode packet with
      | .ok request =>
          let asked := (request.bindings.head?.map Binding.name).getD .root
          ⟨[.message (tableReply table asked request).encode], false⟩
      | .error _ => Line.quiet

theorem answer_tableReply {request : Message} (valid : asked.validate = .ok ())
    (sorted : table.Pairwise fun earlier later => earlier.name.before later.name)
    (status : request.status = .noError) (single : request.bindings = [.null asked]) :
    Answer table asked (tableReply table asked request).status
      (tableReply table asked request).bindings := by
  unfold tableReply
  split
  · next entry found =>
      rw [status]
      obtain ⟨behind, front, back, split, skipped⟩ := List.find?_eq_some_iff_append.mp found
      refine .entry ⟨List.mem_of_find?_eq_some found, behind, fun other among after => ?_⟩
      rw [split, List.pairwise_append] at sorted
      rw [split, List.mem_append, List.mem_cons] at among
      obtain early | same | late := among
      · simpa [after] using skipped other early
      · exact .inl same
      · exact .inr ((List.pairwise_cons.mp sorted.2.1).1 other late)
  · next absent =>
      have last : ∀ other ∈ table, ¬ asked.before other.name := List.find?_eq_none.mp absent
      split
      · rw [single]
        exact .refusal last (List.forall_mem_singleton.mpr (Binding.isFaithful_null (.inr valid)))
      · rw [status]
        exact .viewEnd last (.inr valid)
      · rw [status]
        exact .viewEnd last (.inr valid)

theorem bounded_tableReply {request : Message} (single : request.bindings = [.null asked])
    (named : asked.validate = .ok ()) (valid : ∀ entry ∈ table, entry.name.validate = .ok ())
    (community : (Utf8.encodeText request.community).length ≤ 1000)
    (short : ∀ entry ∈ table, entry.content.length + 2000 ≤ Ber.Length.maxLength) :
    (tableReply table asked request).content.length ≤ Ber.Length.maxLength := by
  have few {name : Oid} (valid : name.validate = .ok ()) : name.size ≤ 128 :=
    Oid.size_le_of_isFaithful (.inr valid)
  have nothing : 2000 ≤ Ber.Length.maxLength := by decide
  unfold tableReply
  split
  · next entry found =>
      have listed := List.mem_of_find?_eq_some found
      refine Nat.le_trans (Message.length_content_le rfl) ?_
      have size := few (valid entry listed)
      have value := short entry listed
      dsimp only
      omega
  · have size := few named
    split
    · refine Nat.le_trans (Message.length_content_le single) ?_
      have none : (Binding.null asked).content.length = 0 := rfl
      have name : (Binding.null asked).name = asked := rfl
      rw [name]
      dsimp only
      omega
    · refine Nat.le_trans (Message.length_content_le rfl) ?_
      dsimp only [List.length_nil]
      omega
    · refine Nat.le_trans (Message.length_content_le rfl) ?_
      dsimp only [List.length_nil]
      omega

theorem serves_tableAgent {config : Config}
    (sorted : table.Pairwise fun earlier later => earlier.name.before later.name)
    (valid : ∀ entry ∈ table, entry.name.validate = .ok ()) (bare : config.station = none)
    (community : (Utf8.encodeText config.community).length ≤ 1000)
    (short : ∀ entry ∈ table, entry.content.length + 2000 ≤ Ber.Length.maxLength) :
    Serves (tableAgent table) config table := by
  intro requestId asked earlier positive named
  generalize same : (Message.ofNames config.version config.community .getNextRequest
    [asked]).withRequestId requestId = request
  have single : request.bindings = [.null asked] := by
    rw [← same]
    rfl
  have number : request.requestId = requestId := by
    rw [← same]
    exact if_neg (Int32.not_le.mpr positive)
  have normal : request.IsNormal := by
    rw [← same]
    refine ⟨by simp [Message.withRequestId, Message.ofNames, Message.ofBindings], ?_, ?_⟩
    · simp [ErrorStatus.IsNormal, Message.withRequestId, Message.ofNames, Message.ofBindings]
    · exact List.forall_mem_singleton.mpr (Binding.isFaithful_null (.inr named))
  have text : (Utf8.encodeText request.community).length ≤ 1000 := by
    rw [← same]
    exact community
  have status : request.status = .noError := by
    rw [← same]
    rfl
  have bounded : request.content.length ≤ Ber.Length.maxLength := by
    have size : asked.size ≤ 128 := Oid.size_le_of_isFaithful (.inr named)
    have most : 2000 ≤ Ber.Length.maxLength := by decide
    refine Nat.le_trans (Message.length_content_le single) ?_
    change _ + (5 * asked.size + 0) + 76 ≤ _
    omega
  have decoded := Message.decode_encode_of_isNormal normal bounded
  have kept : (tableReply table asked request).kind = .response ∧
      (tableReply table asked request).requestId = requestId := by
    unfold tableReply
    split
    · exact ⟨rfl, number⟩
    · split <;> exact ⟨rfl, number⟩
  refine ⟨tableReply table asked request, (tableReply table asked request).encode, ?_, ?_,
    bounded_tableReply single named valid text short, kept.1, kept.2,
    answer_tableReply named sorted status single⟩
  · rw [bare, Message.packet]
    simp only [tableAgent, decoded, single]
    rfl
  · rw [Config.Carries, bare]

def ahead (table : List Binding) (base current : Oid) : List Binding :=
  table.filter fun entry => current.before entry.name && entry.name.within base

theorem mem_ahead {base current : Oid} {entry : Binding} : entry ∈ ahead table base current ↔
    entry ∈ table ∧ current.before entry.name ∧ entry.name.within base := by
  simp [ahead]

theorem nodup_ahead (fit : IsTable table) (base current : Oid) :
    (ahead table base current).Nodup :=
  (List.Nodup.of_map _ fit.distinct).filter _

theorem ahead_eq_nil {base current : Oid} (last : ∀ other ∈ table, ¬ current.before other.name) :
    ahead table base current = [] :=
  List.eq_nil_iff_forall_not_mem.mpr fun entry inside =>
    last entry (mem_ahead.mp inside).1 (mem_ahead.mp inside).2.1

theorem ahead_perm {base current : Oid} {entry : Binding} (fit : IsTable table)
    (follows : Follows table current entry) (inside : entry.name.within base) :
    (ahead table base current).Perm (entry :: ahead table base entry.name) := by
  have fresh : entry ∉ ahead table base entry.name := fun later =>
    Oid.not_before_self _ (mem_ahead.mp later).2.1
  refine (List.perm_ext_iff_of_nodup (nodup_ahead fit _ _)
    (List.nodup_cons.mpr ⟨fresh, nodup_ahead fit _ _⟩)).mpr fun other => ?_
  rw [List.mem_cons, mem_ahead, mem_ahead]
  constructor
  · rintro ⟨among, after, within⟩
    obtain same | later := follows.least other among after
    · exact .inl same
    · exact .inr ⟨among, later, within⟩
  · rintro (rfl | ⟨among, later, within⟩)
    · exact ⟨follows.listed, follows.behind, inside⟩
    · exact ⟨among, Oid.before_trans follows.behind later, within⟩

theorem ahead_eq_nil_of_outside {base current : Oid} {entry : Binding}
    (started : current.within base) (follows : Follows table current entry)
    (outside : ¬ entry.name.within base) : ahead table base current = [] := by
  refine List.eq_nil_iff_forall_not_mem.mpr fun other inside => ?_
  obtain ⟨among, after, within⟩ := mem_ahead.mp inside
  have beyond : base.before entry.name := by
    by_cases same : current = base
    · exact same ▸ follows.behind
    · exact Oid.before_trans (Oid.before_of_within started same) follows.behind
  obtain rfl | later := follows.least other among after
  · exact outside within
  · exact Oid.not_before_self _ (Oid.before_trans later (Oid.before_of_outside within beyond outside))

/-- Where a walk stands: at its base or at the name that it gave last. -/
structure Stands (base : Oid) (walk : Walk) : Prop where
  inside : walk.current.within base
  valid : walk.current.validate = .ok ()
  last : ∀ last ∈ walk.last, last = walk.current

theorem outcome_of_noError {reply : Message} (status : reply.status = .noError) :
    reply.outcome = .ok reply := by
  simp [Message.outcome, Message.checkError, Message.isError, status, Except.map, Except.mapError]

theorem outcome_of_noSuchName {reply : Message} (kind : reply.kind = .response)
    (status : reply.status = .noSuchName) : ∃ index name,
      reply.outcome = .error (.agent ⟨.noSuchName, index, name⟩) := by
  simp [Message.outcome, Message.checkError, Message.isError, kind, status, Except.map,
    Except.mapError]

/-- One step of a walk over a table: the next entry of those ahead, or the end when there are
none. -/
inductive Passes (base : Oid) (table found : List Binding) (current : Oid) : Step → Prop
  | further {entry : Binding} {next : Walk} (trail : Trail base next (entry :: found))
      (stands : Stands base next) (onward : next.current = entry.name)
      (passed : (ahead table base current).Perm (entry :: ahead table base entry.name)) :
      Passes base table found current (.ok (some entry), next)
  | stops {next : Walk} (clear : ahead table base current = []) :
      Passes base table found current (.ok none, next)

variable {base : Oid} {walk : Walk} {found : List Binding}

theorem accept_of_within (trail : Trail base walk found) (stands : Stands base walk)
    {entry : Binding} (real : entry.type ≠ .endOfMibView) (inside : entry.name.within base)
    (behind : walk.current.before entry.name) : walk.accept entry =
      (.ok (some entry), { walk with current := entry.name, last := some entry.name }) := by
  have increasing : (walk.last.filter fun last => !last.before entry.name) = none := by
    rw [Option.filter_eq_none_iff]
    intro last given
    simp [stands.last last given, behind]
  rw [accept, if_neg (by simp [real, trail.rooted, inside]), increasing]

theorem passes (trail : Trail base walk found) (stands : Stands base walk)
    (fit : IsTable table) {reply : Message} (kind : reply.kind = .response)
    (answer : Answer table walk.current reply.status reply.bindings) :
    Passes base table found walk.current (walk.heed reply.outcome) := by
  generalize status : reply.status = status at answer
  generalize bindings : reply.bindings = bindings at answer
  cases answer with
  | @entry entry follows =>
      have heeded : walk.heed reply.outcome = walk.accept entry := by
        rw [outcome_of_noError status, heed, Except.map, bindings]
        rfl
      rw [heeded]
      by_cases inside : entry.name.within base
      · have valid := fit.valid entry follows.listed
        have stepped := trail.accept (Oid.size_le_of_isFaithful (.inr valid))
        rw [accept_of_within trail stands (fit.real entry follows.listed) inside
          follows.behind] at stepped ⊢
        refine .further ?_ ⟨inside, valid, by simp⟩ rfl (ahead_perm fit follows inside)
        cases stepped with
        | further trail => exact trail
        | stops last => exact absurd rfl (last entry)
      · rw [accept, if_pos (by simp [trail.rooted, inside])]
        exact .stops (ahead_eq_nil_of_outside stands.inside follows inside)
  | refusal last =>
      obtain ⟨index, name, refused⟩ := outcome_of_noSuchName kind status
      rw [refused]
      exact .stops (ahead_eq_nil last)
  | @viewEnd name value last =>
      have heeded : walk.heed reply.outcome = walk.accept ⟨name, .endOfMibView, value⟩ := by
        rw [outcome_of_noError status, heed, Except.map, bindings]
        rfl
      rw [heeded, accept, if_pos (by simp)]
      exact .stops (ahead_eq_nil last)

theorem request_question {session : Session} (fit : IsTable table)
    (serves : Serves session.line.agent session.config table) (quiet : session.Quiet)
    (valid : walk.current.validate = .ok ()) : ∃ (reply : Message) (packet : Octets),
      (session.request (walk.question session.config)).1 = reply.outcome ∧
        session.Answered packet (session.request (walk.question session.config)).2 ∧
        reply.kind = .response ∧ Answer table walk.current reply.status reply.bindings := by
  obtain ⟨reply, octets, reacts, carries, bounded, kind, own, answer⟩ :=
    serves (Session.requestId session.nextId) walk.current session.line.sent
      (Session.requestId_pos _) valid
  have sound : (walk.question session.config).validate = .ok () := by
    change [Binding.null walk.current].forM Binding.validate = .ok ()
    have name : (Binding.null walk.current).validate = .ok () := valid
    simp only [List.forM, name]
    rfl
  obtain ⟨damaged, unpacked⟩ := Session.unpack_of_carries carries
  rw [Message.decode_encode_of_isNormal (answer.isNormal fit kind) bounded] at unpacked
  obtain ⟨outcome, answered⟩ := Session.request_of_prompt sound quiet reacts unpacked kind own
  exact ⟨reply, _, outcome, answered, kind, answer⟩

/-- From anywhere in a subtree: the entries ahead, in order, and one request more than they are. -/
theorem collect_of_table {session : Session} {room : Nat} (trail : Trail base walk found)
    (stands : Stands base walk) (enough : base.subtreeBound < found.length + room)
    (fit : IsTable table) (serves : Serves session.line.agent session.config table)
    (quiet : session.Quiet) : ∃ (more : List Binding) (after : Session),
      (collect session.config room walk found).perform session =
        (.ok (found.reverse ++ more), after) ∧
      more.Perm (ahead table base walk.current) ∧
      (found.reverse ++ more).Pairwise (fun earlier later => earlier.name.before later.name) ∧
      after.line.sent.length = session.line.sent.length + (more.length + 1) ∧
      after.counters.requests = session.counters.requests + (more.length + 1) := by
  -- on the room, which the bound on what is `found` keeps above zero
  induction room generalizing walk found session with
  | zero => exact absurd enough (Nat.not_lt.mpr trail.length_le)
  | succ room ih =>
      obtain ⟨reply, packet, outcome, answered, kind, answer⟩ :=
        request_question fit serves quiet stands.valid
      have passed := passes trail stands fit kind answer
      rw [perform_collect_succ, outcome]
      generalize walk.heed reply.outcome = step at passed
      generalize (session.request (walk.question session.config)).2 = middle at answered
      have sent : middle.line.sent.length = session.line.sent.length + 1 := by
        rw [answered.sent, List.length_cons]
      have requests := answered.requests
      cases passed with
      | @further entry next trail stands onward passed =>
          -- one request for the entry, and those of the rest
          obtain ⟨more, after, performed, ahead, ascending, sentAfter, requestsAfter⟩ :=
            ih trail stands (by rw [List.length_cons]; omega)
              (by rw [answered.agent, answered.config]; exact serves) answered.quiet
          rw [answered.config] at performed
          rw [onward] at ahead
          rw [List.reverse_cons, List.append_assoc, List.singleton_append] at performed ascending
          refine ⟨entry :: more, after, performed, ?_, ascending, ?_, ?_⟩
          · exact (ahead.cons entry).trans passed.symm
          · rw [sentAfter, sent, List.length_cons]
            omega
          · rw [requestsAfter, requests, List.length_cons]
            omega
      | stops clear =>
          refine ⟨[], middle, by rw [List.append_nil], ?_, ?_, sent, requests⟩
          · rw [clear]
          · rw [List.append_nil]
            exact List.pairwise_reverse.mpr trail.ascending

/-- A walk over a table gives the entries below the base, each once and in order, whatever the
table's own order is, and takes one request more than it gives entries. -/
theorem all_of_table {session : Session} (fit : IsTable table) (valid : base.validate = .ok ())
    (serves : Serves session.line.agent session.config table) (quiet : session.Quiet) :
    ∃ (found : List Binding) (after : Session),
      (all session.config base).perform session = (.ok found, after) ∧
      found.Perm (table.filter fun entry => entry.name.within base && entry.name ≠ base) ∧
      found.Pairwise (fun earlier later => earlier.name.before later.name) ∧
      after.line.sent.length = session.line.sent.length + (found.length + 1) ∧
      after.counters.requests = session.counters.requests + (found.length + 1) := by
  have stands : Stands base (start base) :=
    ⟨Oid.within_iff.mpr (List.prefix_refl _), valid, by simp [start]⟩
  obtain ⟨found, after, performed, ahead, ascending, sent, requests⟩ :=
    collect_of_table (trail_start base) stands
      (by simpa using subtreeBound_lt_room base) fit serves quiet
  refine ⟨found, after, performed, ?_, ascending, sent, requests⟩
  have proper : Walk.ahead table base base =
      table.filter fun entry => entry.name.within base && entry.name ≠ base := by
    refine List.filter_congr fun entry _ => ?_
    cases inside : entry.name.within base with
    | false => simp
    | true =>
        by_cases same : entry.name = base
        · simp [same, Oid.not_before_self]
        · simp [same, Oid.before_of_within inside same]
  rw [← proper]
  exact ahead

def signTable : List Binding :=
  [.integer (.ofNats [1, 3, 6, 1, 4]) 5, .integer (.ofNats [1, 3, 6, 1, 4, 1]) 6,
    .integer (.ofNats [1, 3, 6, 1, 4, 1, 0]) 7,
    ⟨.ofNats [1, 3, 6, 1, 4, 1, 9, 4294967295], .octetString, [0x7E]⟩,
    .integer (.ofNats [1, 3, 6, 1, 4, 2]) 8]

def signStart : Session := .start .standard ⟨"sign", false, tableAgent signTable, [], []⟩ 0

theorem all_of_table_signTable : ∃ (found : List Binding) (after : Session),
    (all signStart.config (.ofNats [1, 3, 6, 1, 4, 1])).perform signStart = (.ok found, after) ∧
      found.Perm [.integer (.ofNats [1, 3, 6, 1, 4, 1, 0]) 7,
        ⟨.ofNats [1, 3, 6, 1, 4, 1, 9, 4294967295], .octetString, [0x7E]⟩] ∧
      after.line.sent.length = 3 := by
  have valid : ∀ entry ∈ signTable, entry.name.validate = .ok () := by decide
  have types : ∀ entry ∈ signTable, .ofTag entry.type.tag = entry.type := by decide
  have fit : IsTable signTable :=
    ⟨by decide, valid, fun entry listed => types entry listed ▸ ValueType.isNormal_ofTag _,
      by decide⟩
  have serves : Serves signStart.line.agent signStart.config signTable :=
    serves_tableAgent (by decide) valid rfl (by decide) (by decide)
  obtain ⟨found, after, performed, listed, -, sent, -⟩ :=
    all_of_table fit (by decide : (Oid.ofNats [1, 3, 6, 1, 4, 1]).validate = .ok ()) serves
      ⟨rfl, rfl⟩
  have entries : signTable.filter (fun entry =>
      entry.name.within (.ofNats [1, 3, 6, 1, 4, 1]) &&
        entry.name ≠ .ofNats [1, 3, 6, 1, 4, 1]) =
      [.integer (.ofNats [1, 3, 6, 1, 4, 1, 0]) 7,
        ⟨.ofNats [1, 3, 6, 1, 4, 1, 9, 4294967295], .octetString, [0x7E]⟩] := by
    decide
  rw [entries] at listed
  refine ⟨found, after, performed, listed, ?_⟩
  rw [sent, listed.length_eq]
  rfl

end Walk
end RoadsideSnmp
