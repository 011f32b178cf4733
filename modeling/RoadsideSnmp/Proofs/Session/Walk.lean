import RoadsideSnmp.Proofs.Message.Normal
import RoadsideSnmp.Proofs.Oid.Order
import RoadsideSnmp.Proofs.Session.Replies
import RoadsideSnmp.Session.Walk

/-! Walks end. What a walk has given lies in its subtree and in order, and every name came in a
message, so it has few enough arcs for a bound on their number. Nothing is asked of the agent. -/
namespace RoadsideSnmp.Walk

def IsLast (result : Except Failure (Option Binding)) : Prop :=
  ∀ binding, result ≠ .ok (some binding)

/-- One call after another. Each finds the session as whatever happened in the meantime has left
it, and leaves a session with its result. -/
def calls (walk : Walk) : List Session → List (Except Failure (Option Binding) × Session)
  | [] => []
  | session :: sessions =>
      let called := (walk.next session.config).perform session
      (called.1.1, called.2) :: called.1.2.calls sessions

theorem calls_of_ended {walk : Walk} (ended : walk.ended) (sessions : List Session) :
    walk.calls sessions = sessions.map fun session => (.ok none, session) := by
  induction sessions with
  | nil => rfl
  | cons session sessions ih =>
      have still : walk.next session.config = .answer (.ok none, walk) := if_pos ended
      rw [calls, still, List.map_cons]
      exact congrArg _ ih

def question (config : Config) (walk : Walk) : Message :=
  .ofNames config.version config.community .getNextRequest [walk.current]

def heed (walk : Walk) (reply : Except Failure Message) : Step :=
  walk.answer (Query.single walk.current (reply.map Message.bindings))

theorem perform_next {walk : Walk} (running : walk.ended = false) (session : Session) :
    (walk.next session.config).perform session =
      (walk.heed (session.request (walk.question session.config)).1,
        (session.request (walk.question session.config)).2) := by
  rw [next, if_neg (by simp [running]), Dialogue.perform_map, Query.getNext, Dialogue.perform_map]
  rfl

/-- A walk under way, and the bindings that it has given, the newest first. -/
structure Trail (base : Oid) (walk : Walk) (found : List Binding) : Prop where
  rooted : walk.base = base
  running : walk.ended = false
  last : walk.last = found.head?.map Binding.name
  inside : ∀ binding ∈ found, binding.name.within base
  real : ∀ binding ∈ found, binding.type ≠ .endOfMibView
  short : ∀ binding ∈ found, binding.name.size ≤ Oid.maxArcs
  ascending : found.Pairwise fun later earlier => earlier.name.before later.name

theorem trail_start (base : Oid) : Trail base (start base) [] :=
  ⟨rfl, rfl, rfl, by simp, by simp, by simp, .nil⟩

inductive Trail.Steps (base : Oid) (found : List Binding) : Step → Prop
  | further {binding : Binding} {walk : Walk} (trail : Trail base walk (binding :: found)) :
      Steps base found (.ok (some binding), walk)
  | stops {result : Except Failure (Option Binding)} {walk : Walk} (last : IsLast result)
      (ended : walk.ended) : Steps base found (result, walk)

namespace Trail

variable {base : Oid} {walk : Walk} {found : List Binding}

theorem length_le (trail : Trail base walk found) : found.length ≤ base.subtreeBound := by
  have ascending : (found.reverse.map Binding.name).Pairwise fun a b => a.before b := by
    rw [List.pairwise_map, List.pairwise_reverse]
    exact trail.ascending
  have few : _ ≤ base.subtreeBound := Oid.length_le_subtreeBound (by simpa using trail.inside)
    (by simpa using trail.short) ascending
  simpa using few

theorem accept (trail : Trail base walk found) {binding : Binding}
    (short : binding.name.size ≤ Oid.maxArcs) : Steps base found (walk.accept binding) := by
  unfold Walk.accept
  split
  · exact .stops (by simp [IsLast]) rfl
  next inside =>
  obtain ⟨real, inside⟩ : binding.type ≠ .endOfMibView ∧ binding.name.within base := by
    simpa [trail.rooted] using inside
  split
  · exact .stops (by simp [IsLast]) rfl
  next increasing =>
  refine .further ⟨trail.rooted, trail.running, rfl, ?_, ?_, ?_, ?_⟩
  · exact List.forall_mem_cons.mpr ⟨inside, trail.inside⟩
  · exact List.forall_mem_cons.mpr ⟨real, trail.real⟩
  · exact List.forall_mem_cons.mpr ⟨short, trail.short⟩
  · refine List.pairwise_cons.mpr ⟨fun earlier given => ?_, trail.ascending⟩
    cases found with
    | nil => simp at given
    | cons newest older =>
        have next : newest.name.before binding.name := by
          simpa [trail.last] using increasing
        obtain rfl | old := List.mem_cons.mp given
        · exact next
        · exact Oid.before_trans ((List.pairwise_cons.mp trail.ascending).1 earlier old) next

theorem Steps.failed (failure : Failure) : Steps base found (walk.answer (.error failure)) := by
  unfold Walk.answer
  dsimp only
  split
  · exact .stops (by simp [IsLast]) rfl
  · exact .stops (by simp [IsLast]) rfl

theorem heed (trail : Trail base walk found) {reply : Except Failure Message}
    (read : Message.IsReply reply) : Steps base found (walk.heed reply) := by
  cases reply with
  | error failure => exact .failed failure
  | ok message =>
      obtain ⟨octets, decoded⟩ := read message rfl
      have faithful := (Message.isNormal_of_decode decoded).bindings
      rw [Walk.heed, Except.map]
      cases bindings : message.bindings with
      | nil => exact .failed _
      | cons binding others =>
          rw [bindings] at faithful
          exact trail.accept (Oid.size_le_of_isFaithful (faithful binding List.mem_cons_self).name)

end Trail

theorem Trail.calls {base : Oid} {walk : Walk} {found : List Binding}
    (trail : Trail base walk found) (sessions : List Session) :
    ∃ (more : List Binding) (after : Walk), Trail base after (more.reverse ++ found) ∧
      ((walk.calls sessions).take more.length).map Prod.fst = more.map (fun b => .ok (some b)) ∧
      (∀ called ∈ (walk.calls sessions)[more.length]?, IsLast called.1) ∧
      (walk.calls sessions).drop (more.length + 1) =
        (sessions.drop (more.length + 1)).map fun session => (.ok none, session) := by
  induction sessions generalizing walk found with
  | nil => exact ⟨[], walk, trail, rfl, by simp [Walk.calls], by simp [Walk.calls]⟩
  | cons session sessions ih =>
      rw [Walk.calls, perform_next trail.running]
      have stepped := trail.heed (session.isReply_request (walk.question session.config))
      generalize walk.heed (session.request (walk.question session.config)).1 = step at stepped
      cases stepped with
      | @further binding _ trail =>
          obtain ⟨more, after, onward, given, last, rest⟩ := ih trail
          refine ⟨binding :: more, after, ?_, ?_, ?_, ?_⟩
          · simpa using onward
          · simpa using given
          · simpa using last
          · simpa using rest
      | stops last ended =>
          refine ⟨[], walk, trail, rfl, ?_, ?_⟩
          · simpa using last
          · simpa using calls_of_ended ended sessions

/-- Whatever the agent does, and whatever happens to the session between two calls: bindings of the
subtree in strictly increasing order, then one result that is none, then nothing any more, and
nothing is sent for it. How many bindings there can be depends on the base alone. -/
theorem ascends (base : Oid) (sessions : List Session) : ∃ found : List Binding,
    (((start base).calls sessions).take found.length).map Prod.fst =
        found.map (fun binding => .ok (some binding)) ∧
      (∀ called ∈ ((start base).calls sessions)[found.length]?, IsLast called.1) ∧
      ((start base).calls sessions).drop (found.length + 1) =
        (sessions.drop (found.length + 1)).map (fun session => (.ok none, session)) ∧
      (∀ binding ∈ found, binding.name.within base ∧ binding.type ≠ .endOfMibView) ∧
      found.Pairwise (fun earlier later => earlier.name.before later.name) ∧
      found.length ≤ base.subtreeBound := by
  obtain ⟨found, after, trail, given, last, rest⟩ := (trail_start base).calls sessions
  rw [List.append_nil] at trail
  refine ⟨found, given, last, rest, fun binding inside => ?_, ?_, ?_⟩
  · have listed := List.mem_reverse.mpr inside
    exact ⟨trail.inside binding listed, trail.real binding listed⟩
  · exact List.pairwise_reverse.mp trail.ascending
  · simpa using trail.length_le

theorem subtreeBound_lt_room (base : Oid) : base.subtreeBound < room := by
  have most : base.subtreeBound ≤ Oid.radix ^ Oid.maxArcs :=
    Nat.pow_le_pow_right (by decide) (Nat.sub_le _ _)
  have fits : Oid.radix ^ Oid.maxArcs < room := by decide +kernel
  exact Nat.lt_of_le_of_lt most fits

theorem perform_collect_succ (config : Config) (room : Nat) (walk : Walk) (found : List Binding)
    (session : Session) : (collect config (room + 1) walk found).perform session =
      match walk.heed (session.request (walk.question config)).1 with
      | (.ok (some binding), next) => (collect config room next (binding :: found)).perform
          (session.request (walk.question config)).2
      | (.ok none, _) => (.ok found.reverse, (session.request (walk.question config)).2)
      | (.error failure, _) => (.error failure, (session.request (walk.question config)).2) := by
  rw [collect, Dialogue.perform]
  dsimp only [heed, question]
  generalize walk.answer (Query.single walk.current _) = step
  match step with
  | (.ok (some binding), next) => rfl
  | (.ok none, next) => rfl
  | (.error failure, next) => rfl

theorem Trail.perform_collect {base : Oid} {walk : Walk} {found : List Binding}
    (trail : Trail base walk found) {room other : Nat}
    (enough : base.subtreeBound < found.length + room)
    (ample : base.subtreeBound < found.length + other) (config : Config) (session : Session) :
    (collect config room walk found).perform session =
      (collect config other walk found).perform session := by
  induction room generalizing other walk found session with
  | zero => exact absurd enough (Nat.not_lt.mpr trail.length_le)
  | succ room ih =>
      obtain ⟨other, rfl⟩ : ∃ fewer, other = fewer + 1 :=
        ⟨other - 1, by have := trail.length_le; omega⟩
      have stepped := trail.heed (session.isReply_request (walk.question config))
      rw [perform_collect_succ, perform_collect_succ]
      generalize walk.heed (session.request (walk.question config)).1 = step at stepped
      cases stepped with
      | further trail =>
          exact ih trail (by rw [List.length_cons]; omega) (by rw [List.length_cons]; omega) _
      | @stops result _ last =>
          match result with
          | .ok (some binding) => exact absurd rfl (last binding)
          | .ok none => rfl
          | .error failure => rfl

/-- A walk to the end never runs out of room: any room above the bound of its base will do. -/
theorem perform_all {base : Oid} {room : Nat} (enough : base.subtreeBound < room) (config : Config)
    (session : Session) : (all config base).perform session =
      (collect config room (start base) []).perform session :=
  (trail_start base).perform_collect (by simpa using subtreeBound_lt_room base)
    (by simpa using enough) config session

end RoadsideSnmp.Walk
