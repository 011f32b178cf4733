import RoadsideSnmp.Proofs.Session.Order

/-! Who is listed. While the numbers of the requests under way are distinct, every request in the
midst of an attempt is listed under its number until a reply lies in its mailbox; so the list says
of every reply whose it is. -/
namespace RoadsideSnmp

def Registered (exchanges : List Exchange) (session : Session) : Prop :=
  ∀ exchange ∈ exchanges, exchange.stage.isInside → session.NoMail exchange.ticket →
    (exchange.requestId, exchange.ticket) ∈ session.pending

def Alone (exchange : Exchange) (others : List Exchange) : Prop :=
  exchange.result? = none → ∀ other ∈ others, other.stage.isInside →
    other.requestId ≠ exchange.requestId

theorem Alone.move {exchange next : Exchange} {others : List Exchange} {session after : Session}
    (alone : Alone exchange others) (move : exchange.Move session next after) :
    Alone next others := by
  intro _ other inside open_
  rw [move.same.2]
  exact alone move.unfinished other inside open_

namespace Registered

variable {exchanges others : List Exchange} {exchange next other : Exchange}
  {session after : Session}

theorem perm {listed : List Exchange} (registered : Registered exchanges session)
    (perm : exchanges.Perm listed) : Registered listed session := fun exchange inside =>
  registered exchange (perm.mem_iff.mpr inside)

theorem congr (registered : Registered exchanges session) (same : session.SameBooks after) :
    Registered exchanges after := by
  intro exchange inside open_ empty
  rw [same.pending]
  refine registered exchange inside open_ ?_
  rwa [Session.NoMail, ← same.mail]

theorem vacated (registered : Registered (exchange :: others) session)
    (orderly : Orderly (exchange :: others) session)
    (apart : ∀ other ∈ others, other.stage.isInside → other.requestId ≠ exchange.requestId)
    (listener : Option Ticket) (woken : List Ticket) :
    Registered others (exchange.vacated session listener woken) := by
  intro other inside open_ empty
  have before : session.NoMail other.ticket := by
    intro letter sent same
    refine empty letter (List.mem_filter.mpr ⟨sent, ?_⟩) same
    simpa [same] using orderly.ticket_ne inside
  have listed := registered other (List.mem_cons_of_mem _ inside) open_ before
  exact List.mem_filter.mpr ⟨listed, by simpa using apart other inside open_⟩

theorem leave {before : Session} {listener : Option Ticket} {woken : List Ticket}
    (registered : Registered (exchange :: others) session)
    (underway : Underway others exchange session)
    (apart : ∀ other ∈ others, other.stage.isInside → other.requestId ≠ exchange.requestId)
    (ends : exchange.Ends next) (same : session.SameBooks before) :
    Registered (next :: others) (exchange.vacated before listener woken) := by
  refine List.forall_mem_cons.mpr ⟨fun open_ => ?_, ?_⟩
  · simp [ends.outside] at open_
  · exact (registered.congr same).vacated (underway.orderly.congr same) apart listener woken

theorem restage (registered : Registered (exchange :: others) session)
    (inside : exchange.stage.isInside) (stage : Stage) :
    Registered ({ exchange with stage } :: others) session :=
  List.forall_mem_cons.mpr
    ⟨fun _ => registered exchange List.mem_cons_self inside,
      fun other among => registered other (List.mem_cons_of_mem _ among)⟩

theorem deliver (registered : Registered exchanges session)
    (numbers : (session.pending.map Prod.fst).Nodup) {owner : Ticket} {reply : Message}
    (listed : (reply.requestId, owner) ∈ session.pending) :
    Registered exchanges { session with
      pending := session.pending.filter (·.1 ≠ reply.requestId)
      mail := (owner, reply) :: session.mail } := by
  intro exchange inside open_ empty
  obtain ⟨foreign, empty⟩ := List.forall_mem_cons.mp empty
  have own := registered exchange inside open_ empty
  refine List.mem_filter.mpr ⟨own, ?_⟩
  simp only [ne_eq, decide_eq_true_eq]
  intro same
  have equal := List.inj_on_of_nodup_map numbers own listed same
  exact foreign (Prod.mk.inj equal).2.symm

theorem move (registered : Registered (exchange :: others) session)
    (underway : Underway others exchange session) (alone : Alone exchange others)
    (move : exchange.Move session next after) : Registered (next :: others) after := by
  have apart := alone move.unfinished
  cases move with
  | @sent woken stage =>
      have others_listed := registered.vacated underway.orderly apart none woken
      refine List.forall_mem_cons.mpr ⟨fun _ _ => List.mem_cons_self, ?_⟩
      intro other inside open_ empty
      exact List.mem_cons_of_mem _ (others_listed other inside open_ empty)
  | refused | collected | broken | answered =>
      exact registered.leave underway apart (exchange.ends_finish _) ⟨Nat.le_refl _, rfl, rfl, rfl⟩
  | garbled | expired =>
      exact registered.leave underway apart (exchange.ends_failed _ _)
        ⟨Nat.le_refl _, rfl, rfl, rfl⟩
  | cleared stage | asked stage | listened stage | silenced stage | dropped stage =>
      exact registered.restage (by rw [stage]; rfl) _
  | routed stage inbox unpacked kind foreign listed =>
      have going := registered.restage (by rw [stage]; rfl) .checking
      exact going.deliver underway.orderly.numbers (mem_of_lookup listed)

end Registered
end RoadsideSnmp
