import Mathlib.Algebra.Group.Nat.Defs
import RoadsideSnmp.Proofs.Session.Order

/-! The numbers of requests. They depend only on how many requests began before. They are positive,
and requests that begin not too far apart get different ones, except in one place: where the count
is a multiple of 2³¹ the number would be 0, and 1 is given instead, which the next request gets as
well. -/
namespace RoadsideSnmp

namespace Session

theorem toNat_and {mask : Int32} {bits : Nat} (ones : mask.toBitVec.toNat = 2 ^ bits - 1)
    (count : Int32) : (count &&& mask).toBitVec.toNat = count.toBitVec.toNat % 2 ^ bits := by
  rw [Int32.toBitVec_and, BitVec.toNat_and, ones, Nat.and_two_pow_sub_one_eq_mod]

theorem toInt_max_and {mask : Int32} {bits : Nat} (ones : mask.toBitVec.toNat = 2 ^ bits - 1)
    (few : bits ≤ 31) (count : Int32) :
    (max (count &&& mask) 1).toInt = (max (count.toBitVec.toNat % 2 ^ bits) 1 : Nat) := by
  have one : (1 : Int32).toInt = 1 := rfl
  have less := Nat.mod_lt count.toBitVec.toNat (Nat.two_pow_pos bits)
  have bound : 2 ^ bits ≤ 2 ^ 31 := Nat.pow_le_pow_right Nat.zero_lt_two few
  have masked : (count &&& mask).toInt = (count.toBitVec.toNat % 2 ^ bits : Nat) := by
    rw [← Int32.toInt_toBitVec, BitVec.toInt_eq_toNat_of_lt, toNat_and ones]
    rw [toNat_and ones]
    omega
  show (if count &&& mask ≤ 1 then (1 : Int32) else count &&& mask).toInt = _
  split
  · next low =>
      rw [Int32.le_iff_toInt_le, masked, one] at low
      rw [one]
      omega
  · next high =>
      rw [Int32.le_iff_toInt_le, masked, one] at high
      rw [masked]
      omega

theorem toInt_requestId (count : Int32) :
    (requestId count).toInt = (max (count.toBitVec.toNat % 2 ^ 31) 1 : Nat) :=
  toInt_max_and rfl (Nat.le_refl 31) count

theorem toInt_firstId (nanoseconds : Nat) :
    (firstId nanoseconds).toInt = (max (nanoseconds % 2 ^ 30) 1 : Nat) := by
  have number : (Int32.ofNat nanoseconds).toBitVec.toNat = nanoseconds % 2 ^ 32 := rfl
  rw [firstId, toInt_max_and rfl (Nat.le_succ 30), number, Nat.mod_mod_of_dvd]
  decide

theorem requestId_pos (count : Int32) : 0 < requestId count := by
  have zero : (0 : Int32).toInt = 0 := rfl
  rw [Int32.lt_iff_toInt_lt, toInt_requestId, zero]
  omega

theorem toNat_add_ofNat (count : Int32) (calls : Nat) :
    (count + .ofNat calls).toBitVec.toNat % 2 ^ 31 =
      (count.toBitVec.toNat % 2 ^ 31 + calls) % 2 ^ 31 := by
  have number : (Int32.ofNat calls).toBitVec.toNat = calls % 2 ^ 32 := rfl
  rw [Int32.toBitVec_add, BitVec.toNat_add, number]
  omega

theorem low_bits_eq_zero_iff (count : Int32) :
    count.toBitVec.toNat % 2 ^ 31 = 0 ↔ count = 0 ∨ count = .minValue := by
  have zero : (0 : Int32).toBitVec.toNat = 0 := rfl
  have least : Int32.minValue.toBitVec.toNat = 2 ^ 31 := rfl
  have bound := count.toBitVec.isLt
  rw [← Int32.toBitVec_inj, ← Int32.toBitVec_inj, ← BitVec.toNat_inj, ← BitVec.toNat_inj, zero,
    least]
  omega

theorem requestId_add_eq_iff (count : Int32) {calls : Nat} (later : 0 < calls)
    (near : calls < 2 ^ 31 - 1) : requestId count = requestId (count + .ofNat calls) ↔
      calls = 1 ∧ (count = 0 ∨ count = .minValue) := by
  have bound := Nat.mod_lt count.toBitVec.toNat (Nat.two_pow_pos 31)
  rw [← Int32.toInt_inj, toInt_requestId, toInt_requestId, toNat_add_ofNat,
    ← low_bits_eq_zero_iff]
  generalize count.toBitVec.toNat % 2 ^ 31 = low at bound
  -- without a wrap only 0 and 1 meet, and after one the second is at least two below the first
  by_cases small : low + calls < 2 ^ 31
  · rw [Nat.mod_eq_of_lt small]
    omega
  · have wrapped : (low + calls) % 2 ^ 31 = low + calls - 2 ^ 31 := by omega
    rw [wrapped]
    omega

def countAt (start : Session) (ticket : Ticket) : Int32 :=
  start.nextId + .ofNat (ticket - start.nextTicket)

variable {start : Session} {ticket : Nat}

theorem countAt_start : start.countAt start.nextTicket = start.nextId := by
  rw [countAt, Nat.sub_self]
  exact Int32.add_zero _

theorem countAt_succ (begun : start.nextTicket ≤ ticket) :
    start.countAt (ticket + 1) = start.countAt ticket + 1 := by
  rw [countAt, Nat.sub_add_comm begun, Int32.ofNat_add, ← Int32.add_assoc]
  rfl

theorem countAt_of_lt {later : Nat} (begun : start.nextTicket ≤ ticket)
    (less : ticket < later) :
    start.countAt later = start.countAt ticket + .ofNat (later - ticket) := by
  have calls := Nat.sub_add_sub_cancel (Nat.le_of_lt less) begun
  rw [countAt, ← calls, Nat.add_comm, Int32.ofNat_add, ← Int32.add_assoc]
  rfl

theorem toInt_requestId_countAt_start {config : Config} {line : Line} {nanoseconds : Nat}
    (few : ticket < 2 ^ 30) :
    (requestId ((Session.start config line nanoseconds).countAt ticket)).toInt =
      (firstId nanoseconds).toInt + ticket := by
  have first := toInt_firstId nanoseconds
  have less := Nat.mod_lt nanoseconds (Nat.two_pow_pos 30)
  have low : (firstId nanoseconds).toBitVec.toNat % 2 ^ 31 = max (nanoseconds % 2 ^ 30) 1 := by
    have bound := (firstId nanoseconds).toBitVec.isLt
    rw [← Int32.toInt_toBitVec, BitVec.toInt_eq_toNat_cond] at first
    split at first <;> omega
  rw [toInt_requestId, first]
  show ((max (((firstId nanoseconds) + .ofNat (ticket - 0)).toBitVec.toNat % 2 ^ 31) 1 : Nat) : Int)
    = _
  rw [toNat_add_ofNat, low]
  omega

end Session

structure Numbered (start : Session) (exchanges : List Exchange) (session : Session) : Prop where
  begun : start.nextTicket ≤ session.nextTicket
  count : session.nextId = start.countAt session.nextTicket
  listed : ∀ exchange ∈ exchanges, start.nextTicket ≤ exchange.ticket ∧
    exchange.requestId = Session.requestId (start.countAt exchange.ticket)

namespace Numbered

variable {start session after : Session} {exchanges before later : List Exchange}
  {exchange : Exchange}

theorem congr (numbered : Numbered start exchanges session)
    (ticket : after.nextTicket = session.nextTicket) (id : after.nextId = session.nextId) :
    Numbered start exchanges after where
  begun := ticket ▸ numbered.begun
  count := by
    rw [ticket, id]
    exact numbered.count
  listed := numbered.listed

theorem begin (numbered : Numbered start exchanges session)
    (begins : session.Begins exchange after) : Numbered start (exchange :: exchanges) after where
  begun := by
    rw [begins.after]
    exact Nat.le_succ_of_le numbered.begun
  count := by
    rw [begins.after]
    dsimp only
    rw [Session.countAt_succ numbered.begun, numbered.count]
  listed := by
    refine List.forall_mem_cons.mpr ⟨⟨?_, ?_⟩, numbered.listed⟩
    · rw [begins.ticket]
      exact numbered.begun
    · rw [begins.requestId, begins.ticket, numbered.count]

theorem poll (numbered : Numbered start (before ++ exchange :: later) session) :
    Numbered start (before ++ (exchange.poll session).1 :: later) (exchange.poll session).2 := by
  obtain ⟨ticket, requestId, nextTicket, nextId⟩ := exchange.poll_same session
  have same := numbered.congr nextTicket nextId
  have listed := same.listed
  rw [List.forall_mem_append, List.forall_mem_cons] at listed
  refine ⟨same.begun, same.count, ?_⟩
  rw [List.forall_mem_append, List.forall_mem_cons, ticket, requestId]
  exact listed

theorem drop (numbered : Numbered start (before ++ exchange :: later) session) :
    Numbered start (before ++ later) (exchange.cancel session) := by
  obtain ⟨listener, woken, left⟩ := exchange.quit_eq session
  have listed := numbered.listed
  rw [List.forall_mem_append, List.forall_mem_cons] at listed
  rw [Exchange.cancel, left]
  refine ⟨numbered.begun, numbered.count, ?_⟩
  rw [List.forall_mem_append]
  exact ⟨listed.1, listed.2.2⟩

end Numbered

namespace Traffic

variable {start : Session} {traffic after : Traffic}

theorem Step.numbered (step : traffic.Step after)
    (numbered : Numbered start traffic.exchanges traffic.session) :
    Numbered start after.exchanges after.session := by
  cases step with
  | begin begun => exact numbered.begin (Session.begins begun)
  | poll listed =>
      rw [listed] at numbered
      exact numbered.poll
  | drop listed =>
      rw [listed] at numbered
      exact numbered.drop
  | arrive => exact numbered.congr rfl rfl
  | pass => exact numbered.congr rfl rfl
  | rouse => exact numbered.congr rfl rfl

theorem Reached.numbered (reached : Reached start traffic) :
    Numbered start traffic.exchanges traffic.session := by
  induction reached with
  | refl => exact ⟨Nat.le_refl _, Session.countAt_start.symm, by simp [opening]⟩
  | tail _ step ih => exact step.numbered ih

/-- Two requests that began not too far apart, the second perhaps when the first was over or given
up, have the same number just when they began one after the other and the first found the count
at a multiple of 2³¹. -/
theorem requestId_eq_iff (reached : Reached start traffic)
    (onward : Relation.ReflTransGen Step traffic after) {first second : Exchange}
    (listed : first ∈ traffic.exchanges) (present : second ∈ after.exchanges)
    (later : first.ticket < second.ticket) (near : second.ticket - first.ticket < 2 ^ 31 - 1) :
    0 < first.requestId ∧ 0 < second.requestId ∧ (first.requestId = second.requestId ↔
      second.ticket = first.ticket + 1 ∧
        (start.countAt first.ticket = 0 ∨ start.countAt first.ticket = .minValue)) := by
  obtain ⟨begun, one⟩ := reached.numbered.listed first listed
  have reached_after : Reached start after := reached.trans onward
  obtain ⟨-, two⟩ := reached_after.numbered.listed second present
  have calls : 0 < second.ticket - first.ticket := Nat.sub_pos_of_lt later
  have next : second.ticket - first.ticket = 1 ↔ second.ticket = first.ticket + 1 :=
    Nat.sub_eq_iff_eq_add' (Nat.le_of_lt later)
  rw [one, two, Session.countAt_of_lt begun later]
  refine ⟨Session.requestId_pos _, Session.requestId_pos _, ?_⟩
  rw [Session.requestId_add_eq_iff _ calls near, next]

theorem Step.nextTicket_le (step : traffic.Step after) :
    traffic.session.nextTicket ≤ after.session.nextTicket := by
  cases step with
  | begin begun =>
      rw [(Session.begins begun).after]
      exact Nat.le_succ _
  | @poll _ _ exchange => exact Nat.le_of_eq (exchange.poll_same traffic.session).2.2.1.symm
  | @drop _ _ exchange =>
      obtain ⟨listener, woken, left⟩ := exchange.quit_eq traffic.session
      rw [Exchange.cancel, left]
      exact Nat.le_refl _
  | arrive => exact Nat.le_refl _
  | pass => exact Nat.le_refl _
  | rouse => exact Nat.le_refl _

section

variable {config : Config} {line : Line} {nanoseconds : Nat}

/-- The clock leaves room for 2³⁰ requests before the numbers wrap. -/
theorem Reached.apart (reached : Reached (.start config line nanoseconds) traffic)
    (few : traffic.session.nextTicket ≤ 2 ^ 30) : traffic.Apart := by
  have settled := reached.settled ⟨rfl, rfl⟩
  refine apart_of_nodup ?_
  rw [List.nodup_map_iff_inj_on settled.orderly.tickets.of_map]
  intro first one second two same
  apply settled.orderly.eq_of_ticket one two
  rw [(reached.numbered.listed first one).2, (reached.numbered.listed second two).2,
    ← Int32.toInt_inj,
    Session.toInt_requestId_countAt_start (Nat.lt_of_lt_of_le (settled.orderly.issued first one) few),
    Session.toInt_requestId_countAt_start
      (Nat.lt_of_lt_of_le (settled.orderly.issued second two) few)] at same
  exact Int.ofNat_inj.mp (Int.add_left_cancel same)

/-- So requests do not disturb one another however they run. -/
theorem Reached.reachedApart (reached : Reached (.start config line nanoseconds) traffic)
    (few : traffic.session.nextTicket ≤ 2 ^ 30) :
    ReachedApart (.start config line nanoseconds) traffic := by
  induction reached with
  | refl => exact .refl
  | tail earlier step ih =>
      have before := ih (Nat.le_trans step.nextTicket_le few)
      exact .tail before ⟨step, Reached.apart (.tail earlier step) few⟩

end

def countedStart (count : Int32) : Session :=
  { Session.start .standard ⟨"agent", false, fun _ => Line.quiet, [], []⟩ 0 with nextId := count }

def countedTraffic (count : Int32) : Traffic :=
  ((opening (countedStart count)).beginOne (.ofNames .v1 "public" .getRequest [])).beginOne
    (.ofNames .v1 "public" .getRequest [])

theorem reached_countedTraffic (count : Int32) :
    Reached (countedStart count) (countedTraffic count) :=
  .tail (.tail .refl (step_beginOne rfl)) (step_beginOne rfl)

theorem requestId_eq_iff_maxValue : ∃ first ∈ (countedTraffic .maxValue).exchanges,
    ∃ second ∈ (countedTraffic .maxValue).exchanges,
      first.requestId = .maxValue ∧ second.requestId = 1 ∧ first.requestId ≠ second.requestId := by
  obtain ⟨first, second, listed, counted⟩ : ∃ first second,
      (countedTraffic .maxValue).exchanges = [second, first] ∧
        first.ticket = 0 ∧ second.ticket = 1 ∧ first.requestId = .maxValue ∧
          second.requestId = 1 := ⟨_, _, rfl, by decide⟩
  obtain ⟨zero, one, greatest, least⟩ := counted
  have inside : first ∈ (countedTraffic .maxValue).exchanges := by simp [listed]
  have present : second ∈ (countedTraffic .maxValue).exchanges := by simp [listed]
  have later : first.ticket < second.ticket := by
    rw [zero, one]
    exact Nat.zero_lt_one
  have near : second.ticket - first.ticket < 2 ^ 31 - 1 := by
    rw [zero, one]
    decide
  have facts := requestId_eq_iff (reached_countedTraffic .maxValue) .refl inside present later near
  refine ⟨first, inside, second, present, greatest, least, fun same => ?_⟩
  have wraps := (facts.2.2.mp same).2
  rw [zero] at wraps
  revert wraps
  decide

/-- Two requests that are both under way can have the same number, though one begins right after the
other. -/
theorem not_forall_apart : ¬∀ {start : Session} {traffic : Traffic}, Reached start traffic →
    ∀ first ∈ traffic.exchanges, ∀ second ∈ traffic.exchanges,
      first.ticket < second.ticket → second.ticket - first.ticket < 2 ^ 31 - 1 →
        first.requestId ≠ second.requestId := by
  intro apart
  obtain ⟨first, second, listed, next, same⟩ : ∃ first second,
      (countedTraffic .minValue).exchanges = [second, first] ∧
        second.ticket = first.ticket + 1 ∧ first.requestId = second.requestId :=
    ⟨_, _, rfl, by decide⟩
  refine apart (reached_countedTraffic .minValue) first (by simp [listed]) second
    (by simp [listed]) ?_ ?_ same
  · rw [next]
    exact Nat.lt_succ_self _
  · rw [next, Nat.add_sub_cancel_left]
    decide

end Traffic
end RoadsideSnmp
