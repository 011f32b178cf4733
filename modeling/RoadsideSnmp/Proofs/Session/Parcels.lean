import RoadsideSnmp.Proofs.Pmpp.Wrapping
import RoadsideSnmp.Proofs.Session.Balance

/-! Two lines that carry the same payloads, the one in frames and the other as they are. What goes
on with the one goes on with the other, and of either it can be told what has been put there and
taken. -/
namespace RoadsideSnmp

/-- What an agent puts on the line, with all that a frame adds to it. -/
inductive Parcel where
  | message (payload : Octets) (wrapping : Pmpp.Wrapping)
  | silence
  | fault

namespace Parcel

def bare : Parcel → Delivery
  | message payload _ => .message payload
  | silence => .silence
  | fault => .fault

def framed : Parcel → Delivery
  | message payload wrapping => .message (wrapping.wrap payload)
  | silence => .silence
  | fault => .fault

def isDamaged : Parcel → Bool
  | message payload wrapping => wrapping.isDamaged payload
  | silence | fault => false

theorem isDamaged_framed (parcel : Parcel) : parcel.framed.isDamaged = parcel.isDamaged := by
  cases parcel with
  | message payload wrapping =>
      obtain ⟨check, opened, damaged⟩ := wrapping.unframe_wrap payload
      simp only [framed, isDamaged, Delivery.isDamaged, opened, damaged]
  | silence => rfl
  | fault => rfl

end Parcel

namespace Line

/-- The line carries in frames what the plain one carries without. -/
structure Mirrors (framed : Line) (station : Pmpp.Station) (plain : Line) : Prop where
  peer : framed.peer = plain.peer
  sent : framed.sent = plain.sent.map (Pmpp.frame station)
  inbox : ∃ parcels : List Parcel, plain.inbox = parcels.map Parcel.bare ∧
    framed.inbox = parcels.map Parcel.framed
  agent : ∀ sent, ∃ (parcels : List Parcel) (refused : Bool),
    plain.agent sent = ⟨parcels.map Parcel.bare, refused⟩ ∧
    framed.agent (sent.map (Pmpp.frame station)) = ⟨parcels.map Parcel.framed, refused⟩

namespace Mirrors

variable {station : Pmpp.Station} {plain framed : Line}

theorem send (mirrors : framed.Mirrors station plain) (packet : Octets) :
    (framed.send (Pmpp.frame station packet)).1 = (plain.send packet).1 ∧
      (framed.send (Pmpp.frame station packet)).2.Mirrors station (plain.send packet).2 := by
  obtain ⟨waiting, before, framedBefore⟩ := mirrors.inbox
  obtain ⟨parcels, refused, reaction, framedReaction⟩ := mirrors.agent (packet :: plain.sent)
  rw [List.map_cons, ← mirrors.sent] at framedReaction
  refine ⟨?_, mirrors.peer, ?_, ⟨waiting ++ parcels, ?_, ?_⟩, mirrors.agent⟩
  · simp only [Line.send, reaction, framedReaction]
  · simp [mirrors.sent]
  · simp only [Line.send, reaction, before, List.map_append]
  · simp only [Line.send, framedReaction, framedBefore, List.map_append]

theorem take (mirrors : framed.Mirrors station plain) :
    framed.take.Mirrors station plain.take := by
  obtain ⟨waiting, before, framedBefore⟩ := mirrors.inbox
  refine ⟨mirrors.peer, mirrors.sent, ⟨waiting.tail, ?_, ?_⟩, mirrors.agent⟩
  · simp [before]
  · simp [framedBefore]

theorem queue (mirrors : framed.Mirrors station plain) (parcels : List Parcel) :
    (framed.queue (parcels.map Parcel.framed)).Mirrors station
      (plain.queue (parcels.map Parcel.bare)) := by
  obtain ⟨waiting, before, framedBefore⟩ := mirrors.inbox
  refine ⟨mirrors.peer, mirrors.sent, ⟨waiting ++ parcels, ?_, ?_⟩, mirrors.agent⟩
  · rw [Line.queue, before, List.map_append]
  · rw [Line.queue, framedBefore, List.map_append]

theorem length_inbox (mirrors : framed.Mirrors station plain) :
    framed.inbox.length = plain.inbox.length := by
  obtain ⟨waiting, before, framedBefore⟩ := mirrors.inbox
  rw [before, framedBefore, List.length_map, List.length_map]

end Mirrors

/-- The line with frames and the count of damaged ones, before and after something that takes these
deliveries and leaves the plain line as it is given. -/
structure Keeps (station : Pmpp.Station) (line : Line) (damaged : Nat) (plain : Line)
    (taken : List Delivery) (after : Line) (count : Nat) : Prop where
  mirrors : after.Mirrors station plain
  goes : line.Goes taken after
  damaged : count = damaged + taken.countP Delivery.isDamaged

namespace Keeps

variable {station : Pmpp.Station} {line middle after plain later : Line}
  {damaged count total : Nat} {taken others : List Delivery}

theorem refl (mirrors : line.Mirrors station plain) :
    Keeps station line damaged plain [] line damaged :=
  ⟨mirrors, .refl line, rfl⟩

theorem take (mirrors : line.Mirrors station plain) {delivery : Delivery} {rest : List Delivery}
    (inbox : line.inbox = delivery :: rest) :
    Keeps station line damaged plain.take [delivery] line.take
      (damaged + delivery.isDamaged.toNat) := by
  refine ⟨mirrors.take, .take inbox, ?_⟩
  rw [List.countP_singleton]
  cases delivery.isDamaged <;> rfl

theorem send (mirrors : line.Mirrors station plain) (packet : Octets) :
    Keeps station line damaged (plain.send packet).2 []
      (line.send (Pmpp.frame station packet)).2 damaged :=
  ⟨(mirrors.send packet).2, .send line _, rfl⟩

theorem trans (first : Keeps station line damaged plain taken middle count)
    (second : Keeps station middle count later others after total) :
    Keeps station line damaged later (taken ++ others) after total := by
  refine ⟨second.mirrors, first.goes.trans second.goes, ?_⟩
  rw [second.damaged, first.damaged, List.countP_append, Nat.add_assoc]

end Keeps
end Line

structure Consignment where
  parcels : List Parcel
  /-- The sender is told that the message did not go out. -/
  refused : Bool

def Consignment.reaction (deliver : Parcel → Delivery) (consignment : Consignment) : Reaction :=
  ⟨consignment.parcels.map deliver, consignment.refused⟩

def Consignment.arrivals (script : List Consignment) (first all : Nat) : List Parcel :=
  ((script.drop first).take (all - first)).flatMap parcels

namespace Line

theorem reactions_scripted (script : List Reaction) (sent : List Octets) :
    reactions (scripted script) sent = (script.take sent.length).flatMap Reaction.deliveries := by
  induction sent with
  | nil => simp [reactions]
  | cons packet sent ih =>
      have newest : (scripted script (packet :: sent)).deliveries =
          script[sent.length]?.toList.flatMap Reaction.deliveries := by
        rw [scripted, List.length_cons, Nat.add_sub_cancel, List.getD_eq_getElem?_getD]
        cases script[sent.length]? with
        | none => rfl
        | some reaction => simp
      rw [reactions, ih, newest, List.length_cons, List.take_add_one, List.flatMap_append]

def ofScript (deliver : Parcel → Delivery) (script : List Consignment) (peer : String)
    (framed : Bool) : Line :=
  ⟨peer, framed, scripted (script.map (Consignment.reaction deliver)), [], []⟩

theorem Mirrors.ofScript (station : Pmpp.Station) (script : List Consignment) (peer : String)
    (flagged : Bool) : (ofScript Parcel.framed script peer flagged).Mirrors station
      (ofScript Parcel.bare script peer false) := by
  refine ⟨rfl, rfl, ⟨[], rfl, rfl⟩, fun sent => ?_⟩
  -- the agent heeds only how many messages there are, and there are as many frames
  have reaction (deliver : Parcel → Delivery) (sent : List Octets) :
      scripted (script.map (Consignment.reaction deliver)) sent =
        (script.getD (sent.length - 1) ⟨[], false⟩).reaction deliver := by
    rw [scripted, List.getD_eq_getElem?_getD, List.getD_eq_getElem?_getD, List.getElem?_map]
    cases script[sent.length - 1]? <;> rfl
  refine ⟨_, _, reaction Parcel.bare sent, ?_⟩
  have framed := reaction Parcel.framed (sent.map (Pmpp.frame station))
  rw [List.length_map] at framed
  exact framed

theorem Goes.of_script {script : List Consignment} {deliver : Parcel → Delivery}
    {line after : Line} {taken : List Delivery} (goes : line.Goes taken after)
    (agent : line.agent = scripted (script.map (Consignment.reaction deliver))) :
    line.inbox ++ (Consignment.arrivals script line.sent.length after.sent.length).map deliver =
      taken ++ after.inbox := by
  obtain ⟨arrived, history, inbox⟩ := goes.inbox
  have few := goes.sent.length_le
  rw [agent, reactions_scripted, reactions_scripted, ← Nat.add_sub_cancel' few, List.take_add,
    List.flatMap_append] at history
  have arrived := List.append_cancel_left history
  rw [← inbox, ← arrived, Consignment.arrivals, List.map_flatMap, ← List.map_drop, ← List.map_take,
    List.flatMap_map]
  rfl

end Line
end RoadsideSnmp
