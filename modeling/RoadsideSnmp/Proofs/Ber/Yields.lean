import RoadsideSnmp.Ber.Cursor
import RoadsideSnmp.Proofs.Oid.Content

/-! What readings can give. `Yields` says of a reading that all its results are good, whatever the
octets and wherever it stands; `Reads` is about octets that somebody wrote, this is about octets
from anywhere. -/
namespace RoadsideSnmp

theorem Reading.of_bind_ok {α β : Type} {reading : Reading α} {next : α → Reading β}
    {cursor after : Cursor} {result : β} (read : (reading >>= next) cursor = (.ok result, after)) :
    ∃ found middle, reading cursor = (.ok found, middle) ∧
      next found middle = (.ok result, after) := by
  match first : reading cursor with
  | (.ok found, middle) =>
      rw [bind_ok first] at read
      exact ⟨found, middle, rfl, read⟩
  | (.error error, middle) =>
      rw [bind_error first] at read
      simp at read

def Yields {α : Type} (reading : Reading α) (Good : α → Prop) : Prop :=
  ∀ cursor after result, reading cursor = (.ok result, after) → Good result

namespace Yields

variable {α β : Type} {Good : α → Prop} {Fine : β → Prop}

theorem any (reading : Reading α) : Yields reading fun _ => True := fun _ _ _ _ => trivial

theorem pure {result : α} (good : Good result) : Yields (Pure.pure result : Reading α) Good := by
  intro cursor after found read
  obtain rfl := Except.ok.inj (congrArg Prod.fst read)
  exact good

theorem bind {reading : Reading α} {next : α → Reading β} (first : Yields reading Good)
    (second : ∀ found, Good found → Yields (next found) Fine) : Yields (reading >>= next) Fine := by
  intro cursor after result read
  obtain ⟨found, middle, front, back⟩ := Reading.of_bind_ok read
  exact second found (first _ _ _ front) _ _ _ back

theorem andThen {reading : Reading α} {next : α → Reading β}
    (second : ∀ found, Yields (next found) Fine) : Yields (reading >>= next) Fine :=
  bind (any reading) fun found _ => second found

theorem lift {result : Except DecodeError α} (good : ∀ value, result = .ok value → Good value) :
    Yields (Reading.lift result) Good := fun _ _ _ read => good _ (congrArg Prod.fst read)

theorem run {reading : Reading α} (yields : Yields reading Good) {cursor : Cursor} {result : α}
    (read : reading.run cursor = .ok result) : Good result :=
  yields cursor _ result (Prod.ext read rfl)

theorem nested {outer : Reading Cursor} {content : Reading α} (yields : Yields content Good) :
    Yields (Cursor.nested outer content) Good :=
  andThen fun _ => lift fun _ => yields.run

theorem objectId : Yields Cursor.objectId Oid.IsFaithful := by
  refine andThen fun count => andThen fun start => andThen fun content => lift fun oid found => ?_
  exact Oid.isFaithful_of_ofContent (mapError_eq_ok_iff.mp found)

end Yields
end RoadsideSnmp
