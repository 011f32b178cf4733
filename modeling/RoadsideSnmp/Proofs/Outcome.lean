/-! Results that may be faults. What is made of one, and a chain of steps, succeeds just when all
that goes in has succeeded. -/
namespace RoadsideSnmp

variable {ε δ α β : Type}

theorem map_eq_ok_iff {change : α → β} {result : Except ε α} {value : β} :
    result.map change = .ok value ↔ ∃ found, result = .ok found ∧ change found = value := by
  cases result <;> simp [Except.map]

theorem mapError_eq_ok_iff {change : ε → δ} {result : Except ε α} {value : α} :
    result.mapError change = .ok value ↔ result = .ok value := by
  cases result with
  | error fault => exact iff_of_false nofun nofun
  | ok found => exact ⟨fun | rfl => rfl, fun | rfl => rfl⟩

theorem bind_eq_ok_iff {result : Except ε α} {next : α → Except ε β} {value : β} :
    result >>= next = .ok value ↔ ∃ found, result = .ok found ∧ next found = .ok value := by
  cases result <;> simp [bind, Except.bind]

end RoadsideSnmp
