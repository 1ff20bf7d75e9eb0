/-!
# PostPress.Proofs.Collections.Except

**Computations that succeed.** What a successful computation in steps gives, its last step has
given, and every step before has succeeded.
-/

namespace PostPress

variable {ε α β : Type} {result : Except ε α}

/-- A value that was mapped to is the image of one. -/
theorem exists_of_map_eq_ok {f : α → β} {b : β} (h : result.map f = .ok b) :
    ∃ a, result = .ok a ∧ f a = b := by
  cases result with
  | error e => exact absurd h nofun
  | ok a => exact ⟨a, rfl, Except.ok.inj h⟩

/-- Of two steps that succeed the first one has succeeded. -/
theorem exists_of_bind_eq_ok {next : α → Except ε β} {b : β} (h : (result >>= next) = .ok b) :
    ∃ a, result = .ok a ∧ next a = .ok b := by
  cases result with
  | error e => exact absurd h nofun
  | ok a => exact ⟨a, rfl, h⟩

end PostPress
