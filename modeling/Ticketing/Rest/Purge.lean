import Mathlib

/-!
# Runs without the requests that may do nothing

A service with a part of its state that only permitted requests change, and with
permissions that no request changes: what a run makes of that part is what its
permitted requests make of it on their own.

## Main Definitions

* `Guards` — serving a request keeps the permissions, and changes the part only as permitted

## Main Results

* `Guards.run` — the part after a run is the work of the requests permitted at the start
-/

namespace Rest

variable {σ ρ π : Type}

/-- What a permitted request does to the protected part; `none` permits nothing. -/
abbrev Permits (σ ρ π : Type) := σ → ρ → Option (π → π)

/-- Serving keeps the permissions, and changes the protected part as they say. -/
structure Guards (serve : σ → ρ → σ) (part : σ → π) (permits : Permits σ ρ π) : Prop where
  constant : ∀ state request, permits (serve state request) = permits state
  acts : ∀ state request,
    part (serve state request) = ((permits state request).getD id) (part state)

namespace Guards

variable {serve : σ → ρ → σ} {part : σ → π} {permits : Permits σ ρ π}

/-- **Purge.**  Dropping the requests that may do nothing makes no difference. -/
theorem run (guards : Guards serve part permits) (requests : List ρ) (state : σ) :
    part (requests.foldl serve state)
      = (requests.filterMap (permits state)).foldl (fun part act => act part) (part state) := by
  induction requests generalizing state with
  | nil => rfl
  | cons request rest ih =>
      rw [List.foldl_cons, ih, guards.constant, guards.acts, List.filterMap_cons]
      cases permits state request with
      | none => rfl
      | some act => rfl

end Guards

end Rest
