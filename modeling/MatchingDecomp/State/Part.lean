/-!
# Parts of a state

Actions on one component of a larger state, carried over to the whole.
-/

namespace MatchingDecomp

/-- A component `σ` of a state `τ`. -/
structure Part (τ σ : Type) where
  get : τ → σ
  set : σ → τ → τ

namespace Part

/-- An action on a part, as an action on the whole. -/
def lift {τ σ α : Type} (p : Part τ σ) (action : StateM σ α) : StateM τ α := fun t =>
  let (answer, s) := action (p.get t)
  (answer, p.set s t)

/-- A part of a part. -/
def comp {ρ τ σ : Type} (p : Part ρ τ) (q : Part τ σ) : Part ρ σ where
  get := fun r => q.get (p.get r)
  set := fun s r => p.set (q.set s (p.get r)) r

end Part

end MatchingDecomp
