import Mathlib.Logic.Basic

/-!
# Reachable states of a transition system

A transition system is given by a predicate on initial states and a step relation.  The states
reachable from an initial state by finitely many steps form the inductive predicate `Reachable`;
an invariant is a predicate that holds initially and is kept by every step.  The one rule this
module provides, `Reachable.invariant`, turns those two facts into a statement about every
reachable state, so that each safety result of a system is proved as two small goals.
-/

namespace Reach

variable {σ : Type*} (init : σ → Prop) (step : σ → σ → Prop)

/-- The states reachable from an initial state by finitely many steps. -/
inductive Reachable : σ → Prop
  | init {s : σ} : init s → Reachable s
  | step {s s' : σ} : Reachable s → step s s' → Reachable s'

variable {init step}

/-- An invariant established initially and kept by every step holds in every reachable state. -/
theorem Reachable.invariant {inv : σ → Prop} (hinit : ∀ s, init s → inv s)
    (hstep : ∀ s s', inv s → step s s' → inv s') {s : σ} (h : Reachable init step s) : inv s := by
  induction h with
  | init hs => exact hinit _ hs
  | step _ hs ih => exact hstep _ _ ih hs

end Reach
