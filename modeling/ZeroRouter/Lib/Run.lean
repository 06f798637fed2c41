import Mathlib.Order.Basic

/-!
# Runs of a transition system

A system is a partial step function: `step s a = none` means action `a` is not
enabled in state `s`.  `Steps step C` is reachability through steps that each
meet the condition `C` in the state they are taken in, so a property "in every
run whose steps all meet `C`" is a statement about `Steps step C`.

The module names no particular system.
-/

namespace Transition

variable {σ α : Type} {step : σ → α → Option σ} {C : σ → α → Prop} {s t u : σ} {actions : List α}
  {I : σ → Prop}

/-- `Steps step C s t`: some run of steps, each meeting `C`, leads from `s` to `t`. -/
inductive Steps (step : σ → α → Option σ) (C : σ → α → Prop) : σ → σ → Prop where
  | refl (s : σ) : Steps step C s s
  | tail {s t u : σ} {a : α} (run : Steps step C s t) (meets : C t a)
      (next : step t a = some u) : Steps step C s u

/-- The condition every step meets. -/
def anyStep : σ → α → Prop := fun _ _ => True

instance (s : σ) (a : α) : Decidable (anyStep s a) := inferInstanceAs (Decidable True)

/-- Execute a list of actions, stopping at the first one that is disabled or
    breaks the condition. -/
def runWhile (step : σ → α → Option σ) (C : σ → α → Prop) [∀ s a, Decidable (C s a)] :
    σ → List α → Option σ
  | s, [] => some s
  | s, a :: rest => if C s a then (step s a).bind fun t => runWhile step C t rest else none

namespace Steps

theorem trans (first : Steps step C s t) (second : Steps step C t u) :
    Steps step C s u := by
  induction second with
  | refl => exact first
  | tail _ meets next ih => exact .tail ih meets next

theorem head {a : α} (meets : C s a) (next : step s a = some t) (rest : Steps step C t u) :
    Steps step C s u :=
  (Steps.tail (.refl s) meets next).trans rest

/-- What an executed list of actions reached is reachable. -/
theorem of_runWhile [∀ s a, Decidable (C s a)] (h : runWhile step C s actions = some t) :
    Steps step C s t := by
  induction actions generalizing s with
  | nil =>
      cases h
      exact .refl _
  | cons a rest ih =>
      rw [runWhile] at h
      split at h
      · next meets =>
          obtain ⟨u, next, hrest⟩ := Option.bind_eq_some_iff.mp h
          exact head meets next (ih hrest)
      · cases h

/-- A property of the state an executed list of actions reached. -/
theorem exists_of_runWhile [∀ s a, Decidable (C s a)] {p : σ → Bool}
    (h : (runWhile step C s actions).any p = true) :
    ∃ t, Steps step C s t ∧ p t = true := by
  obtain ⟨t, reached, hp⟩ := (Option.any_eq_true _ _).mp h
  exact ⟨t, .of_runWhile reached, hp⟩

/-- The invariant rule: what holds at the start and is kept by every step holds
    in every reachable state. -/
theorem invariant (start : I s) (keep : ∀ t a u, I t → C t a → step t a = some u → I u)
    (run : Steps step C s t) : I t := by
  induction run with
  | refl => exact start
  | tail _ meets next ih => exact keep _ _ _ ih meets next

/-- The two-state rule: a reflexive and transitive relation that every step makes
    relates the ends of every run. -/
theorem relate {R : σ → σ → Prop} (refl : ∀ s, R s s) (trans : ∀ s t u, R s t → R t u → R s u)
    (makes : ∀ t a u, C t a → step t a = some u → R t u) (run : Steps step C s t) : R s t := by
  induction run with
  | refl => exact refl _
  | tail _ meets next ih => exact trans _ _ _ ih (makes _ _ _ meets next)

/-- A run whose steps meet a condition is a run. -/
theorem weaken (run : Steps step C s t) : Steps step anyStep s t := by
  induction run with
  | refl => exact .refl _
  | tail _ _ next ih => exact .tail ih trivial next

/-- The progress rule: where every state short of the end has a step that keeps the invariant and
    leaves less to do, the end is reached by some run. -/
theorem exists_of_progress {ended : σ → Prop} {left : σ → Nat}
    (progress : ∀ s, I s → ¬ ended s → ∃ a t, C s a ∧ step s a = some t ∧ I t ∧ left t < left s)
    (start : I s) : ∃ t, Steps step C s t ∧ I t ∧ ended t := by
  induction bound : left s using Nat.strongRecOn generalizing s with
  | ind n ih =>
      by_cases here : ended s
      · exact ⟨s, .refl s, start, here⟩
      · obtain ⟨a, t, meets, next, keeps, less⟩ := progress s start here
        obtain ⟨u, run, kept, reached⟩ := ih (left t) (bound ▸ less) keeps rfl
        exact ⟨u, head meets next run, kept, reached⟩

/-- What holds at the end of a run and not at its start, some step of it brought about. -/
theorem turns {P : σ → Prop} (run : Steps step C s t) (before : ¬ P s) (after : P t) :
    ∃ u a v, Steps step C s u ∧ C u a ∧ step u a = some v ∧ ¬ P u ∧ P v ∧ Steps step C v t := by
  induction run with
  | refl => exact absurd after before
  | @tail t' u' a run meets next ih =>
      by_cases here : P t'
      · obtain ⟨u, b, v, reached, meets', next', no, yes, rest⟩ := ih here
        exact ⟨u, b, v, reached, meets', next', no, yes, .tail rest meets next⟩
      · exact ⟨_, _, _, run, meets, next, here, after, .refl _⟩

end Steps

end Transition
