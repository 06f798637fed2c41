import Mathlib.Data.List.Basic

/-!
# Loops with an early exit

`enumerate body start items state` is a `for (index, item) in items.enumerate()`
loop over a mutable state: the body either goes on to the next item (`.ok`) or
leaves the loop with a result (`.error`).

The module names no particular loop.
-/

namespace Loop

variable {α σ ρ : Type} {s : σ} {left : ρ → Prop} {body : Nat → α → σ → Except ρ σ}
  {done : σ → Prop}

/-- The loop, with `start` the index of its first item. -/
def enumerate (body : Nat → α → σ → Except ρ σ) : Nat → List α → σ → Except ρ σ
  | _, [], s => .ok s
  | index, x :: xs, s =>
      match body index x s with
      | .ok t => enumerate body (index + 1) xs t
      | .error r => .error r

/-- What holds of a loop's end: `left` of a result it was left with, `done` of the
    state it ran out of items in. -/
def Ends (left : ρ → Prop) (done : σ → Prop) : Except ρ σ → Prop
  | .ok s => done s
  | .error r => left r

@[simp] theorem ends_ok :
    Ends left done (.ok s : Except ρ σ) ↔ done s := Iff.rfl

@[simp] theorem ends_error {r : ρ} :
    Ends left done (.error r : Except ρ σ) ↔ left r := Iff.rfl

theorem Ends.imp {left' : ρ → Prop} {done' : σ → Prop} {end_ : Except ρ σ}
    (h : Ends left done end_) (hleft : ∀ r, left r → left' r) (hdone : ∀ s, done s → done' s) :
    Ends left' done' end_ := by
  cases end_ with
  | ok s => exact hdone s h
  | error r => exact hleft r h

theorem enumerate_cons {start : Nat} {x : α} {xs : List α} {t : σ} (h : body start x s = .ok t) :
    enumerate body start (x :: xs) s = enumerate body (start + 1) xs t := by
  simp [enumerate, h]

theorem enumerate_cons_error {start : Nat} {x : α} {xs : List α} {r : ρ}
    (h : body start x s = .error r) :
    enumerate body start (x :: xs) s = .error r := by
  simp [enumerate, h]

/-- Running on after a prefix of the items. -/
theorem enumerate_append (xs ys : List α) (start : Nat) (s : σ) :
    enumerate body start (xs ++ ys) s =
      match enumerate body start xs s with
      | .ok t => enumerate body (start + xs.length) ys t
      | .error r => .error r := by
  induction xs generalizing start s with
  | nil => simp [enumerate]
  | cons x xs ih =>
      simp only [List.cons_append, enumerate]
      cases body start x s with
      | ok t =>
          simp only [ih, List.length_cons]
          rw [show start + 1 + xs.length = start + (xs.length + 1) by omega]
      | error r => rfl

section Rule

variable (body : Nat → α → σ → Except ρ σ) (left : ρ → Prop) (keep : Nat → σ → Prop)
  (items : List α)

/-- The loop rule, from any item on. -/
theorem enumerate_ends_from
    (step : ∀ index x s, items[index]? = some x → keep index s →
      Ends left (keep (index + 1)) (body index x s)) (done xs : List α)
    (hitems : items = done ++ xs) (start : keep done.length s) :
    Ends left (keep items.length) (enumerate body done.length xs s) := by
  induction xs generalizing done s with
  | nil =>
      have : items = done := by simpa using hitems
      rw [this]
      exact start
  | cons x xs ih =>
      have hx : items[done.length]? = some x := by simp [hitems]
      have hstep := step done.length x s hx start
      cases hbody : body done.length x s with
      | error r =>
          rw [hbody] at hstep
          rw [enumerate_cons_error hbody]
          exact hstep
      | ok t =>
          rw [hbody] at hstep
          rw [enumerate_cons hbody]
          have hnext : keep (done ++ [x]).length t := by simpa using hstep
          have := ih (done ++ [x]) (by simp [hitems]) hnext
          simpa using this

/-- The loop rule: a body that keeps `keep`, indexed by how far the loop has come,
    and meets `left` where it leaves the loop. -/
theorem enumerate_ends
    (step : ∀ index x s, items[index]? = some x → keep index s →
      Ends left (keep (index + 1)) (body index x s)) (start : keep 0 s) :
    Ends left (keep items.length) (enumerate body 0 items s) :=
  enumerate_ends_from body left keep items step [] items rfl start

/-- The loop rule, from where a run over the first items ends. -/
theorem enumerate_ends_after
    (step : ∀ index x s, items[index]? = some x → keep index s →
      Ends left (keep (index + 1)) (body index x s)) {count : Nat} (hcount : count ≤ items.length)
    (h : Ends left (keep count) (enumerate body 0 (items.take count) s)) :
    Ends left (keep items.length) (enumerate body 0 items s) := by
  have hsplit : enumerate body 0 items s =
      enumerate body 0 (items.take count ++ items.drop count) s := by
    rw [List.take_append_drop]
  rw [hsplit, enumerate_append]
  cases hfirst : enumerate body 0 (items.take count) s with
  | ok t =>
      rw [hfirst] at h
      have hlen : (items.take count).length = count := List.length_take_of_le hcount
      have hkeep : keep (items.take count).length t := by
        rw [hlen]
        exact h
      have := enumerate_ends_from body left keep items step (items.take count) (items.drop count)
        (List.take_append_drop count items).symm hkeep
      simpa using this
  | error r =>
      rw [hfirst] at h
      exact h

end Rule

/-- A loop no item of which passes a fresh state on as fresh is touched before it ends,
    or left: `touched` is kept once reached, and an item that does not pass reaches it. -/
theorem enumerate_touches (fresh touched : Nat → σ → Prop) (passes : Nat → α → Prop)
    {items : List α}
    (pass : ∀ index x s, items[index]? = some x → fresh index s → passes index x →
      Ends left (fresh (index + 1)) (body index x s))
    (touch : ∀ index x s, items[index]? = some x → fresh index s → ¬ passes index x →
      Ends left (touched (index + 1)) (body index x s))
    (stay : ∀ index x s, items[index]? = some x → touched index s →
      Ends left (touched (index + 1)) (body index x s)) (start : fresh 0 s)
    (h : ¬ ∀ index x, items[index]? = some x → passes index x) :
    Ends left (touched items.length) (enumerate body 0 items s) := by
  have run := enumerate_ends body left
    (fun index s => touched index s ∨
      fresh index s ∧ ∀ earlier x, earlier < index → items[earlier]? = some x → passes earlier x)
    items ?_ (.inr ⟨start, fun _ _ hlt => absurd hlt (Nat.not_lt_zero _)⟩)
  · refine run.imp (fun _ h => h) ?_
    rintro s (htouched | ⟨-, hpassed⟩)
    · exact htouched
    · refine absurd ?_ h
      intro index x hx
      exact hpassed index x (List.getElem?_eq_some_iff.mp hx).1 hx
  · intro index x s hx hkeep
    rcases hkeep with htouched | ⟨hfresh, hpassed⟩
    · exact (stay index x s hx htouched).imp (fun _ h => h) fun _ h => .inl h
    · by_cases hpasses : passes index x
      · refine (pass index x s hx hfresh hpasses).imp (fun _ h => h) ?_
        intro t ht
        refine .inr ⟨ht, ?_⟩
        intro earlier y hlt hy
        rcases Nat.lt_succ_iff_lt_or_eq.mp hlt with hlt | rfl
        · exact hpassed earlier y hlt hy
        · rw [hx] at hy
          cases hy
          exact hpasses
      · exact (touch index x s hx hfresh hpasses).imp (fun _ h => h) fun _ h => .inl h

end Loop
