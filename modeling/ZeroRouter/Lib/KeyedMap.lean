import ZeroRouter.Lib.SortedMap

/-!
# Maps in no particular order, and marks that run out

A `KeyedMap` is its entries, no two under one key.  `mark` files a deadline under a key and, from a
cap on, clears the deadlines that have passed: what is still to come is never cleared, whatever the
cap, and a later mark of the same key does not shorten an earlier one.

The module names no map of any particular program.
-/

open Ordered (lookup lookup_cons mem_of_lookup lookup_of_mem)

structure KeyedMap (κ α : Type) where
  entries : List (κ × α)
  distinct : (entries.map (·.1)).Nodup

namespace KeyedMap

variable {κ α : Type} [DecidableEq κ]

def empty : KeyedMap κ α where
  entries := []
  distinct := List.nodup_nil

def get? (map : KeyedMap κ α) (key : κ) : Option α := lookup key map.entries

def contains (map : KeyedMap κ α) (key : κ) : Bool := (map.get? key).isSome

def size (map : KeyedMap κ α) : Nat := map.entries.length

/-- Keep the entries that pass. -/
def retain (map : KeyedMap κ α) (keep : κ → α → Bool) : KeyedMap κ α where
  entries := map.entries.filter fun entry => keep entry.1 entry.2
  distinct := map.distinct.sublist (List.filter_sublist.map _)

def erase (map : KeyedMap κ α) (key : κ) : KeyedMap κ α :=
  map.retain fun other _ => other ≠ key

def insert (map : KeyedMap κ α) (key : κ) (value : α) : KeyedMap κ α where
  entries := (key, value) :: (map.erase key).entries
  distinct := by
    rw [List.map_cons, List.nodup_cons]
    refine ⟨?_, (map.erase key).distinct⟩
    intro filed
    obtain ⟨entry, mem, same⟩ := List.mem_map.mp filed
    have other := (List.mem_filter.mp mem).2
    simp [same] at other

@[simp] theorem get?_empty (key : κ) : (empty : KeyedMap κ α).get? key = none := rfl

theorem mem_entries_iff {map : KeyedMap κ α} {key : κ} {value : α} :
    (key, value) ∈ map.entries ↔ map.get? key = some value :=
  ⟨lookup_of_mem map.distinct, mem_of_lookup⟩

/-- A key is found after a sweep when what it held passes. -/
theorem get?_retain (map : KeyedMap κ α) (keep : κ → α → Bool) (key : κ) :
    (map.retain keep).get? key = (map.get? key).filter (keep key) := by
  ext value
  rw [← mem_entries_iff, Option.filter_eq_some_iff, ← mem_entries_iff]
  exact List.mem_filter

theorem get?_erase (map : KeyedMap κ α) (key asked : κ) :
    (map.erase key).get? asked = if asked = key then none else map.get? asked := by
  unfold erase
  rw [get?_retain]
  by_cases same : asked = key
  · simp [same]
  · rw [if_neg same]
    cases held : map.get? asked <;> simp [same]

theorem get?_insert (map : KeyedMap κ α) (key asked : κ) (value : α) :
    (map.insert key value).get? asked = if asked = key then some value else map.get? asked := by
  have rest := get?_erase map key asked
  unfold get? at rest ⊢
  unfold insert
  rw [lookup_cons, rest]
  by_cases same : key = asked
  · rw [if_pos same, if_pos same.symm]
  · rw [if_neg same, if_neg fun same' => same same'.symm, if_neg fun same' => same same'.symm]

/-! ## Deadlines -/

section Deadlines

variable {τ : Type} [LinearOrder τ]

/-- File a deadline; from the cap on, first clear those that have passed. -/
def mark (map : KeyedMap κ τ) (cap : Nat) (now : τ) (key : κ) (till : τ) : KeyedMap κ τ :=
  (if cap ≤ map.size then map.retain fun _ deadline => now < deadline else map).insert key till

/-- Whether a key's deadline is still to come; one that has passed is cleared. -/
def readMark (map : KeyedMap κ τ) (now : τ) (key : κ) : Bool × KeyedMap κ τ :=
  match map.get? key with
  | some deadline => if now < deadline then (true, map) else (false, map.erase key)
  | none => (false, map)

/-- Until `deadline` the key is marked, as far as `now` can tell. -/
def MarkedUntil (map : KeyedMap κ τ) (now : τ) (key : κ) (deadline : τ) : Prop :=
  now < deadline → ∃ filed, map.get? key = some filed ∧ deadline ≤ filed

variable {map : KeyedMap κ τ} {seen now after deadline till : τ} {cap : Nat} {key other : κ}

theorem MarkedUntil.later (h : map.MarkedUntil now key deadline) (forward : now ≤ after) :
    map.MarkedUntil after key deadline :=
  fun before => h (forward.trans_lt before)

/-- The key just marked. -/
theorem markedUntil_mark_self (enough : deadline ≤ till) :
    (map.mark cap seen key till).MarkedUntil now key deadline := by
  intro _
  refine ⟨till, ?_, enough⟩
  unfold mark
  rw [get?_insert, if_pos rfl]

/-- Every other deadline stays, at the cap as below it. -/
theorem MarkedUntil.mark (h : map.MarkedUntil now key deadline) (early : seen ≤ now)
    (enough : other = key → deadline ≤ till) :
    (map.mark cap seen other till).MarkedUntil now key deadline := by
  by_cases same : other = key
  · subst same
    exact markedUntil_mark_self (enough rfl)
  · intro before
    obtain ⟨filed, held, le⟩ := h before
    refine ⟨filed, ?_, le⟩
    unfold KeyedMap.mark
    rw [get?_insert, if_neg fun same' => same same'.symm]
    have ahead : seen < filed := early.trans_lt (before.trans_le le)
    split
    · rw [get?_retain, held, Option.filter_some, if_pos (decide_eq_true ahead)]
    · exact held

/-- Reading clears no deadline still to come. -/
theorem MarkedUntil.read (h : map.MarkedUntil now key deadline) (early : seen ≤ now) :
    (map.readMark seen other).2.MarkedUntil now key deadline := by
  intro before
  obtain ⟨filed, held, le⟩ := h before
  refine ⟨filed, ?_, le⟩
  have ahead : seen < filed := early.trans_lt (before.trans_le le)
  unfold readMark
  split
  · next found stored =>
      split
      · exact held
      · next passed =>
          rw [get?_erase, if_neg, held]
          -- The cleared key is another one: this one's deadline has not passed.
          rintro rfl
          rw [held, Option.some.injEq] at stored
          exact passed (stored ▸ ahead)
  · exact held

/-- A key read as unmarked has no deadline to come. -/
theorem MarkedUntil.passed (h : map.MarkedUntil now key deadline) (early : seen ≤ now)
    (unmarked : (map.readMark seen key).1 = false) : deadline ≤ now := by
  by_contra before
  obtain ⟨filed, held, le⟩ := h (lt_of_not_ge before)
  have ahead : seen < filed := early.trans_lt ((lt_of_not_ge before).trans_le le)
  unfold readMark at unmarked
  rw [held] at unmarked
  simp only [if_pos ahead, Bool.true_eq_false] at unmarked

end Deadlines

end KeyedMap
