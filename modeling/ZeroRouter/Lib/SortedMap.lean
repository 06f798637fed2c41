import Mathlib.Order.Defs.LinearOrder
import Mathlib.Order.Basic
import Mathlib.Data.List.Pairwise
import Mathlib.Data.List.Sort

/-!
# Maps kept in key order

A map is the list of its entries in strictly ascending key order, the order being
a field: two entries under one key, or an entry out of place, cannot be built.
Lookup, insertion and removal are those of an ordered map, and a walk over the
entries visits the keys in order.

The module names no map of any particular program.
-/

namespace Ordered

open Option List

variable {κ α β : Type} {entries : List (κ × α)} {key : κ} {value : α} {entry : κ × α}

/-- The first value filed under a key. -/
def lookup [DecidableEq κ] (key : κ) (entries : List (κ × α)) : Option α :=
  (entries.find? (·.1 = key)).map (·.2)

section Lookup

variable [DecidableEq κ]

@[simp] theorem lookup_nil (key : κ) : lookup key ([] : List (κ × α)) = none := rfl

theorem lookup_cons (key : κ) (entry : κ × α) (rest : List (κ × α)) :
    lookup key (entry :: rest) = if entry.1 = key then some entry.2 else lookup key rest := by
  by_cases h : entry.1 = key <;> simp [lookup, h]

theorem mem_of_lookup (h : lookup key entries = some value) : (key, value) ∈ entries := by
  induction entries with
  | nil => simp at h
  | cons entry rest ih =>
      rw [lookup_cons] at h
      by_cases hkey : entry.1 = key
      · rw [if_pos hkey, some.injEq] at h
        subst hkey h
        exact mem_cons_self
      · rw [if_neg hkey] at h
        exact mem_cons_of_mem _ (ih h)

/-- Where no two entries share a key, an entry is what its key finds. -/
theorem lookup_of_mem (distinct : (entries.map (·.1)).Nodup) (h : (key, value) ∈ entries) :
    lookup key entries = some value := by
  induction entries with
  | nil => cases h
  | cons entry rest ih =>
      rw [map_cons, nodup_cons] at distinct
      rw [lookup_cons]
      rcases mem_cons.mp h with rfl | h
      · simp
      · have : entry.1 ≠ key := by
          intro heq
          apply distinct.1
          rw [heq]
          exact mem_map_of_mem (f := (·.1)) h
        rw [if_neg this]
        exact ih distinct.2 h

end Lookup

variable [LinearOrder κ]

/-- Insertion in key order, in place of what the key held. -/
def insertEntry (key : κ) (value : α) : List (κ × α) → List (κ × α)
  | [] => [(key, value)]
  | entry :: rest =>
      if key < entry.1 then (key, value) :: entry :: rest
      else if key = entry.1 then (key, value) :: rest
      else entry :: insertEntry key value rest

theorem mem_insertEntry (h : entry ∈ insertEntry key value entries) :
    entry = (key, value) ∨ entry ∈ entries := by
  induction entries with
  | nil => simpa [insertEntry] using h
  | cons first rest ih =>
      unfold insertEntry at h
      by_cases hlt : key < first.1
      · simpa [hlt] using h
      · by_cases heq : key = first.1
        · rw [if_neg hlt, if_pos heq] at h
          rcases mem_cons.mp h with h | h
          · exact .inl h
          · exact .inr (mem_cons_of_mem _ h)
        · rw [if_neg hlt, if_neg heq] at h
          rcases mem_cons.mp h with h | h
          · exact .inr (h ▸ mem_cons_self)
          · exact (ih h).imp_right (mem_cons_of_mem _)

theorem insertEntry_ascending (key : κ) (value : α) (h : entries.Pairwise fun a b => a.1 < b.1) :
    (insertEntry key value entries).Pairwise fun a b => a.1 < b.1 := by
  induction entries with
  | nil => simp [insertEntry]
  | cons first rest ih =>
      obtain ⟨hfirst, hrest⟩ := pairwise_cons.mp h
      unfold insertEntry
      by_cases hlt : key < first.1
      · rw [if_pos hlt]
        refine h.cons ?_
        intro entry hentry
        rcases mem_cons.mp hentry with rfl | hentry
        · exact hlt
        · exact hlt.trans (hfirst entry hentry)
      · by_cases heq : key = first.1
        · rw [if_neg hlt, if_pos heq]
          refine hrest.cons ?_
          intro entry hentry
          rw [heq]
          exact hfirst entry hentry
        · rw [if_neg hlt, if_neg heq]
          refine (ih hrest).cons ?_
          intro entry hentry
          rcases mem_insertEntry hentry with rfl | hentry
          · exact lt_of_le_of_ne (not_lt.mp hlt) (Ne.symm heq)
          · exact hfirst entry hentry

theorem lookup_insertEntry (key asked : κ) (value : α) (entries : List (κ × α)) :
    lookup asked (insertEntry key value entries) =
      if key = asked then some value else lookup asked entries := by
  induction entries with
  | nil => simp [insertEntry, lookup_cons]
  | cons first rest ih =>
      unfold insertEntry
      by_cases hlt : key < first.1
      · rw [if_pos hlt, lookup_cons]
      · by_cases heq : key = first.1
        · rw [if_neg hlt, if_pos heq, lookup_cons, lookup_cons]
          by_cases hkey : key = asked
          · simp [hkey]
          · simp [hkey, ← heq]
        · rw [if_neg hlt, if_neg heq, lookup_cons, lookup_cons, ih]
          by_cases hfirst : first.1 = asked
          · have : key ≠ asked := fun h => heq (h.trans hfirst.symm)
            simp [hfirst, this]
          · simp [hfirst]

/-- A map as its entries in key order. -/
structure SortedMap (κ α : Type) [LinearOrder κ] where
  entries : List (κ × α)
  ascending : entries.Pairwise fun a b => a.1 < b.1

namespace SortedMap

variable {map : SortedMap κ α} {key : κ} {value : α} {entries : List (κ × α)}

instance [DecidableEq α] : DecidableEq (SortedMap κ α) := fun a b =>
  decidable_of_iff (a.entries = b.entries) (by cases a; cases b; simp)

def empty : SortedMap κ α where
  entries := []
  ascending := .nil

def get? (map : SortedMap κ α) (key : κ) : Option α := lookup key map.entries

def contains (map : SortedMap κ α) (key : κ) : Bool := (map.get? key).isSome

def keys (map : SortedMap κ α) : List κ := map.entries.map (·.1)

def values (map : SortedMap κ α) : List α := map.entries.map (·.2)

def insert (map : SortedMap κ α) (key : κ) (value : α) : SortedMap κ α where
  entries := insertEntry key value map.entries
  ascending := insertEntry_ascending key value map.ascending

/-- Insertion that keeps what the key already holds. -/
def insertNew (map : SortedMap κ α) (key : κ) (value : α) : SortedMap κ α :=
  if map.contains key then map else map.insert key value

def erase (map : SortedMap κ α) (key : κ) : SortedMap κ α where
  entries := map.entries.filter (·.1 ≠ key)
  ascending := map.ascending.filter _

/-- Add an item to the list a key holds, an absent key holding none. -/
def push (map : SortedMap κ (List α)) (key : κ) (item : α) : SortedMap κ (List α) :=
  map.insert key ((map.get? key).getD [] ++ [item])

/-- The entries taken in, a later one in place of an earlier one under its key. -/
def ofList (entries : List (κ × α)) : SortedMap κ α :=
  entries.foldl (fun map entry => map.insert entry.1 entry.2) empty

/-- Each entry's value remade or dropped. -/
def filterMap (f : κ → α → Option β) (map : SortedMap κ α) : SortedMap κ β where
  entries := map.entries.filterMap fun entry => (f entry.1 entry.2).map (entry.1, ·)
  ascending := by
    refine map.ascending.filterMap _ ?_
    intro a b hlt a' ha b' hb
    simp only [Option.map_eq_some_iff] at ha hb
    obtain ⟨_, -, rfl⟩ := ha
    obtain ⟨_, -, rfl⟩ := hb
    exact hlt

theorem nodup_keys (map : SortedMap κ α) : map.keys.Nodup := by
  refine List.Pairwise.map _ ?_ map.ascending
  intro a b hlt
  exact ne_of_lt hlt

/-- An entry is what its key finds. -/
theorem mem_entries_iff :
    (key, value) ∈ map.entries ↔ map.get? key = some value :=
  ⟨lookup_of_mem map.nodup_keys, mem_of_lookup⟩

/-- A map's entries are the ascending list that holds the same. -/
theorem entries_eq_of_mem_iff (ascending : entries.Pairwise fun a b => a.1 < b.1)
    (h : ∀ key value, map.get? key = some value ↔ (key, value) ∈ entries) :
    map.entries = entries := by
  have irrefl : Std.Irrefl fun a b : κ × α => a.1 < b.1 := ⟨fun a => lt_irrefl a.1⟩
  have antisymm : Std.Antisymm fun a b : κ × α => a.1 < b.1 :=
    ⟨fun a b hab hba => absurd (hab.trans hba) (lt_irrefl a.1)⟩
  refine map.ascending.eq_of_mem_iff ascending ?_
  rintro ⟨key, value⟩
  rw [mem_entries_iff]
  exact h key value

theorem mem_values_iff :
    value ∈ map.values ↔ ∃ key, map.get? key = some value := by
  simp [values, ← mem_entries_iff]

theorem contains_eq_true :
    map.contains key = true ↔ ∃ value, map.get? key = some value := by
  unfold contains
  exact isSome_iff_exists

@[simp] theorem get?_empty (key : κ) : (empty : SortedMap κ α).get? key = none := rfl

theorem get?_insert (map : SortedMap κ α) (key asked : κ) (value : α) :
    (map.insert key value).get? asked = if key = asked then some value else map.get? asked :=
  lookup_insertEntry key asked value map.entries

theorem get?_insertNew (map : SortedMap κ α) (key asked : κ) (value : α) :
    (map.insertNew key value).get? asked =
      if key = asked then some ((map.get? key).getD value) else map.get? asked := by
  unfold insertNew contains
  cases h : map.get? key with
  | some held =>
      by_cases hkey : key = asked
      · simp [← hkey, h]
      · simp [hkey]
  | none => simp [get?_insert]

theorem get?_push (map : SortedMap κ (List α)) (key asked : κ) (item : α) :
    (map.push key item).get? asked =
      if key = asked then some ((map.get? key).getD [] ++ [item]) else map.get? asked :=
  get?_insert map key asked _

theorem get?_filterMap (f : κ → α → Option β) (map : SortedMap κ α) (key : κ) :
    (map.filterMap f).get? key = (map.get? key).bind (f key) := by
  apply Option.ext
  intro value
  simp only [bind_eq_some_iff]
  simp only [← mem_entries_iff, filterMap, mem_filterMap, map_eq_some_iff,
    Prod.mk.injEq]
  constructor
  · rintro ⟨⟨_, held⟩, hmem, made, hmade, rfl, rfl⟩
    exact ⟨held, hmem, hmade⟩
  · rintro ⟨held, hmem, hmade⟩
    exact ⟨(key, held), hmem, value, hmade, rfl, rfl⟩

/-- Entries taken in one by one: a key finds the last of its own, or what the map
    held before. -/
theorem get?_foldl_insert (entries : List (κ × α)) (map : SortedMap κ α) (key : κ) :
    (entries.foldl (fun map entry => map.insert entry.1 entry.2) map).get? key =
      (lookup key entries.reverse).or (map.get? key) := by
  induction entries generalizing map with
  | nil => simp
  | cons entry rest ih =>
      rw [foldl_cons, ih, get?_insert, reverse_cons]
      simp only [lookup, find?_append, find?_singleton]
      cases rest.reverse.find? fun entry => decide (entry.1 = key) with
      | some _ => simp
      | none => by_cases h : entry.1 = key <;> simp [h]

/-- Where no two of the entries share a key, a key finds exactly its own. -/
theorem get?_ofList (distinct : (entries.map (·.1)).Nodup) :
    (ofList entries).get? key = some value ↔ (key, value) ∈ entries := by
  unfold ofList
  rw [get?_foldl_insert, get?_empty, or_none]
  have reversed : (entries.reverse.map (·.1)).Nodup := by
    rw [map_reverse]
    exact pairwise_reverse.mpr (distinct.imp Ne.symm)
  rw [← mem_reverse]
  exact ⟨mem_of_lookup, lookup_of_mem reversed⟩

/-- The keys held are those of the entries taken in. -/
theorem get?_ofList_exists (h : entry ∈ entries) :
    ∃ value, (ofList entries).get? entry.1 = some value := by
  unfold ofList
  rw [get?_foldl_insert, get?_empty, or_none]
  cases hfound : lookup entry.1 entries.reverse with
  | some value => exact ⟨value, rfl⟩
  | none =>
      unfold lookup at hfound
      rw [map_eq_none_iff, find?_eq_none] at hfound
      exact absurd (by simp) (hfound entry (mem_reverse.mpr h))

theorem mem_of_get?_ofList (h : (ofList entries).get? key = some value) :
    (key, value) ∈ entries := by
  unfold ofList at h
  rw [get?_foldl_insert, get?_empty, or_none] at h
  exact mem_reverse.mp (mem_of_lookup h)

/-- Entries taken in where their key holds nothing yet: what a key holds was there
    before, or is one of them. -/
theorem get?_foldl_insertNew
    (h : (entries.foldl (fun map entry => map.insertNew entry.1 entry.2) map).get? key =
      some value) : map.get? key = some value ∨ (key, value) ∈ entries := by
  induction entries generalizing map with
  | nil => exact .inl h
  | cons entry rest ih =>
      rw [foldl_cons] at h
      rcases ih h with hfirst | hrest
      · rw [get?_insertNew] at hfirst
        by_cases heq : entry.1 = key
        · rw [if_pos heq, some.injEq] at hfirst
          subst heq
          cases hheld : map.get? entry.1 with
          | some held =>
              rw [hheld, getD_some] at hfirst
              exact .inl (congrArg some hfirst)
          | none =>
              rw [hheld, getD_none] at hfirst
              subst hfirst
              exact .inr mem_cons_self
        · rw [if_neg heq] at hfirst
          exact .inl hfirst
      · exact .inr (mem_cons_of_mem _ hrest)

/-- Taking entries in loses no key, and every entry's key is then held. -/
theorem contains_foldl_insertNew (entries : List (κ × α)) (map : SortedMap κ α) (key : κ) :
    (entries.foldl (fun map entry => map.insertNew entry.1 entry.2) map).contains key =
      (map.contains key || entries.any (·.1 = key)) := by
  induction entries generalizing map with
  | nil => simp
  | cons entry rest ih =>
      rw [foldl_cons, ih, any_cons, ← Bool.or_assoc]
      congr 1
      unfold contains
      rw [get?_insertNew]
      by_cases heq : entry.1 = key
      · simp [heq]
      · simp [heq]

/-- Items grouped under their keys: a key holds its own, in order. -/
theorem get?_foldl_push (entries : List (κ × α)) (map : SortedMap κ (List α)) (key : κ) :
    ((entries.foldl (fun map entry => map.push entry.1 entry.2) map).get? key).getD [] =
      (map.get? key).getD [] ++ (entries.filter (·.1 = key)).map (·.2) := by
  induction entries generalizing map with
  | nil => simp
  | cons entry rest ih =>
      rw [foldl_cons, ih, get?_push]
      by_cases heq : entry.1 = key
      · simp [heq]
      · simp [heq]

end SortedMap

end Ordered
