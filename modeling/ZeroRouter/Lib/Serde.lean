import Mathlib.Algebra.Group.Int.Defs
import Mathlib.Algebra.Group.Nat.Defs
import Mathlib.Data.List.Nodup
import ZeroRouter.Json

/-!
# Records as JSON documents

How a derived `Serialize` and `Deserialize` treat a record: each field is a member under its
own key, and a reader looks its keys up and passes over those it does not know.  An absent
`Option` field is `None`, and a field with a default has it where it is absent.  A writer that
did not have a field yet leaves its member out.

The module names no record of any particular program.
-/

namespace ZeroRouter.Serde

open List

variable {α β : Type} {write : α → Value} {read : Value → Option β} {reread : α → β}
  {members : List Member} {item : Option α} {bits : Nat} {value : Value}

/-! ## Writing -/

/-- One member of a record; `written` is whether the writer had the field. -/
structure Member where
  key : String
  value : Value
  written : Bool

/-- What a writer leaves of a record, its keys in order. -/
def object (members : List Member) : Value :=
  .object (((members.filter (·.written)).map fun member => (member.key, member.value)).mergeSort
    fun left right => left.1 ≤ right.1)

/-- `Option<T>`: `None` is `null`. -/
def ofNullable (write : α → Value) : Option α → Value
  | none => .null
  | some item => write item

/-! ## Reading -/

/-- A field that must be there. -/
def required (document : Value) (key : String) (read : Value → Option α) : Option α :=
  (document.get key).bind read

/-- A field with a default. -/
def defaulted (document : Value) (key : String) (fallback : α) (read : Value → Option α) :
    Option α :=
  match document.get key with
  | none => some fallback
  | some value => read value

/-- `Option<T>`: `null` is `None`. -/
def nullable (read : Value → Option α) : Value → Option (Option α)
  | .null => some none
  | value => (read value).map some

/-- A field of an optional type. -/
def optional (document : Value) (key : String) (read : Value → Option α) : Option (Option α) :=
  defaulted document key none (nullable read)

/-- An unsigned integer of so many bits. -/
def readNat (bits : Nat) : Value → Option Nat
  | .integer value => if 0 ≤ value ∧ value < 2 ^ bits then some value.toNat else none
  | _ => none

/-- A signed integer of so many bits. -/
def readInt (bits : Nat) : Value → Option Int
  | .integer value =>
      if -2 ^ (bits - 1) ≤ value ∧ value < 2 ^ (bits - 1) then some value else none
  | _ => none

def readBool : Value → Option Bool
  | .bool value => some value
  | _ => none

def readArray (read : Value → Option α) (value : Value) : Option (List α) :=
  value.asArray.bind (·.mapM read)

/-! ## What was written is read back -/

theorem lookup_cons_eq (key : String) (entry : String × Value) (rest : List (String × Value)) :
    (entry :: rest).lookup key = if entry.1 = key then some entry.2 else rest.lookup key := by
  by_cases h : entry.1 = key
  · rw [lookup_cons, h, beq_self_eq_true, if_pos rfl]
  · rw [lookup_cons, beq_false_of_ne (Ne.symm h), if_neg h]

/-- With no key twice, a lookup does not depend on the order of the entries. -/
theorem lookup_perm {entries others : List (String × Value)} (h : entries.Perm others)
    (distinct : (entries.map Prod.fst).Nodup) (key : String) :
    entries.lookup key = others.lookup key := by
  induction h with
  | nil => rfl
  | cons entry _ ih =>
      rw [map_cons, nodup_cons] at distinct
      rw [lookup_cons_eq, lookup_cons_eq, ih distinct.2]
  | swap left right rest =>
      have apart : right.1 ≠ left.1 := by
        intro same
        simp [same] at distinct
      simp only [lookup_cons_eq]
      by_cases hl : left.1 = key
      · have hr : right.1 ≠ key := hl ▸ apart
        rw [if_neg hr]
        simp [hl]
      · simp [hl]
  | trans h _ ih ih' =>
      rw [ih distinct, ih' ((h.map Prod.fst).nodup_iff.mp distinct)]

/-- What a written member holds is found under its key, and nothing under that of one the
    writer left out. -/
theorem lookup_written (distinct : (members.map Member.key).Nodup) (key : String) :
    ((members.filter (·.written)).map fun member => (member.key, member.value)).lookup key =
      (members.find? (·.key == key)).bind fun member =>
        if member.written then some member.value else none := by
  induction members with
  | nil => rfl
  | cons member rest ih =>
      rw [map_cons, nodup_cons] at distinct
      have ih := ih distinct.2
      by_cases hkey : member.key = key
      · cases hwritten : member.written with
        | true => simp [hkey, hwritten]
        | false =>
            have absent : rest.find? (·.key == key) = none := by
              rw [find?_eq_none]
              intro other hother heq
              apply distinct.1
              rw [hkey, ← beq_iff_eq.mp heq]
              exact mem_map_of_mem hother
            rw [absent] at ih
            simpa [hkey, hwritten] using ih
      · cases hwritten : member.written with
        | true =>
            simpa [hkey, hwritten, lookup_cons_eq] using ih
        | false => simpa [hkey, hwritten] using ih

theorem get_object (distinct : (members.map Member.key).Nodup) (key : String) :
    (object members).get key =
      (members.find? (·.key == key)).bind fun member =>
        if member.written then some member.value else none := by
  rw [← lookup_written distinct]
  refine lookup_perm (mergeSort_perm _ _) ?_ key
  rw [((mergeSort_perm _ _).map Prod.fst).nodup_iff, map_map]
  exact distinct.sublist (filter_sublist.map _)

theorem nullable_ofNullable (plain : ∀ inner, write inner ≠ .null)
    (h : ∀ inner, item = some inner → read (write inner) = some (reread inner)) :
    nullable read (ofNullable write item) = some (item.map reread) := by
  cases item with
  | none => rfl
  | some inner =>
      have hread := h inner rfl
      have hplain := plain inner
      unfold ofNullable nullable
      split
      · contradiction
      · rw [hread]; rfl

theorem readNat_integer {value : Nat} (fits : value < 2 ^ bits) :
    readNat bits (.integer value) = some value := by
  have : (value : Int) < 2 ^ bits := by exact_mod_cast fits
  simp [readNat, this]

theorem readInt_integer {value : Int} (fits : -2 ^ (bits - 1) ≤ value ∧ value < 2 ^ (bits - 1)) :
    readInt bits (.integer value) = some value := if_pos fits

theorem readArray_map {items : List α}
    (h : ∀ item ∈ items, read (write item) = some (reread item)) :
    readArray read (.array (items.map write)) = some (items.map reread) := by
  show (items.map write).mapM read = some (items.map reread)
  induction items with
  | nil => rfl
  | cons item rest ih =>
      have hread := h item mem_cons_self
      have ih := ih fun other hother => h other (mem_cons_of_mem _ hother)
      simp [hread, ih]

/-! ## Fields of a written record -/

section Fields

variable {members : List Member} {key : String} {written : Bool}

/-- A member every writer has. -/
theorem required_object (distinct : (members.map Member.key).Nodup)
    (h : members.find? (·.key == key) = some ⟨key, value, true⟩) (read : Value → Option α) :
    required (object members) key read = read value := by
  simp [required, get_object distinct, h]

theorem defaulted_object (distinct : (members.map Member.key).Nodup)
    (h : members.find? (·.key == key) = some ⟨key, value, written⟩) (fallback : α)
    (read : Value → Option α) :
    defaulted (object members) key fallback read =
      if written then read value else some fallback := by
  cases written <;> simp [defaulted, get_object distinct, h]

/-- An optional member reads as what was written, and as absent where it was left out. -/
theorem optional_object (distinct : (members.map Member.key).Nodup)
    (h : members.find? (·.key == key) = some ⟨key, ofNullable write item, written⟩)
    (plain : ∀ inner, write inner ≠ .null)
    (reads : ∀ inner, item = some inner → read (write inner) = some (reread inner)) :
    optional (object members) key read =
      some (if written then item.map reread else none) := by
  unfold optional
  rw [defaulted_object distinct h, nullable_ofNullable plain reads]
  cases written <;> rfl

end Fields

end ZeroRouter.Serde
