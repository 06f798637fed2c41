import Mathlib.Algebra.GroupWithZero.Nat
import Mathlib.Algebra.Order.BigOperators.Group.List

/-!
# Relational tables that carry their declared constraints

A table is the list of its rows in insertion order.  Its schema declares the
`CHECK` constraint every row must satisfy and the `UNIQUE` constraints, as the
pairs of rows that may not stand together.  Both are fields of `Table`, so a
table that violates its own schema cannot be built: `insert` and `updateWhere`
report the violation instead, and `deleteWhere` cannot cause one.

The module names no table of any particular program.
-/

namespace Relational

open List

variable {ρ M : Type}

/-! ## Steps that may be refused -/

section Refusable

variable {ε α β : Type} {b : β}

/-- Go on only if a condition holds. -/
def ensure (c : Prop) [Decidable c] (e : ε) : Except ε Unit := if c then .ok () else .error e

@[simp] theorem ensure_eq_ok {c : Prop} [Decidable c] {e : ε} {u : Unit} :
    ensure c e = .ok u ↔ c := by
  unfold ensure
  split <;> simp [*]

/-- A sequence succeeds exactly when both halves do. -/
theorem bind_eq_ok {x : Except ε α} {f : α → Except ε β} :
    x >>= f = .ok b ↔ ∃ a, x = .ok a ∧ f a = .ok b := by
  cases x with
  | error e => simp [bind, Except.bind]
  | ok a => simp [bind, Except.bind]

theorem map_eq_ok {x : Except ε α} {f : α → β} :
    x.map f = .ok b ↔ ∃ a, x = .ok a ∧ f a = b := by
  cases x <;> simp [Except.map]

/-- A check run over every item, up to the first it refuses. -/
def checkAll (check : α → Except ε Unit) : List α → Except ε Unit
  | [] => .ok ()
  | a :: rest => do
      check a
      checkAll check rest

@[simp] theorem checkAll_eq_ok {check : α → Except ε Unit} {items : List α} {u : Unit} :
    checkAll check items = .ok u ↔ ∀ a ∈ items, check a = .ok () := by
  induction items with
  | nil => simp [checkAll]
  | cons a rest ih =>
      simp only [checkAll, bind_eq_ok, mem_cons, forall_eq_or_imp]
      constructor
      · rintro ⟨⟨⟩, ha, hrest⟩
        exact ⟨ha, ih.mp hrest⟩
      · rintro ⟨ha, hrest⟩
        exact ⟨(), ha, ih.mpr hrest⟩

/-- A reflexive and transitive relation that every step of a loop makes, the whole
    loop makes. -/
theorem foldlM_relate {R : β → β → Prop} {f : β → α → Except ε β} {items : List α} {b' : β}
    (refl : ∀ b, R b b) (trans : ∀ a b c, R a b → R b c → R a c)
    (makes : ∀ b a b', f b a = .ok b' → R b b') (h : items.foldlM f b = .ok b') : R b b' := by
  induction items generalizing b with
  | nil =>
      cases h
      exact refl _
  | cons a rest ih =>
      rw [foldlM_cons, bind_eq_ok] at h
      obtain ⟨next, first, later⟩ := h
      exact trans _ _ _ (makes _ _ _ first) (ih later)

end Refusable

/-! ## Schemas and tables -/

/-- What a `CREATE TABLE` declares: the row constraint, and which two rows
    collide on some unique key. -/
structure Schema (ρ : Type) where
  check : ρ → Prop
  clash : ρ → ρ → Prop
  clash_symm : ∀ a b, clash a b → clash b a
  decCheck : DecidablePred check
  decClash : DecidableRel clash

instance (S : Schema ρ) : DecidablePred S.check := S.decCheck
instance (S : Schema ρ) : DecidableRel S.clash := S.decClash

/-- A table whose one unique key is `key`. -/
def Schema.keyed {κ : Type} [DecidableEq κ] (key : ρ → κ) (check : ρ → Prop)
    [DecidablePred check] : Schema ρ where
  check := check
  clash a b := key a = key b
  clash_symm _ _ h := h.symm
  decCheck := inferInstance
  decClash := fun _ _ => inferInstanceAs (Decidable (_ = _))

/-- A table's rows, in insertion order, with the evidence that the schema's
    constraints hold of them. -/
structure Table (S : Schema ρ) where
  rows : List ρ
  checked : ∀ r ∈ rows, S.check r
  distinct : rows.Pairwise fun a b => ¬ S.clash a b

/-- Why a write was refused. -/
inductive Violation where
  | check
  | unique
  deriving DecidableEq, Repr

/-- `SUM(f) FILTER (WHERE p)`; the sum over no rows is `0`, as under `COALESCE`. -/
def sumWhere [Zero M] [Add M] (p : ρ → Prop) [DecidablePred p] (f : ρ → M) (rows : List ρ) : M :=
  (rows.map fun r => if p r then f r else 0).sum

/-- `COUNT(*) FILTER (WHERE p)`. -/
def countWhere (p : ρ → Prop) [DecidablePred p] (rows : List ρ) : Nat :=
  rows.countP fun r => p r

namespace Table

variable {S : Schema ρ} {t t' : Table S} {p : ρ → Prop} {r x : ρ} {f : ρ → ρ}

instance : Membership ρ (Table S) := ⟨fun t r => r ∈ t.rows⟩

theorem mem_def : r ∈ t ↔ r ∈ t.rows := Iff.rfl

instance {t : Table S} (p : ρ → Prop) [DecidablePred p] : Decidable (∃ r ∈ t, p r) :=
  inferInstanceAs (Decidable (∃ r ∈ t.rows, p r))

instance {t : Table S} (p : ρ → Prop) [DecidablePred p] : Decidable (∀ r ∈ t, p r) :=
  inferInstanceAs (Decidable (∀ r ∈ t.rows, p r))

/-- The table as `CREATE TABLE` leaves it. -/
def empty : Table S where
  rows := []
  checked := by simp
  distinct := .nil

@[simp] theorem rows_empty : (empty : Table S).rows = [] := rfl

/-- `INSERT`: the new row goes last, unless a constraint refuses it. -/
def insert (t : Table S) (r : ρ) : Except Violation (Table S) :=
  if hc : S.check r then
    if hu : ∀ x ∈ t.rows, ¬ S.clash x r then
      .ok
        { rows := t.rows ++ [r]
          checked := by
            intro x hx
            rcases List.mem_append.mp hx with hx | hx
            · exact t.checked x hx
            · rw [List.mem_singleton.mp hx]
              exact hc
          distinct := by
            refine List.pairwise_append.mpr ⟨t.distinct, List.pairwise_singleton _ _, ?_⟩
            intro a ha b hb
            rw [List.mem_singleton.mp hb]
            exact hu a ha }
    else .error .unique
  else .error .check

/-- `DELETE WHERE p`. -/
def deleteWhere (t : Table S) (p : ρ → Prop) [DecidablePred p] : Table S where
  rows := t.rows.filter fun r => ¬ p r
  checked r hr := t.checked r (List.mem_filter.mp hr).1
  distinct := t.distinct.filter _

/-- What `UPDATE SET f WHERE p` makes of one row. -/
def rewrite (p : ρ → Prop) [DecidablePred p] (f : ρ → ρ) (r : ρ) : ρ := if p r then f r else r

/-- `UPDATE SET f WHERE p`: refused as a whole when a rewritten row breaks a
    constraint. -/
def updateWhere (t : Table S) (p : ρ → Prop) [DecidablePred p] (f : ρ → ρ) :
    Except Violation (Table S) :=
  if hc : ∀ r ∈ t.rows.map (rewrite p f), S.check r then
    if hu : (t.rows.map (rewrite p f)).Pairwise fun a b => ¬ S.clash a b then
      .ok { rows := t.rows.map (rewrite p f), checked := hc, distinct := hu }
    else .error .unique
  else .error .check

/-- `INSERT r ON CONFLICT DO UPDATE SET merge`, where `p` says which rows conflict. -/
def upsert (t : Table S) (p : ρ → Prop) [DecidablePred p] (r : ρ) (merge : ρ → ρ) :
    Except Violation (Table S) :=
  if ∃ x ∈ t.rows, p x then t.updateWhere p merge else t.insert r

/-- `SELECT * WHERE p`, when at most one row is wanted. -/
def find (t : Table S) (p : ρ → Prop) [DecidablePred p] : Option ρ := t.rows.find? fun r => p r

/-! ## What a successful write did -/

theorem insert_ok (h : t.insert r = .ok t') :
    t'.rows = t.rows ++ [r] ∧ S.check r ∧ ∀ x ∈ t.rows, ¬ S.clash x r := by
  unfold insert at h
  split at h
  · next hc =>
      split at h
      · next hu =>
          cases h
          exact ⟨rfl, hc, hu⟩
      · simp at h
  · simp at h

theorem mem_insert (h : t.insert r = .ok t') :
    x ∈ t' ↔ x ∈ t ∨ x = r := by
  rw [mem_def, (insert_ok h).1]
  simp [mem_def]

/-- An insert that meets no constraint is never refused. -/
theorem insert_isOk (hc : S.check r) (hu : ∀ x ∈ t, ¬ S.clash x r) :
    ∃ t', t.insert r = .ok t' := by
  have apart : ∀ x ∈ t.rows, ¬ S.clash x r := hu
  unfold insert
  rw [dif_pos hc, dif_pos apart]
  exact ⟨_, rfl⟩

@[simp] theorem rows_deleteWhere (t : Table S) (p : ρ → Prop) [DecidablePred p] :
    (t.deleteWhere p).rows = t.rows.filter fun r => ¬ p r := rfl

theorem mem_deleteWhere [DecidablePred p] :
    x ∈ t.deleteWhere p ↔ x ∈ t ∧ ¬ p x := by
  simp [mem_def]

theorem updateWhere_ok [DecidablePred p] (h : t.updateWhere p f = .ok t') :
    t'.rows = t.rows.map (rewrite p f) := by
  unfold updateWhere at h
  split at h
  · split at h
    · cases h
      rfl
    · simp at h
  · simp at h

theorem mem_updateWhere [DecidablePred p] (h : t.updateWhere p f = .ok t') :
    x ∈ t' ↔ ∃ r ∈ t, rewrite p f r = x := by
  rw [mem_def, updateWhere_ok h]
  simp [mem_def]

/-- An update that keeps every row inside the row constraint and moves no
    unique key is never refused. -/
theorem updateWhere_isOk [DecidablePred p] (hc : ∀ r ∈ t, p r → S.check (f r))
    (hu : ∀ a b, S.clash (rewrite p f a) (rewrite p f b) → S.clash a b) :
    ∃ t', t.updateWhere p f = .ok t' := by
  have checked : ∀ r ∈ t.rows.map (rewrite p f), S.check r := by
    intro r hr
    obtain ⟨x, hx, rfl⟩ := mem_map.mp hr
    unfold rewrite
    split
    · next hp => exact hc x hx hp
    · exact t.checked x hx
  have distinct : (t.rows.map (rewrite p f)).Pairwise fun a b => ¬ S.clash a b :=
    pairwise_map.mpr (t.distinct.imp fun hab hclash => hab (hu _ _ hclash))
  refine ⟨⟨t.rows.map (rewrite p f), checked, distinct⟩, ?_⟩
  unfold updateWhere
  rw [dif_pos checked, dif_pos distinct]

theorem find_some [DecidablePred p] (h : t.find p = some r) : r ∈ t ∧ p r := by
  have hp := find?_some h
  exact ⟨mem_of_find?_eq_some h, by simpa using hp⟩

theorem find_none [DecidablePred p] (h : t.find p = none) : ∀ r ∈ t, ¬ p r := by
  intro r hr
  simpa using find?_eq_none.mp h r hr

/-- A lookup that an update leaves alone finds the row as updated. -/
theorem find_updateWhere {q : ρ → Prop} [DecidablePred p] [DecidablePred q]
    (h : t.updateWhere p f = .ok t') (key : ∀ r, q (rewrite p f r) ↔ q r) :
    t'.find q = (t.find q).map (rewrite p f) := by
  unfold find
  rw [updateWhere_ok h, find?_map]
  have same : ((fun r => decide (q r)) ∘ rewrite p f) = fun r => decide (q r) := by
    funext r
    simp [key r]
  rw [same]

/-- Two rows of one table that collide are the same row. -/
theorem eq_of_clash {a b : ρ} (ha : a ∈ t) (hb : b ∈ t) (h : S.clash a b) :
    a = b := by
  obtain ⟨i, hi, rfl⟩ := getElem_of_mem ha
  obtain ⟨j, hj, rfl⟩ := getElem_of_mem hb
  have apart := pairwise_iff_getElem.mp t.distinct
  rcases Nat.lt_trichotomy i j with hij | rfl | hij
  · exact absurd h (apart i j hi hj hij)
  · rfl
  · exact absurd (S.clash_symm _ _ h) (apart j i hj hi hij)

/-- A key lookup finds the row that bears the key. -/
theorem find_of_mem [DecidablePred p] (hr : r ∈ t) (hp : p r)
    (key : ∀ a b, p a → p b → S.clash a b) : t.find p = some r := by
  cases found : t.find p with
  | none => exact absurd hp (find_none found r hr)
  | some other =>
      obtain ⟨hother, hpOther⟩ := find_some found
      rw [eq_of_clash hother hr (key other r hpOther hp)]

/-- A predicate whose rows all collide singles out one row of a table. -/
theorem rows_split_key {q : ρ → Prop} (hr : r ∈ t) (hq : q r)
    (key : ∀ a b, q a → q b → S.clash a b) :
    ∃ before after, t.rows = before ++ r :: after ∧
      (∀ x ∈ before, ¬ q x) ∧ ∀ x ∈ after, ¬ q x := by
  obtain ⟨before, after, hrows⟩ := append_of_mem hr
  have apart := t.distinct
  rw [hrows, pairwise_append, pairwise_cons] at apart
  obtain ⟨-, ⟨hafter, -⟩, hbefore⟩ := apart
  exact ⟨before, after, hrows,
    fun x hx hxq => hbefore x hx r mem_cons_self (key x r hxq hq),
    fun x hx hxq => hafter x hx (key r x hq hxq)⟩

/-- At most one row satisfies a predicate whose rows all collide. -/
theorem countWhere_le_one (t : Table S) (p : ρ → Prop) [DecidablePred p]
    (key : ∀ a b, p a → p b → S.clash a b) : countWhere p t.rows ≤ 1 := by
  unfold countWhere
  generalize t.rows = rows, t.distinct = apart
  induction rows with
  | nil => simp
  | cons r rest ih =>
      rw [pairwise_cons] at apart
      rw [countP_cons]
      by_cases hr : p r
      · have none : rest.countP (fun x => decide (p x)) = 0 := by
          rw [countP_eq_zero]
          intro x hx
          simpa using fun hxp => apart.1 x hx (key r x hr hxp)
        simp [none, hr]
      · simpa [hr] using ih apart.2

end Table

/-! ## Aggregates -/

section Aggregates

variable {p q : ρ → Prop} [DecidablePred p] [DecidablePred q]

@[simp] theorem sumWhere_nil [Zero M] [Add M] (f : ρ → M) : sumWhere p f [] = 0 := rfl

@[simp] theorem sumWhere_cons [Zero M] [Add M] (f : ρ → M) (r : ρ) (rows : List ρ) :
    sumWhere p f (r :: rows) = (if p r then f r else 0) + sumWhere p f rows := rfl

theorem sumWhere_append [AddMonoid M] (f : ρ → M) (xs ys : List ρ) :
    sumWhere p f (xs ++ ys) = sumWhere p f xs + sumWhere p f ys := by
  simp [sumWhere]

/-- Two aggregates agree when each row contributes the same to both. -/
theorem sumWhere_ext [Zero M] [Add M] {f g : ρ → M} {rows : List ρ}
    (h : ∀ r ∈ rows, (if p r then f r else 0) = if q r then g r else 0) :
    sumWhere p f rows = sumWhere q g rows := by
  unfold sumWhere
  rw [map_congr_left h]

/-- A count is a sum of ones. -/
theorem countWhere_eq_sumWhere (rows : List ρ) :
    countWhere p rows = sumWhere p (fun _ => 1) rows := by
  induction rows with
  | nil => rfl
  | cons r rest ih =>
      unfold countWhere at ih ⊢
      rw [countP_cons, sumWhere_cons, ih, add_comm]
      by_cases hp : p r <;> simp [hp]

/-- An aggregate is the sum over the rows its predicate selects. -/
theorem sumWhere_eq_sum_filter [AddMonoid M] (f : ρ → M) (rows : List ρ) :
    sumWhere p f rows = ((rows.filter fun r => p r).map f).sum := by
  induction rows with
  | nil => rfl
  | cons r rest ih =>
      rw [sumWhere_cons, ih]
      by_cases hp : p r <;> simp [hp]

/-- An aggregate reads only the predicate and the column on the rows it sees. -/
theorem sumWhere_congr [Zero M] [Add M] {f g : ρ → M} {rows : List ρ}
    (hp : ∀ r ∈ rows, (p r ↔ q r)) (hf : ∀ r ∈ rows, p r → f r = g r) :
    sumWhere p f rows = sumWhere q g rows := by
  refine sumWhere_ext fun r hr => ?_
  by_cases h : p r
  · simp [h, (hp r hr).mp h, hf r hr h]
  · have hq : ¬ q r := fun hq => h ((hp r hr).mpr hq)
    simp [h, hq]

theorem sumWhere_map [Zero M] [Add M] {σ : Type} (g : σ → ρ) (f : ρ → M) (rows : List σ) :
    sumWhere p f (rows.map g) = sumWhere (fun r => p (g r)) (fun r => f (g r)) rows := by
  simp [sumWhere, Function.comp_def]

/-- The rows a deletion takes and the rows it leaves split every aggregate. -/
theorem sumWhere_split [AddCommMonoid M] (f : ρ → M) (rows : List ρ) :
    sumWhere p f rows =
      sumWhere (fun r => p r ∧ q r) f rows + sumWhere p f (rows.filter fun r => ¬ q r) := by
  induction rows with
  | nil => simp
  | cons r rest ih =>
      by_cases hq : q r
      · by_cases hp : p r <;> simp [hq, hp, ih, add_assoc]
      · by_cases hp : p r <;> simp [hq, hp, ih, add_left_comm]

/-- An aggregate over the rows of a kind and the rest. -/
theorem sumWhere_and_not [AddCommMonoid M] (f : ρ → M) (rows : List ρ) :
    sumWhere p f rows =
      sumWhere (fun r => p r ∧ q r) f rows + sumWhere (fun r => p r ∧ ¬ q r) f rows := by
  rw [sumWhere_split (q := q) f rows]
  congr 1
  rw [sumWhere_eq_sum_filter, sumWhere_eq_sum_filter, filter_filter]
  congr 2
  exact filter_congr fun r _ => (Bool.decide_and _ _).symm

theorem sumWhere_zero_terms [AddMonoid M] {f : ρ → M} {rows : List ρ}
    (h : ∀ r ∈ rows, p r → f r = 0) : sumWhere p f rows = 0 := by
  induction rows with
  | nil => rfl
  | cons r rest ih =>
      have head : (if p r then f r else 0) = 0 := by
        split
        · next hp => exact h r mem_cons_self hp
        · rfl
      rw [sumWhere_cons, head, zero_add]
      exact ih fun x hx => h x (mem_cons_of_mem _ hx)

theorem sumWhere_eq_zero [AddMonoid M] {f : ρ → M} {rows : List ρ} (h : ∀ r ∈ rows, ¬ p r) :
    sumWhere p f rows = 0 :=
  sumWhere_zero_terms fun r hr hp => absurd hp (h r hr)

section Ordered

variable [AddCommMonoid M] [PartialOrder M] [IsOrderedAddMonoid M]

theorem sumWhere_nonneg {f : ρ → M} {rows : List ρ} (h : ∀ r ∈ rows, p r → 0 ≤ f r) :
    0 ≤ sumWhere p f rows := by
  induction rows with
  | nil => exact le_refl _
  | cons r rest ih =>
      rw [sumWhere_cons]
      refine add_nonneg ?_ (ih fun x hx => h x (mem_cons_of_mem _ hx))
      split
      · next hp => exact h r mem_cons_self hp
      · exact le_refl _

/-- Widening the predicate and raising the column can only raise the sum. -/
theorem sumWhere_le_sumWhere {f g : ρ → M} {rows : List ρ} (hpq : ∀ r ∈ rows, p r → q r)
    (hfg : ∀ r ∈ rows, p r → f r ≤ g r) (hg : ∀ r ∈ rows, q r → 0 ≤ g r) :
    sumWhere p f rows ≤ sumWhere q g rows := by
  induction rows with
  | nil => exact le_refl _
  | cons r rest ih =>
      rw [sumWhere_cons, sumWhere_cons]
      refine add_le_add ?_ (ih (fun x hx => hpq x (mem_cons_of_mem _ hx))
        (fun x hx => hfg x (mem_cons_of_mem _ hx))
        fun x hx => hg x (mem_cons_of_mem _ hx))
      by_cases hp : p r
      · simpa [hp, hpq r mem_cons_self hp] using hfg r mem_cons_self hp
      · by_cases hq : q r
        · simpa [hp, hq] using hg r mem_cons_self hq
        · simp [hp, hq]

/-- Dropping rows can only lower a sum of nonnegative terms. -/
theorem sumWhere_sublist_le {f : ρ → M} {xs ys : List ρ} (h : xs.Sublist ys)
    (nonneg : ∀ r ∈ ys, p r → 0 ≤ f r) : sumWhere p f xs ≤ sumWhere p f ys := by
  induction h with
  | slnil => exact le_refl _
  | cons r _ ih =>
      have rest := ih fun x hx => nonneg x (mem_cons_of_mem _ hx)
      rw [sumWhere_cons]
      refine rest.trans (le_add_of_nonneg_left ?_)
      split
      · next hp => exact nonneg r mem_cons_self hp
      · exact le_refl _
  | cons_cons r _ ih =>
      rw [sumWhere_cons, sumWhere_cons]
      have rest := ih fun x hx => nonneg x (mem_cons_of_mem _ hx)
      exact add_le_add (le_refl _) rest

/-- Rows rewritten one by one, none of which contributes more than before. -/
theorem sumWhere_le_of_forall₂ {R : ρ → ρ → Prop} {f g : ρ → M} {xs ys : List ρ}
    (h : List.Forall₂ R xs ys)
    (contribution : ∀ x ∈ xs, ∀ y, R x y →
      (if q y then g y else 0) ≤ if p x then f x else 0) :
    sumWhere q g ys ≤ sumWhere p f xs := by
  induction h with
  | nil => exact le_refl _
  | cons hxy _ ih =>
      rw [sumWhere_cons, sumWhere_cons]
      have rest := ih fun x hx => contribution x (mem_cons_of_mem _ hx)
      exact add_le_add (contribution _ mem_cons_self _ hxy) rest

end Ordered

variable {S : Schema ρ}

theorem Table.map_rewrite_eq_self {g : ρ → ρ} {rows : List ρ} (h : ∀ x ∈ rows, ¬ q x) :
    rows.map (Table.rewrite q g) = rows := by
  conv_rhs => rw [← map_id rows]
  exact map_congr_left fun x hx => if_neg (h x hx)

/-- The sum over the one row that bears a key. -/
theorem Table.sumWhere_key [AddMonoid M] {t : Table S} {f : ρ → M} {r : ρ} (hr : r ∈ t) (hq : q r)
    (key : ∀ a b, q a → q b → S.clash a b) : sumWhere q f t.rows = f r := by
  obtain ⟨before, after, hrows, hbefore, hafter⟩ := rows_split_key hr hq key
  rw [hrows, sumWhere_append, sumWhere_cons, sumWhere_eq_zero hbefore, sumWhere_eq_zero hafter,
    if_pos hq, zero_add, add_zero]

/-- Deleting by a unique key takes exactly the one row it names out of every
    aggregate. -/
theorem Table.sumWhere_delete_key [AddCommMonoid M] {t : Table S} {f : ρ → M} {r : ρ}
    (hr : r ∈ t) (hq : q r) (key : ∀ a b, q a → q b → S.clash a b) :
    sumWhere p f t.rows =
      (if p r then f r else 0) + sumWhere p f (t.deleteWhere q).rows := by
  rw [sumWhere_split (q := q) f t.rows, Table.rows_deleteWhere]
  congr 1
  obtain ⟨before, after, hrows, hbefore, hafter⟩ := Table.rows_split_key hr hq key
  rw [hrows, sumWhere_append, sumWhere_cons,
    sumWhere_eq_zero fun x hx hpq => hbefore x hx hpq.2,
    sumWhere_eq_zero fun x hx hpq => hafter x hx hpq.2]
  simp [hq]

/-- An accruing upsert adds the new row to every aggregate that cannot tell the
    rows it conflicts with from it. -/
theorem Table.sumWhere_upsert [AddCommMonoid M] {t t' : Table S} {f : ρ → M} {r : ρ}
    {merge : ρ → ρ} (h : t.upsert q r merge = .ok t')
    (key : ∀ a b, q a → q b → S.clash a b)
    (same : ∀ x, q x → (p (merge x) ↔ p r) ∧ (p x ↔ p r))
    (accrues : ∀ x, q x → f (merge x) = f x + f r) :
    sumWhere p f t'.rows = sumWhere p f t.rows + if p r then f r else 0 := by
  unfold Table.upsert at h
  split at h
  · next conflict =>
      obtain ⟨x, hx, hq⟩ := conflict
      obtain ⟨before, after, hrows, hbefore, hafter⟩ := Table.rows_split_key hx hq key
      rw [Table.updateWhere_ok h, hrows, map_append, map_cons,
        Table.map_rewrite_eq_self hbefore, Table.map_rewrite_eq_self hafter,
        Table.rewrite, if_pos hq, sumWhere_append, sumWhere_append, sumWhere_cons, sumWhere_cons]
      by_cases hp : p r
      · simp [hp, (same x hq).1, (same x hq).2, accrues x hq, add_assoc, add_comm, add_left_comm]
      · simp [hp, (same x hq).1, (same x hq).2]
  · rw [(Table.insert_ok h).1, sumWhere_append]
    simp

end Aggregates

end Relational
