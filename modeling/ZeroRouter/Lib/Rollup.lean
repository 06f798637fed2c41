import ZeroRouter.Lib.Table
import Mathlib.Data.List.Dedup

/-!
# Totals kept beside an append-only log

A rollup keeps one running total a bucket beside a log of events.  `Tallies` says
the totals are the log's: every question a set of buckets can answer is answered
as a scan of the log would answer it.  Accruing each event into its bucket as it
is appended keeps that (`Tallies.upsert`), and filling an empty table with one
grouped sum a bucket establishes it (`tallies_grouped`).

The module names no particular log.
-/

namespace Relational

open List

/-- A derived total: the bucket and the total of its rows, and the bucket and the
    contribution of the events it is derived from. -/
structure Rollup (ρ σ β M : Type) where
  bucketOf : ρ → β
  total : ρ → M
  bucket : σ → β
  amount : σ → M

namespace Rollup

variable {ρ σ β M : Type} (R : Rollup ρ σ β M) {S : Schema ρ} {events : List σ} {t : Table S}

/-- Summing totals over any set of buckets is summing amounts over the events that
    fall in one of them. -/
def Tallies [Zero M] [Add M] (rows : List ρ) (events : List σ) : Prop :=
  ∀ (P : β → Prop) [DecidablePred P],
    sumWhere (fun row => P (R.bucketOf row)) R.total rows =
      sumWhere (fun event => P (R.bucket event)) R.amount events

variable {R}

theorem Tallies.nil [Zero M] [Add M] : R.Tallies ([] : List ρ) ([] : List σ) := by
  intro P _
  rw [sumWhere_nil, sumWhere_nil]

/-- An `INSERT … ON CONFLICT DO UPDATE` that accrues one event into its bucket. -/
theorem Tallies.upsert [AddCommMonoid M] {t' : Table S} {event : σ} {q : ρ → Prop}
    [DecidablePred q] {r : ρ} {merge : ρ → ρ} (tallies : R.Tallies t.rows events)
    (h : t.upsert q r merge = .ok t') (conflicts : ∀ x, q x ↔ R.bucketOf x = R.bucket event)
    (key : ∀ a b, R.bucketOf a = R.bucketOf b → S.clash a b)
    (fresh : R.bucketOf r = R.bucket event ∧ R.total r = R.amount event)
    (merged : ∀ x, R.bucketOf (merge x) = R.bucketOf x ∧
      R.total (merge x) = R.total x + R.amount event) :
    R.Tallies t'.rows (events ++ [event]) := by
  intro P _
  have accrued := Table.sumWhere_upsert (p := fun row => P (R.bucketOf row)) (f := R.total) h
    (fun a b ha hb => key a b (((conflicts a).mp ha).trans ((conflicts b).mp hb).symm))
    (fun x hx => by
      have same : R.bucketOf x = R.bucketOf r := ((conflicts x).mp hx).trans fresh.1.symm
      rw [(merged x).1, same]
      exact ⟨Iff.rfl, Iff.rfl⟩)
    (fun x _ => by rw [(merged x).2, fresh.2])
  rw [accrued, tallies P, fresh.1, fresh.2, sumWhere_append]
  simp

/-! ## Backfill -/

section Backfill

variable [DecidableEq β] [AddCommMonoid M] {bs : List β} {events : List σ}

/-- `SUM(amount) … GROUP BY bucket`, for one bucket. -/
def grouped (R : Rollup ρ σ β M) (events : List σ) (b : β) : M :=
  sumWhere (fun event => R.bucket event = b) R.amount events

/-- The buckets some event falls in, each once. -/
def buckets (R : Rollup ρ σ β M) (events : List σ) : List β := (events.map R.bucket).dedup

/-- Over buckets listed once, an indicator of a listed bucket sums to one term. -/
theorem sum_indicator (distinct : bs.Nodup) {b : β} (listed : b ∈ bs) (x : M) :
    (bs.map fun c => if b = c then x else 0).sum = x := by
  induction bs with
  | nil => cases listed
  | cons c rest ih =>
      obtain ⟨absent, distinct⟩ := nodup_cons.mp distinct
      rw [map_cons, sum_cons]
      by_cases here : b = c
      · subst here
        have zeros : (rest.map fun c => if b = c then x else 0).sum = 0 := by
          apply sum_eq_zero
          intro y hy
          obtain ⟨c, hc, rfl⟩ := mem_map.mp hy
          rw [if_neg]
          rintro rfl
          exact absent hc
        rw [if_pos rfl, zeros, add_zero]
      · rw [if_neg here, zero_add]
        exact ih distinct ((mem_cons.mp listed).resolve_left here)

/-- Grouped sums, over any list of buckets that has every bucket once, partition
    the scan. -/
theorem sum_grouped (distinct : bs.Nodup) (covers : ∀ event ∈ events, R.bucket event ∈ bs)
    (P : β → Prop) [DecidablePred P] :
    (bs.map fun b => if P b then R.grouped events b else 0).sum =
      sumWhere (fun event => P (R.bucket event)) R.amount events := by
  induction events with
  | nil =>
      rw [sumWhere_nil]
      apply sum_eq_zero
      intro x hx
      obtain ⟨b, -, rfl⟩ := mem_map.mp hx
      simp [grouped]
  | cons event rest ih =>
      have rest' := ih fun e he => covers e (mem_cons_of_mem _ he)
      have head := sum_indicator distinct (covers event mem_cons_self)
        (if P (R.bucket event) then R.amount event else 0)
      rw [sumWhere_cons, ← rest', ← head, ← sum_map_add]
      congr 1
      refine map_congr_left fun b _ => ?_
      by_cases here : R.bucket event = b
      · subst here
        by_cases hP : P (R.bucket event) <;> simp [grouped, hP]
      · by_cases hP : P b <;> simp [grouped, hP, here]

/-- Filling a table with one grouped sum a bucket makes it tally. -/
theorem tallies_grouped {row : β → ρ} (hbucket : ∀ b, R.bucketOf (row b) = b)
    (htotal : ∀ b, R.total (row b) = R.grouped events b) :
    R.Tallies ((R.buckets events).map row) events := by
  intro P _
  rw [sumWhere_map]
  simp only [hbucket, htotal]
  rw [← sum_grouped (nodup_dedup _)
    (fun event he => mem_dedup.mpr (mem_map_of_mem he)) P]
  rfl

end Backfill

/-- The totals of one table's row are the sums over its own bucket. -/
theorem Tallies.row [AddCommMonoid M] [DecidableEq β] (tallies : R.Tallies t.rows events)
    (key : ∀ a b, R.bucketOf a = R.bucketOf b → S.clash a b) {row : ρ} (hrow : row ∈ t) :
    R.total row = R.grouped events (R.bucketOf row) := by
  have alone := Table.sumWhere_delete_key (p := fun x => R.bucketOf x = R.bucketOf row)
    (q := fun x => R.bucketOf x = R.bucketOf row) (f := R.total) hrow rfl
    fun a b ha hb => key a b (ha.trans hb.symm)
  rw [sumWhere_eq_zero fun x hx => (Table.mem_deleteWhere.mp hx).2, add_zero, if_pos rfl] at alone
  exact alone.symm.trans (tallies fun b => b = R.bucketOf row)

end Rollup

/-! ## `INSERT … SELECT` -/

namespace Table

variable {ρ : Type} {S : Schema ρ} {t : Table S} {rows : List ρ}

/-- One `INSERT` of many rows: refused as a whole when one of them is. -/
def insertAll (t : Table S) : List ρ → Except Violation (Table S)
  | [] => .ok t
  | r :: rest => do
      let t ← t.insert r
      t.insertAll rest

theorem insertAll_ok {t' : Table S} (h : t.insertAll rows = .ok t') :
    t'.rows = t.rows ++ rows := by
  induction rows generalizing t with
  | nil =>
      cases h
      rw [append_nil]
  | cons r rest ih =>
      obtain ⟨next, hnext, hrest⟩ := bind_eq_ok.mp h
      rw [ih hrest, (insert_ok hnext).1, append_assoc]
      rfl

/-- Rows that satisfy the row constraint and collide with nothing are inserted. -/
theorem insertAll_isOk (checked : ∀ r ∈ rows, S.check r)
    (apart : (t.rows ++ rows).Pairwise fun a b => ¬ S.clash a b) :
    ∃ t', t.insertAll rows = .ok t' := by
  induction rows generalizing t with
  | nil => exact ⟨t, rfl⟩
  | cons r rest ih =>
      have fresh : ∀ x ∈ t.rows, ¬ S.clash x r := fun x hx =>
        (pairwise_append.mp apart).2.2 x hx r mem_cons_self
      obtain ⟨next, hnext⟩ : ∃ next, t.insert r = .ok next := by
        unfold insert
        rw [dif_pos (checked r mem_cons_self), dif_pos fresh]
        exact ⟨_, rfl⟩
      have apart' : (next.rows ++ rest).Pairwise fun a b => ¬ S.clash a b := by
        rw [(insert_ok hnext).1, append_assoc]
        exact apart
      obtain ⟨t', ht'⟩ := ih (fun x hx => checked x (mem_cons_of_mem _ hx)) apart'
      exact ⟨t', bind_eq_ok.mpr ⟨next, hnext, ht'⟩⟩

end Table

end Relational
