import ZeroRouter.Proofs.Periods

/-!
# Usage after enrolment is taxed in exactly one period

A tax is frozen once and debited once, with the ledger row it is; with the spans
that gives what the user's periods are to the user's ledger, in every state sweeps,
settlements and failures reach.
-/

namespace ZeroRouter

open List Relational Table

namespace Redemption

namespace Periods

variable {initial : Decimal} {s s' : State} {periods : Table periodsTable} {now : Timestamp}
  {taxUsd : Decimal} {target : Period} {a : Action}

/-! ## Collection -/

/-- The stamps of a collected period, and the ledger row that took what it says. -/
def Period.IsDebited (ledger : List LedgerRow) (period : Period) : Prop :=
  ∃ tax collected, period.taxUsd = some tax ∧ period.collectedUsd = some collected ∧
    period.shortfallUsd = some (tax - collected) ∧
    (period.collectionLedgerId ≠ none ↔ 0 < collected) ∧
    ∀ id ∈ period.collectionLedgerId,
      { id, entryType := .tax, amountUsd := -collected } ∈ ledger

/-- No trace of a collection yet. -/
def Period.IsUncollected (period : Period) : Prop :=
  period.collectedUsd = none ∧ period.shortfallUsd = none ∧ period.collectionLedgerId = none

structure Collected (s : State) : Prop where
  uncollected : ∀ period ∈ s.periods, period.debitedAt = none → Period.IsUncollected period
  debited : ∀ period ∈ s.periods, period.debitedAt ≠ none → Period.IsDebited s.ledger period
  taxRows : ∀ row ∈ s.ledger, row.entryType = .tax →
    ∃ period ∈ s.periods, period.collectionLedgerId = some row.id
  apart : ∀ a ∈ s.periods, ∀ b ∈ s.periods, ∀ id, a.collectionLedgerId = some id →
    b.collectionLedgerId = some id → a = b
  lock : ∀ id tax, s.lock = some (.collectingTax id tax) →
    ∃ period ∈ s.periods, period.id = id ∧ period.debitedAt = none ∧ period.taxUsd = some tax

theorem Period.IsDebited.mono {ledger ledger' : List LedgerRow} {period : Period}
    (h : Period.IsDebited ledger period) (grows : ∀ row ∈ ledger, row ∈ ledger') :
    Period.IsDebited ledger' period := by
  obtain ⟨tax, collected, htax, hcollected, shortfall, iff, row⟩ := h
  exact ⟨tax, collected, htax, hcollected, shortfall, iff, fun id hid => grows _ (row id hid)⟩

theorem Collected.opening (h : s.Opening) : Collected s := by
  constructor
  · rw [h.noPeriods]
    intro period hperiod
    cases hperiod
  · rw [h.noPeriods]
    intro period hperiod
    cases hperiod
  · exact fun row hrow tax => absurd tax (h.noTax row hrow)
  · rw [h.noPeriods]
    intro period hperiod
    cases hperiod
  · rw [h.unlocked]
    intro id tax held
    cases held

/-! ### Steps -/

/-- The periods stay, and the ledger gains nothing that is a tax. -/
theorem Collected.quiet (collected : Collected s) (periods : s'.periods = s.periods)
    (grows : ∀ row ∈ s.ledger, row ∈ s'.ledger)
    (noTax : ∀ row ∈ s'.ledger, row.entryType = .tax → row ∈ s.ledger)
    (lock : ∀ id tax, s'.lock = some (.collectingTax id tax) →
      ∃ period ∈ s.periods, period.id = id ∧ period.debitedAt = none ∧
        period.taxUsd = some tax) : Collected s' := by
  constructor
  · rw [periods]
    exact collected.uncollected
  · rw [periods]
    exact fun period hperiod stamped => (collected.debited period hperiod stamped).mono grows
  · rw [periods]
    exact fun row hrow tax => collected.taxRows row (noTax row hrow tax) tax
  · rw [periods]
    exact collected.apart
  · rw [periods]
    exact lock

/-- What pricing does to a period: nothing of a collection, and nothing once there is
    a tax. -/
structure Repriced (old new : Period) : Prop where
  id : new.id = old.id
  toSpan : new.toSpan = old.toSpan
  debitedAt : new.debitedAt = old.debitedAt
  collectedUsd : new.collectedUsd = old.collectedUsd
  shortfallUsd : new.shortfallUsd = old.shortfallUsd
  collectionLedgerId : new.collectionLedgerId = old.collectionLedgerId
  frozen : old.taxUsd ≠ none → new = old

theorem rewrite_price (period : Period) (id : Uuid) (calculation : Option Calculation) :
    Repriced period (rewrite (fun period : Period => period.isUnpriced id)
      (fun period : Period => period.price calculation) period) := by
  unfold rewrite
  split
  · next unpriced =>
      show Repriced period (period.price calculation)
      unfold Period.price
      split
      · exact ⟨rfl, rfl, rfl, rfl, rfl, rfl, fun priced => absurd unpriced.2 priced⟩
      · split <;> exact ⟨rfl, rfl, rfl, rfl, rfl, rfl, fun priced => absurd unpriced.2 priced⟩
  · exact ⟨rfl, rfl, rfl, rfl, rfl, rfl, fun _ => rfl⟩

section Priced

variable {id : Uuid} {calculation : Option Calculation} {periods : Table periodsTable}
  (wrote : s.periods.updateWhere (fun period => period.isUnpriced id)
    (fun period => period.price calculation) = .ok periods)

include wrote

theorem priced_old {new : Period} (h : new ∈ periods) : ∃ old ∈ s.periods, Repriced old new := by
  obtain ⟨old, hold, rfl⟩ := (mem_updateWhere wrote).mp h
  exact ⟨old, hold, rewrite_price old id calculation⟩

theorem priced_new {old : Period} (h : old ∈ s.periods) : ∃ new ∈ periods, Repriced old new :=
  ⟨_, (mem_updateWhere wrote).mpr ⟨old, h, rfl⟩, rewrite_price old id calculation⟩

/-- Pricing touches unpriced periods alone, which nothing has collected. -/
theorem Collected.priced (collected : Collected s) : Collected { s with periods } := by
  constructor
  · intro new hnew stamped
    obtain ⟨old, hold, repriced⟩ := priced_old wrote hnew
    rw [repriced.debitedAt] at stamped
    obtain ⟨noTake, noShort, noRow⟩ := collected.uncollected old hold stamped
    exact ⟨repriced.collectedUsd.trans noTake, repriced.shortfallUsd.trans noShort,
      repriced.collectionLedgerId.trans noRow⟩
  · intro new hnew stamped
    obtain ⟨old, hold, repriced⟩ := priced_old wrote hnew
    rw [repriced.debitedAt] at stamped
    have before := collected.debited old hold stamped
    have hasTax : old.taxUsd ≠ none := by
      obtain ⟨tax, -, htax, -⟩ := before
      simp [htax]
    rw [repriced.frozen hasTax]
    exact before
  · intro row hrow tax
    obtain ⟨old, hold, points⟩ := collected.taxRows row hrow tax
    obtain ⟨new, hnew, repriced⟩ := priced_new wrote hold
    exact ⟨new, hnew, repriced.collectionLedgerId.trans points⟩
  · intro a ha b hb ledgerId pointsA pointsB
    obtain ⟨oldA, holdA, repricedA⟩ := priced_old wrote ha
    obtain ⟨oldB, holdB, repricedB⟩ := priced_old wrote hb
    rw [repricedA.collectionLedgerId] at pointsA
    rw [repricedB.collectionLedgerId] at pointsB
    have same := collected.apart oldA holdA oldB holdB ledgerId pointsA pointsB
    exact eq_of_clash ha hb (.inl (by rw [repricedA.id, repricedB.id, same]))
  · intro other tax held
    obtain ⟨old, hold, same, undebited, htax⟩ := collected.lock other tax held
    obtain ⟨new, hnew, repriced⟩ := priced_new wrote hold
    rw [repriced.frozen (by simp [htax])] at hnew
    exact ⟨old, hnew, same, undebited, htax⟩

end Priced

/-- A period is opened with no trace of a collection. -/
theorem Collected.opened (collected : Collected s) {id : Uuid} {cursor through : Nat}
    {exemptRemainingUsd usageUsd : Decimal}
    (inserted : s.periods.insert (newPeriod id cursor through exemptRemainingUsd usageUsd) =
      .ok periods) (exempt : Decimal) :
    Collected { s with exemptRemainingUsd := exempt, periods, lock := none } := by
  have mem : ∀ period, period ∈ periods ↔ period ∈ s.periods ∨
      period = newPeriod id cursor through exemptRemainingUsd usageUsd :=
    fun period => mem_insert inserted
  constructor
  · intro period hperiod stamped
    rcases (mem period).mp hperiod with before | rfl
    · exact collected.uncollected period before stamped
    · exact ⟨rfl, rfl, rfl⟩
  · intro period hperiod stamped
    rcases (mem period).mp hperiod with before | rfl
    · exact collected.debited period before stamped
    · exact absurd rfl stamped
  · intro row hrow tax
    obtain ⟨period, hperiod, same⟩ := collected.taxRows row hrow tax
    exact ⟨period, (mem period).mpr (.inl hperiod), same⟩
  · intro a ha b hb ledgerId sameA sameB
    rcases (mem a).mp ha with beforeA | rfl
    · rcases (mem b).mp hb with beforeB | rfl
      · exact collected.apart a beforeA b beforeB ledgerId sameA sameB
      · cases sameB
    · cases sameA
  · intro other tax held
    cases held

/-- A collection rewrites one period. -/
theorem mem_collect {taken : Decimal} {ledgerId : Nat} (htarget : target ∈ s.periods)
    (written : s.periods.updateWhere (fun period => period.id = target.id)
      (fun period => period.collect now taxUsd taken ledgerId) = .ok periods) (period : Period) :
    period ∈ periods ↔ period = target.collect now taxUsd taken ledgerId ∨
      (period ∈ s.periods ∧ period.id ≠ target.id) := by
  rw [mem_updateWhere written]
  constructor
  · rintro ⟨old, hold, rfl⟩
    by_cases same : old.id = target.id
    · have one : old = target := eq_of_clash hold htarget (.inl same)
      subst one
      exact .inl (if_pos rfl)
    · refine .inr ?_
      have kept : rewrite (fun period : Period => period.id = target.id)
          (fun period => period.collect now taxUsd taken ledgerId) old = old := if_neg same
      rw [kept]
      exact ⟨hold, same⟩
  · rintro (rfl | ⟨hold, apart⟩)
    · exact ⟨target, htarget, if_pos rfl⟩
    · exact ⟨period, hold, if_neg apart⟩

/-- A collection stamps its period, and its ledger row comes with it. -/
theorem Collected.taken (collected : Collected s)
    (issued : ∀ row ∈ s.ledger, row.id < s.nextLedgerId) (htarget : target ∈ s.periods)
    (undebited : target.debitedAt = none) {taken : Decimal} (priced : target.taxUsd = some taxUsd)
    (written : s.periods.updateWhere (fun period => period.id = target.id)
      (fun period => period.collect now taxUsd taken s.nextLedgerId) = .ok periods)
    (hperiods : s'.periods = periods)
    (ledger : s'.ledger = s.ledger ++ if 0 < taken then
      [{ id := s.nextLedgerId, entryType := .tax, amountUsd := -taken }] else [])
    (unlocked : s'.lock = none) : Collected s' := by
  have mem := mem_collect htarget written
  obtain ⟨noTake, noShort, noRow⟩ := collected.uncollected target htarget undebited
  have grows : ∀ row ∈ s.ledger, row ∈ s'.ledger := by
    intro row hrow
    rw [ledger]
    exact mem_append_left _ hrow
  have points : (target.collect now taxUsd taken s.nextLedgerId).collectionLedgerId =
      if 0 < taken then some s.nextLedgerId else none := by
    show (if 0 < taken then some s.nextLedgerId else target.collectionLedgerId) = _
    rw [noRow]
  -- No period of before points at the id that was just given out.
  have fresh : ∀ period ∈ s.periods, period.collectionLedgerId ≠ some s.nextLedgerId := by
    intro period hperiod same
    by_cases stamped : period.debitedAt = none
    · rw [(collected.uncollected period hperiod stamped).2.2] at same
      cases same
    · obtain ⟨_, _, _, _, _, _, row⟩ := collected.debited period hperiod stamped
      exact absurd (issued _ (row _ same)) (lt_irrefl _)
  constructor
  · rw [hperiods]
    intro period hperiod stamped
    rcases (mem period).mp hperiod with rfl | ⟨before, -⟩
    · cases stamped
    · exact collected.uncollected period before stamped
  · rw [hperiods]
    intro period hperiod stamped
    rcases (mem period).mp hperiod with rfl | ⟨before, -⟩
    · refine ⟨taxUsd, taken, priced, rfl, rfl, ?_, ?_⟩
      · rw [points]
        by_cases takes : 0 < taken <;> simp [takes]
      · intro id hid
        rw [points] at hid
        split at hid
        · next takes =>
            cases hid
            rw [ledger, if_pos takes]
            exact mem_append_right _ mem_cons_self
        · cases hid
    · exact (collected.debited period before stamped).mono grows
  · rw [hperiods]
    intro row hrow tax
    rw [ledger] at hrow
    rcases mem_append.mp hrow with before | new
    · obtain ⟨period, hperiod, same⟩ := collected.taxRows row before tax
      refine ⟨period, (mem period).mpr (.inr ⟨hperiod, fun sameId => ?_⟩), same⟩
      rw [eq_of_clash hperiod htarget (.inl sameId), noRow] at same
      cases same
    · split at new
      · next takes =>
          rw [mem_singleton.mp new]
          exact ⟨_, (mem _).mpr (.inl rfl), by rw [points, if_pos takes]⟩
      · cases new
  · rw [hperiods]
    intro a ha b hb ledgerId pointsA pointsB
    rcases (mem a).mp ha with rfl | ⟨beforeA, -⟩ <;> rcases (mem b).mp hb with rfl | ⟨beforeB, -⟩
    · rfl
    · rw [points] at pointsA
      split at pointsA
      · cases pointsA
        exact absurd pointsB (fresh b beforeB)
      · cases pointsA
    · rw [points] at pointsB
      split at pointsB
      · cases pointsB
        exact absurd pointsA (fresh a beforeA)
      · cases pointsB
    · exact collected.apart a beforeA b beforeB ledgerId pointsA pointsB
  · rw [unlocked]
    intro id tax held
    cases held

theorem Collected.step (swept : Swept initial s) (collected : Collected s)
    (h : step s a = some s') : Collected s' := by
  -- A holder that is not about to debit has read no tax.
  have idle : ∀ {lock : Option Transaction}, (∀ id tax, lock ≠ some (.collectingTax id tax)) →
      ∀ id tax, lock = some (.collectingTax id tax) →
        ∃ period ∈ s.periods, period.id = id ∧ period.debitedAt = none ∧
          period.taxUsd = some tax :=
    fun other id tax held => absurd held (other id tax)
  cases a with
  | lockMoney entryType amountUsd =>
      simp only [Periods.step] at h
      split at h
      · cases h
        exact collected.quiet rfl (fun _ h => h) (fun _ h _ => h) (idle (by simp))
      · cases h
  | insertLedger =>
      simp only [Periods.step] at h
      split at h
      · cases h
        exact collected.quiet rfl (fun _ h => h) (fun _ h _ => h) (idle (by simp))
      · cases h
  | commitMoney =>
      simp only [Periods.step] at h
      split at h
      · next entryType amountUsd row held =>
          cases h
          have stands := swept.lock
          rw [held] at stands
          obtain ⟨notTax, -, inserted⟩ := stands
          refine collected.quiet rfl (fun _ h => mem_append_left _ h) ?_ (idle (by simp))
          intro other hother tax
          rcases mem_append.mp hother with before | new
          · exact before
          · rw [mem_singleton.mp new, (inserted row rfl).1] at tax
            exact absurd tax notTax
      · cases h
  | burnLedgerId =>
      cases h
      exact collected.quiet rfl (fun _ h => h) (fun _ h _ => h) collected.lock
  | lockOpen =>
      simp only [Periods.step] at h
      split at h
      · cases h
        exact collected.quiet rfl (fun _ h => h) (fun _ h _ => h) (idle (by simp))
      · cases h
  | readCursor =>
      simp only [Periods.step] at h
      split at h
      · cases h
        exact collected.quiet rfl (fun _ h => h) (fun _ h _ => h) (idle (by simp))
      · cases h
  | readUsage =>
      simp only [Periods.step] at h
      split at h
      · cases h
        refine collected.quiet rfl (fun _ h => h) (fun _ h _ => h) (idle ?_)
        intro id tax held
        dsimp only at held
        split at held
        · cases held
        · split at held <;> cases held
      · cases h
  | commitOpen id =>
      simp only [Periods.step] at h
      split at h
      · next cursor through exemptRemainingUsd usageUsd held =>
          cases h
          unfold State.openPeriod
          split
          · next periods inserted => exact collected.opened inserted _
          · exact collected.quiet rfl (fun _ h => h) (fun _ h _ => h) (idle (by simp))
      · cases h
  | price id calculation =>
      simp only [Periods.step] at h
      split at h
      · next periods wrote =>
          cases h
          exact collected.priced wrote
      · cases h
        exact collected
  | lockCollect id =>
      simp only [Periods.step] at h
      split at h
      · cases h
        exact collected.quiet rfl (fun _ h => h) (fun _ h _ => h) (idle (by simp))
      · cases h
  | readTax =>
      simp only [Periods.step] at h
      split at h
      · next id held =>
          cases h
          refine collected.quiet rfl (fun _ h => h) (fun _ h _ => h) ?_
          intro other tax read
          obtain ⟨found, hfound, same⟩ := Option.map_eq_some_iff.mp read
          obtain ⟨period, hperiod, priced⟩ := Option.bind_eq_some_iff.mp hfound
          cases same
          obtain ⟨mem, hid, undebited⟩ := find_some hperiod
          exact ⟨period, mem, hid, undebited, priced⟩
      · cases h
  | commitCollect now =>
      simp only [Periods.step] at h
      split at h
      · next id taxUsd held =>
          cases h
          obtain ⟨target, htarget, rfl, undebited, priced⟩ := collected.lock id taxUsd held
          rcases collectPeriod_cases s now target.id taxUsd with refused | ⟨periods, written, taken⟩
          · rw [refused]
            exact collected.quiet rfl (fun _ h => h) (fun _ h _ => h) (idle (by simp))
          · rcases taken with ⟨takes, effect⟩ | ⟨nothing, effect⟩
            · rw [effect]
              exact collected.taken swept.issued htarget undebited priced written rfl
                (by rw [if_pos takes]) rfl
            · rw [effect]
              exact collected.taken swept.issued htarget undebited priced written rfl
                (by rw [if_neg nothing, append_nil]) rfl
      · cases h
  | rollback =>
      simp only [Periods.step] at h
      split at h
      · cases h
      · cases h
        exact collected.quiet rfl (fun _ h => h) (fun _ h _ => h) (idle (by simp))

/-! ## What never changes -/

/-- A period's span, a tax once frozen, and a collection once stamped. -/
structure Kept (old new : Period) : Prop where
  id : new.id = old.id
  toSpan : new.toSpan = old.toSpan
  taxUsd : ∀ tax ∈ old.taxUsd, new.taxUsd = some tax
  collection : old.debitedAt ≠ none → new = old

theorem Kept.refl (period : Period) : Kept period period := ⟨rfl, rfl, fun _ h => h, fun _ => rfl⟩

theorem Kept.trans {a b c : Period} (first : Kept a b) (second : Kept b c) : Kept a c where
  id := second.id.trans first.id
  toSpan := second.toSpan.trans first.toSpan
  taxUsd tax h := second.taxUsd tax (first.taxUsd tax h)
  collection stamped := by
    have same := first.collection stamped
    have later := second.collection (by rw [same]; exact stamped)
    exact later.trans same

/-- Every period of a state is kept by a later one. -/
def State.KeptBy (s t : State) : Prop := ∀ old ∈ s.periods, ∃ new ∈ t.periods, Kept old new

theorem State.KeptBy.of_eq (periods : s'.periods = s.periods) : s.KeptBy s' := by
  intro old hold
  rw [← periods] at hold
  exact ⟨old, hold, .refl old⟩

theorem keptBy_step (collected : Collected s) (h : step s a = some s') :
    s.KeptBy s' := by
  cases a with
  | lockMoney | lockOpen | readCursor | lockCollect =>
      simp only [Periods.step] at h
      split at h
      · cases h
        exact .of_eq rfl
      · cases h
  | insertLedger | commitMoney | readUsage | readTax =>
      simp only [Periods.step] at h
      split at h
      · cases h
        exact .of_eq rfl
      · cases h
  | burnLedgerId =>
      cases h
      exact .of_eq rfl
  | rollback =>
      simp only [Periods.step] at h
      split at h
      · cases h
      · cases h
        exact .of_eq rfl
  | commitOpen id =>
      simp only [Periods.step] at h
      split at h
      · cases h
        unfold State.openPeriod
        split
        · next periods inserted =>
            exact fun old hold => ⟨old, (mem_insert inserted).mpr (.inl hold), .refl old⟩
        · exact .of_eq rfl
      · cases h
  | price id calculation =>
      simp only [Periods.step] at h
      split at h
      · next periods wrote =>
          cases h
          intro old hold
          obtain ⟨new, hnew, repriced⟩ := priced_new wrote hold
          refine ⟨new, hnew, repriced.id, repriced.toSpan, fun tax htax => ?_, fun stamped => ?_⟩
          · rw [repriced.frozen (Option.ne_none_iff_exists'.mpr ⟨tax, htax⟩)]
            exact htax
          · obtain ⟨tax, _, htax, -⟩ := collected.debited old hold stamped
            exact repriced.frozen (by simp [htax])
      · cases h
        exact .of_eq rfl
  | commitCollect now =>
      simp only [Periods.step] at h
      split at h
      · next id taxUsd held =>
          cases h
          obtain ⟨target, htarget, rfl, undebited, priced⟩ := collected.lock id taxUsd held
          rcases collectPeriod_cases s now target.id taxUsd with refused | ⟨periods, written, taken⟩
          · rw [refused]
            exact .of_eq rfl
          · have mem := mem_collect htarget written
            have kept : s.KeptBy { s with periods } := by
              intro old hold
              by_cases same : old.id = target.id
              · have one := eq_of_clash hold htarget (.inl same)
                subst one
                exact ⟨_, (mem _).mpr (.inl rfl), rfl, rfl, fun _ h => h,
                  fun stamped => absurd undebited stamped⟩
              · exact ⟨old, (mem old).mpr (.inr ⟨hold, same⟩), .refl old⟩
            rcases taken with ⟨-, effect⟩ | ⟨-, effect⟩ <;> rw [effect] <;> exact kept
      · cases h

/-! ## The theorem -/

/-- What a user's periods are to the user's ledger, from an initial exemption on. -/
structure TaxedOnce (initial : Decimal) (s : State) : Prop where
  /-- Consecutive from the enrolment cursor, so a usage row up to the last span's end
      is in exactly one. -/
  tiles : Tiles s.fromLedgerId s.spans
  once : ∀ id, s.fromLedgerId < id → id ≤ s.swept →
    ∃! span, span ∈ s.spans ∧ span.fromLedgerId < id ∧ id ≤ span.throughLedgerId
  usage : ∀ span ∈ s.spans,
    span.usageUsd = usageBetween s.ledger span.fromLedgerId span.throughLedgerId
  total : s.usageTotal = usageBetween s.ledger s.fromLedgerId s.swept
  exempt : s.exemptTotal = min initial s.usageTotal
  remaining : s.exemptRemainingUsd = initial - s.exemptTotal ∧ 0 ≤ s.exemptRemainingUsd
  taxable : (s.spans.map Span.taxableUsd).sum = max 0 (s.usageTotal - initial)
  /-- A stamped period says what it took and what it fell short of, and points at its
      `tax` row exactly when it took something. -/
  debited : ∀ period ∈ s.periods, period.debitedAt ≠ none → Period.IsDebited s.ledger period
  uncollected : ∀ period ∈ s.periods, period.debitedAt = none → Period.IsUncollected period
  /-- Every `tax` row is one period's. -/
  taxRows : ∀ row ∈ s.ledger, row.entryType = .tax →
    ∃! period, period ∈ s.periods ∧ period.collectionLedgerId = some row.id

theorem taxable_sum {spans : List Span}
    (split : ∀ span ∈ spans, span.taxableUsd = span.usageUsd - span.exemptUsd) :
    (spans.map Span.taxableUsd).sum =
      (spans.map Span.usageUsd).sum - (spans.map Span.exemptUsd).sum := by
  induction spans with
  | nil => simp
  | cons span rest ih =>
      rw [map_cons, map_cons, map_cons, sum_cons, sum_cons,
        sum_cons, split span mem_cons_self,
        ih fun other hother => split other (mem_cons_of_mem _ hother)]
      ring

theorem TaxedOnce.of (swept : Swept initial s) (collected : Collected s) :
    TaxedOnce initial s where
  tiles := swept.tiles
  once _ after through := swept.tiles.existsUnique after through
  usage := swept.usage
  total := swept.total
  exempt := swept.exempt
  remaining := by
    refine ⟨swept.remaining, ?_⟩
    rw [swept.remaining, swept.exempt]
    exact sub_nonneg.mpr (min_le_left _ _)
  taxable := by
    have parts := taxable_sum swept.taxable
    have exempt := swept.exempt
    unfold State.usageTotal State.exemptTotal at *
    rw [parts, exempt]
    rcases le_total initial (s.spans.map Span.usageUsd).sum with past | within
    · rw [min_eq_left past, max_eq_right (sub_nonneg.mpr past)]
    · rw [min_eq_right within, max_eq_left (sub_nonpos.mpr within), sub_self]
  debited := collected.debited
  uncollected := collected.uncollected
  taxRows := by
    intro row hrow tax
    obtain ⟨period, hperiod, points⟩ := collected.taxRows row hrow tax
    refine ⟨period, ⟨hperiod, points⟩, ?_⟩
    rintro other ⟨hother, same⟩
    exact collected.apart other hother period hperiod row.id same points

/-- Whatever sweeps, settlements and failures do with an enrolled user, and in
    whatever order, every usage dollar since is taxed in exactly one period, and what
    a period has frozen or taken stays. -/
theorem usage_taxedOnce {s₀ s t : State} (opening : s₀.Opening)
    (run : Transition.Steps step Transition.anyStep s₀ s)
    (later : Transition.Steps step Transition.anyStep s t) :
    TaxedOnce s₀.exemptRemainingUsd s ∧ s.KeptBy t := by
  have start : Swept s₀.exemptRemainingUsd s₀ ∧ Collected s₀ := ⟨.opening opening, .opening opening⟩
  have keep : ∀ u a u', (Swept s₀.exemptRemainingUsd u ∧ Collected u) → Transition.anyStep u a →
      step u a = some u' → Swept s₀.exemptRemainingUsd u' ∧ Collected u' :=
    fun _ _ _ inv _ next => ⟨inv.1.step next, inv.2.step inv.1 next⟩
  obtain ⟨swept, collected⟩ := run.invariant
    (I := fun u => Swept s₀.exemptRemainingUsd u ∧ Collected u) start keep
  refine ⟨.of swept collected, ?_⟩
  have both : (Swept s₀.exemptRemainingUsd t ∧ Collected t) ∧ s.KeptBy t := by
    refine later.invariant (I := fun u => (Swept s₀.exemptRemainingUsd u ∧ Collected u) ∧
      s.KeptBy u) ⟨⟨swept, collected⟩, .of_eq rfl⟩ ?_
    rintro u a u' ⟨inv, kept⟩ any next
    refine ⟨keep u a u' inv any next, fun old hold => ?_⟩
    obtain ⟨middle, hmiddle, first⟩ := kept old hold
    obtain ⟨new, hnew, second⟩ := keptBy_step inv.2 next middle hmiddle
    exact ⟨new, hnew, first.trans second⟩
  exact both.2

/-! Two sweeps race over an exemption of five dollars: three are spent before the
first period, four before the second, which taxes two of them. -/

def enrolledWithFive : State where
  creditBalanceUsd := 20
  fromLedgerId := 2
  exemptRemainingUsd := 5
  ledger := [{ id := 1, entryType := .purchase, amountUsd := 30 },
    { id := 2, entryType := .usage, amountUsd := -10 }]
  nextLedgerId := 3
  periods := .empty
  lock := none

def racingSweeps : List Action :=
  [.lockMoney .usage (-3), .insertLedger, .commitMoney, .lockOpen, .readCursor, .readUsage,
    .commitOpen 1, .lockOpen, .readCursor, .readUsage, .lockMoney .usage (-4), .insertLedger,
    .burnLedgerId, .commitMoney, .price 1 none, .lockOpen, .readCursor, .readUsage,
    .commitOpen 2, .price 2 (some ⟨12, "taxcalc_1"⟩), .price 2 (some ⟨15, "taxcalc_2"⟩),
    .lockCollect 2, .readTax, .commitCollect 9, .lockCollect 2, .readTax, .lockCollect 1,
    .readTax, .commitCollect 9]

theorem usage_taxedOnce_racing :
    ∃ s : State, s.periods.rows.map (fun period =>
        (period.usageUsd, period.taxableUsd, period.taxUsd, period.collectedUsd)) =
        [(3, 0, some 0, some 0), (4, 2, some (12 / 100), some (12 / 100))] ∧
      TaxedOnce 5 s ∧ s.KeptBy s := by
  have opening : enrolledWithFive.Opening :=
    ⟨by decide, by decide, by decide +kernel, by decide +kernel, by decide, rfl, rfl⟩
  have runs : (Transition.runWhile step Transition.anyStep enrolledWithFive racingSweeps).any
      (fun s => s.periods.rows.map (fun period =>
        (period.usageUsd, period.taxableUsd, period.taxUsd, period.collectedUsd)) =
        [(3, 0, some 0, some 0), (4, 2, some (12 / 100), some (12 / 100))]) = true := by
    decide +kernel
  obtain ⟨s, run, hs⟩ := Transition.Steps.exists_of_runWhile runs
  exact ⟨s, of_decide_eq_true hs, usage_taxedOnce opening run (.refl s)⟩

end Periods

end Redemption

end ZeroRouter
