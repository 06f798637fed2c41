import ZeroRouter.Redemption.DryRun
import ZeroRouter.Proofs.Periods

/-!
# What a dry run leaves behind

A dry run moves no money and files nothing, but its enrolments, cursors, exemptions
and periods stay: the account it leaves shadows the account of a run that swept
nothing.
-/

namespace ZeroRouter

open List Relational

namespace Redemption

variable {fromLedgerId cursor : Nat} {periods : List Period} {period : Period}
  {ledger : List LedgerRow}

/-! ## Ledger ids and cursors -/

theorem maxLedgerId_append (ledger : List LedgerRow) (row : LedgerRow) :
    maxLedgerId (ledger ++ [row]) = max (maxLedgerId ledger) row.id := by
  apply le_antisymm
  · unfold maxLedgerId
    cases hmax : ((ledger ++ [row]).map LedgerRow.id).max? with
    | none => exact Nat.zero_le _
    | some top =>
        obtain ⟨found, hfound, rfl⟩ := mem_map.mp (max?_mem hmax)
        rcases mem_append.mp hfound with before | new
        · exact le_max_of_le_left (le_maxLedgerId before)
        · rw [mem_singleton.mp new]
          exact le_max_right _ _
  · apply max_le
    · cases hmax : (ledger.map LedgerRow.id).max? with
      | none =>
          have zero : maxLedgerId ledger = 0 := by rw [maxLedgerId, hmax, Option.getD_none]
          rw [zero]
          exact Nat.zero_le _
      | some top =>
          obtain ⟨found, hfound, same⟩ := mem_map.mp (max?_mem hmax)
          have value : maxLedgerId ledger = found.id := by
            rw [maxLedgerId, hmax, Option.getD_some, same]
          rw [value]
          exact le_maxLedgerId (mem_append_left _ hfound)
    · exact le_maxLedgerId (mem_append_right _ mem_cons_self)

theorem le_sweptThrough (h : period ∈ periods) :
    period.throughLedgerId ≤ sweptThrough fromLedgerId periods := by
  unfold sweptThrough
  have mem : period.throughLedgerId ∈ periods.map fun period => period.throughLedgerId :=
    mem_map_of_mem h
  cases hmax : (periods.map fun period => period.throughLedgerId).max? with
  | none =>
      rw [max?_eq_none_iff] at hmax
      rw [hmax] at mem
      cases mem
  | some top => exact le_max_of_le_right ((max?_eq_some_iff.mp hmax).2 _ mem)

theorem sweptThrough_le {bound : Nat} (from_ : fromLedgerId ≤ bound)
    (h : ∀ period ∈ periods, period.throughLedgerId ≤ bound) :
    sweptThrough fromLedgerId periods ≤ bound := by
  unfold sweptThrough
  refine max_le from_ ?_
  cases hmax : (periods.map fun period => period.throughLedgerId).max? with
  | none => exact Nat.zero_le _
  | some top =>
      obtain ⟨period, hperiod, rfl⟩ := mem_map.mp (max?_mem hmax)
      exact h period hperiod

theorem from_le_sweptThrough (fromLedgerId : Nat) (periods : List Period) :
    fromLedgerId ≤ sweptThrough fromLedgerId periods := le_max_left _ _

/-- A period past the cursor becomes the cursor. -/
theorem sweptThrough_append (period : Period)
    (past : sweptThrough fromLedgerId periods ≤ period.throughLedgerId) :
    sweptThrough fromLedgerId (periods ++ [period]) = period.throughLedgerId := by
  apply le_antisymm
  · apply sweptThrough_le
    · exact (from_le_sweptThrough _ _).trans past
    · intro other hother
      rcases mem_append.mp hother with before | new
      · exact (le_sweptThrough before).trans past
      · rw [mem_singleton.mp new]
  · exact le_sweptThrough (mem_append_right _ mem_cons_self)

theorem mem_usageAfter {row : LedgerRow} :
    row ∈ usageAfter ledger cursor ↔
      row ∈ ledger ∧ row.entryType = .usage ∧ cursor < row.id := by
  simp [usageAfter]

/-- Nothing is past the newest row. -/
theorem newUsage_maxLedgerId (newest : ∀ row ∈ ledger, row.entryType = .usage → row.id ≤ cursor) :
    newUsage ledger cursor = none := by
  have nothing : usageAfter ledger cursor = [] := by
    rw [eq_nil_iff_forall_not_mem]
    intro row hrow
    obtain ⟨mem, usage, after⟩ := mem_usageAfter.mp hrow
    exact absurd (newest row mem usage) (not_le.mpr after)
  unfold newUsage
  rw [nothing]

/-- Usage is spent: no period comes to nothing. -/
theorem newUsage_pos {through : Nat} {usageUsd : Decimal}
    (debits : ∀ row ∈ ledger, row.entryType = .usage → row.amountUsd < 0)
    (h : newUsage ledger cursor = some (through, usageUsd)) : 0 < usageUsd := by
  have negative : ∀ rows : List LedgerRow, rows ≠ [] → (∀ row ∈ rows, row.amountUsd < 0) →
      (rows.map LedgerRow.amountUsd).sum < 0 := by
    intro rows some_ each
    induction rows with
    | nil => exact absurd rfl some_
    | cons row rest ih =>
        rw [map_cons, sum_cons]
        have head := each row mem_cons_self
        by_cases more : rest = []
        · subst more
          simpa using head
        · have tail := ih more fun other hother => each other (mem_cons_of_mem _ hother)
          linarith
  unfold newUsage at h
  split at h
  · cases h
  · next rows some_ =>
    cases h
    have total := negative (usageAfter ledger cursor) some_ fun row hrow =>
      debits row (mem_usageAfter.mp hrow).1 (mem_usageAfter.mp hrow).2.1
    linarith

/-! ## Periods under a cent -/

/-- Nothing will be debited or filed for the period. -/
structure Silent (period : Period) : Prop where
  cents : taxableCents period.taxableUsd ≤ 0
  noCalculation : period.taxCalculationId = none
  noTax : period.taxUsd = none ∨ period.taxUsd = some 0

/-- A priced period of a cent or more has its calculation, one of less has none. -/
structure PricedRight (period : Period) : Prop where
  under : taxableCents period.taxableUsd ≤ 0 → Silent period
  calculated : ¬ taxableCents period.taxableUsd ≤ 0 → period.taxUsd ≠ none →
    period.taxCalculationId ≠ none

theorem newPeriod_pricedRight (id : Uuid) (cursor through : Nat) (exempt usage : Decimal) :
    PricedRight (newPeriod id cursor through exempt usage) where
  under cents := ⟨cents, rfl, .inl rfl⟩
  calculated _ priced := absurd rfl priced

theorem Silent.price (silent : Silent period) (calculation : Option Calculation) :
    Silent (period.price calculation) := by
  unfold Period.price
  rw [if_pos silent.cents]
  exact ⟨silent.cents, silent.noCalculation, .inr rfl⟩

theorem PricedRight.price (right : PricedRight period) (calculation : Option Calculation) :
    PricedRight (period.price calculation) := by
  by_cases cents : taxableCents period.taxableUsd ≤ 0
  · have silent := (right.under cents).price calculation
    exact ⟨fun _ => silent, fun more => absurd silent.cents more⟩
  · unfold Period.price
    rw [if_neg cents]
    cases calculation with
    | none => exact right
    | some answer => exact ⟨fun under => absurd under cents, fun _ _ => by simp⟩

namespace Account

variable {a b : Account}

/-! ## Up to the switch -/

/-- What a dry run has made of an account, beside one that ran nothing. -/
structure Shadow (dry off : Account) : Prop where
  balance : dry.user.creditBalanceUsd = off.user.creditBalanceUsd
  createdAt : dry.user.createdAt = off.user.createdAt
  ledger : dry.ledger = off.ledger
  offUnseen : off.user.redemptionTax = none
  offPeriods : off.periods = []
  offActivation : off.activation = none
  offFiled : off.filed = []
  filed : dry.filed = []
  unseen : dry.user.redemptionTax = none → dry.periods = []
  debits : ∀ row ∈ dry.ledger, row.entryType = .usage → row.amountUsd < 0
  enrolledBefore : ∀ enrolled, dry.user.redemptionTax = some enrolled →
    enrolled.fromLedgerId ≤ maxLedgerId dry.ledger ∧ 0 ≤ enrolled.exemptRemainingUsd
  swept : ∀ period ∈ dry.periods, period.throughLedgerId ≤ maxLedgerId dry.ledger
  apart : dry.periods.Pairwise fun p q => p.throughLedgerId < q.throughLedgerId
  undebited : ∀ period ∈ dry.periods, period.debitedAt = none
  priced : ∀ period ∈ dry.periods, PricedRight period

theorem Shadow.opening (h : a.Opening) : Shadow a a := by
  refine ⟨rfl, rfl, rfl, h.unseen, h.noPeriods, h.noActivation, h.noFilings, h.noFilings,
    fun _ => h.noPeriods, h.usageEntriesAreDebits, ?_, ?_, ?_, ?_, ?_⟩
  · rw [h.unseen]
    intro enrolled seen
    cases seen
  all_goals rw [h.noPeriods]
  · simp
  · exact .nil
  · simp
  · simp

/-- Both runs see the same money. -/
theorem Shadow.money (shadow : Shadow a b) (entryType : EntryType) (amountUsd : Decimal) :
    Shadow (a.money entryType amountUsd) (b.money entryType amountUsd) := by
  unfold Account.money
  by_cases refused : entryType = .usage ∧ 0 ≤ amountUsd
  · rw [if_pos refused, if_pos refused]
    exact shadow
  · rw [if_neg refused, if_neg refused]
    have grows : maxLedgerId a.ledger ≤ maxLedgerId (a.ledger ++
        [{ id := maxLedgerId a.ledger + 1, entryType, amountUsd }]) := by
      rw [maxLedgerId_append]
      exact le_max_left _ _
    refine ⟨?_, shadow.createdAt, ?_, shadow.offUnseen, shadow.offPeriods, shadow.offActivation,
      shadow.offFiled, shadow.filed, shadow.unseen, ?_, ?_, ?_, shadow.apart, shadow.undebited,
      shadow.priced⟩
    · show a.user.creditBalanceUsd + amountUsd = b.user.creditBalanceUsd + amountUsd
      rw [shadow.balance]
    · show a.ledger ++ [_] = b.ledger ++ [_]
      rw [shadow.ledger]
    · intro row hrow usage
      rcases mem_append.mp hrow with before | new
      · exact shadow.debits row before usage
      · rw [mem_singleton.mp new] at usage ⊢
        exact not_le.mp fun nonneg => refused ⟨usage, nonneg⟩
    · intro enrolled seen
      obtain ⟨before, exempt⟩ := shadow.enrolledBefore enrolled seen
      exact ⟨before.trans grows, exempt⟩
    · exact fun period hperiod => (shadow.swept period hperiod).trans grows

/-- Enrolling takes the newest row for a cursor. -/
theorem Shadow.enroll (shadow : Shadow a b) (now : Timestamp) : Shadow (a.enroll now) b := by
  unfold Account.enroll
  cases seen : a.user.redemptionTax with
  | some enrolled => exact shadow
  | none =>
      have none_ := shadow.unseen seen
      refine ⟨shadow.balance, shadow.createdAt, shadow.ledger, shadow.offUnseen,
        shadow.offPeriods, shadow.offActivation, shadow.offFiled, shadow.filed,
        (fun unseen => by cases unseen), shadow.debits, ?_, shadow.swept, shadow.apart,
        shadow.undebited, shadow.priced⟩
      intro enrolled granted
      cases granted
      refine ⟨le_refl _, ?_⟩
      unfold Enrollment.Statement.enroll
      dsimp only
      split
      · exact le_max_right _ _
      · exact le_refl _

/-- What opening a period does, when there is something new. -/
theorem openPeriod_cases (a : Account) (id : Uuid)
    (debits : ∀ row ∈ a.ledger, row.entryType = .usage → row.amountUsd < 0) :
    (a.openPeriod id = a ∧ ∀ enrolled, a.user.redemptionTax = some enrolled →
      newUsage a.ledger (sweptThrough enrolled.fromLedgerId a.periods) = none) ∨
    ∃ enrolled through usageUsd, a.user.redemptionTax = some enrolled ∧
      newUsage a.ledger (sweptThrough enrolled.fromLedgerId a.periods) =
        some (through, usageUsd) ∧ 0 < usageUsd ∧
      a.openPeriod id =
        { a with
          user := { a.user with
            redemptionTax := some { enrolled with
              exemptRemainingUsd := enrolled.exemptRemainingUsd -
                min enrolled.exemptRemainingUsd usageUsd } }
          periods := a.periods ++
            [newPeriod id (sweptThrough enrolled.fromLedgerId a.periods) through
              enrolled.exemptRemainingUsd usageUsd] } := by
  unfold Account.openPeriod
  cases seen : a.user.redemptionTax with
  | none => exact .inl ⟨rfl, fun enrolled granted => by cases granted⟩
  | some enrolled =>
      cases new : newUsage a.ledger (sweptThrough enrolled.fromLedgerId a.periods) with
      | none =>
          refine .inl ⟨by simp only [new], fun other granted => ?_⟩
          cases granted
          exact new
      | some span =>
          obtain ⟨through, usageUsd⟩ := span
          have spent := newUsage_pos debits new
          refine .inr ⟨enrolled, through, usageUsd, rfl, new, spent, ?_⟩
          simp only [new, if_neg (not_le.mpr spent)]

theorem Shadow.openPeriod (shadow : Shadow a b) (id : Uuid) : Shadow (a.openPeriod id) b := by
  rcases openPeriod_cases a id shadow.debits with ⟨same, -⟩ | opened
  · rw [same]
    exact shadow
  · obtain ⟨enrolled, through, usageUsd, seen, new, -, effect⟩ := opened
    obtain ⟨forward, -, ⟨last, inLedger, lastId⟩, -⟩ := newUsage_some new
    rw [effect]
    refine ⟨shadow.balance, shadow.createdAt, shadow.ledger, shadow.offUnseen,
      shadow.offPeriods, shadow.offActivation, shadow.offFiled, shadow.filed,
      (fun unseen => by cases unseen), shadow.debits, ?_, ?_, ?_, ?_, ?_⟩
    · intro granted same
      cases same
      exact ⟨(shadow.enrolledBefore enrolled seen).1, sub_nonneg.mpr (min_le_left _ _)⟩
    · intro period hperiod
      rcases mem_append.mp hperiod with before | fresh
      · exact shadow.swept period before
      · rw [mem_singleton.mp fresh]
        show through ≤ maxLedgerId a.ledger
        rw [← lastId]
        exact le_maxLedgerId inLedger
    · refine pairwise_append.mpr ⟨shadow.apart, pairwise_singleton _ _, ?_⟩
      intro old hold period fresh
      rw [mem_singleton.mp fresh]
      exact (le_sweptThrough hold).trans_lt forward
    · intro period hperiod
      rcases mem_append.mp hperiod with before | fresh
      · exact shadow.undebited period before
      · rw [mem_singleton.mp fresh]
        rfl
    · intro period hperiod
      rcases mem_append.mp hperiod with before | fresh
      · exact shadow.priced period before
      · rw [mem_singleton.mp fresh]
        exact newPeriod_pricedRight _ _ _ _ _

/-- What pricing leaves of each period: its span and its collection. -/
theorem price_columns (period : Period) (calculation : Option Calculation) :
    (period.price calculation).toSpan = period.toSpan ∧
      (period.price calculation).debitedAt = period.debitedAt := by
  unfold Period.price
  split
  · exact ⟨rfl, rfl⟩
  · split <;> exact ⟨rfl, rfl⟩

theorem Shadow.price (shadow : Shadow a b) (through : Nat) (calculation : Option Calculation) :
    Shadow (a.price through calculation) b := by
  -- What a pass leaves of one period.
  have each : ∀ period, ∃ priced, priced = (if period.throughLedgerId = through ∧
      period.taxUsd = none then period.price calculation else period) ∧
      priced.throughLedgerId = period.throughLedgerId ∧ priced.debitedAt = period.debitedAt ∧
      (PricedRight period → PricedRight priced) := by
    intro period
    refine ⟨_, rfl, ?_⟩
    split
    · obtain ⟨span, debited⟩ := price_columns period calculation
      exact ⟨congrArg Span.throughLedgerId span, debited, fun right => right.price calculation⟩
    · exact ⟨rfl, rfl, id⟩
  refine ⟨shadow.balance, shadow.createdAt, shadow.ledger, shadow.offUnseen, shadow.offPeriods,
    shadow.offActivation, shadow.offFiled, shadow.filed, ?_, shadow.debits,
    shadow.enrolledBefore, ?_, ?_, ?_, ?_⟩
  · intro unseen
    show a.periods.map _ = []
    rw [shadow.unseen unseen]
    rfl
  · intro period hperiod
    obtain ⟨old, hold, rfl⟩ := mem_map.mp hperiod
    obtain ⟨priced, rfl, ends, -, -⟩ := each old
    rw [ends]
    exact shadow.swept old hold
  · refine pairwise_map.mpr (shadow.apart.imp fun {p q} before => ?_)
    obtain ⟨pricedP, rfl, endsP, -, -⟩ := each p
    obtain ⟨pricedQ, rfl, endsQ, -, -⟩ := each q
    rw [endsP, endsQ]
    exact before
  · intro period hperiod
    obtain ⟨old, hold, rfl⟩ := mem_map.mp hperiod
    obtain ⟨priced, rfl, -, debited, -⟩ := each old
    rw [debited]
    exact shadow.undebited old hold
  · intro period hperiod
    obtain ⟨old, hold, rfl⟩ := mem_map.mp hperiod
    obtain ⟨priced, rfl, -, -, right⟩ := each old
    exact right (shadow.priced old hold)

theorem run_cons (mode : RedemptionTaxMode) (event : Event) (rest : List Event) (a : Account) :
    run mode (event :: rest) a =
      if event.runsIn mode then run mode rest (a.step event) else run mode rest a := by
  unfold run
  rw [filter_cons]
  split <;> rfl

/-- Whatever the schedule before the switch, the dry run shadows the run without it. -/
theorem Shadow.run (shadow : Shadow a b) (schedule : List Event) :
    Shadow (run .dryRun schedule a) (run .off schedule b) := by
  induction schedule generalizing a b with
  | nil => exact shadow
  | cons event rest ih =>
      rw [run_cons, run_cons]
      cases event with
      | money entryType amountUsd => exact ih (shadow.money entryType amountUsd)
      | enrollOthers now =>
          exact ih (b := b) ⟨shadow.balance, shadow.createdAt, shadow.ledger, shadow.offUnseen,
            shadow.offPeriods, shadow.offActivation, shadow.offFiled, shadow.filed,
            shadow.unseen, shadow.debits, shadow.enrolledBefore, shadow.swept, shadow.apart,
            shadow.undebited, shadow.priced⟩
      | enroll now => exact ih (shadow.enroll now)
      | openPeriod id => exact ih (shadow.openPeriod id)
      | price through calculation => exact ih (shadow.price through calculation)
      | collect through now => exact ih shadow
      | record through => exact ih shadow

end Account

end Redemption

end ZeroRouter
