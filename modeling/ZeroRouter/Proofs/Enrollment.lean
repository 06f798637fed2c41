import ZeroRouter.Redemption.Enrollment
import Mathlib.Tactic.Linarith
import Mathlib.Algebra.Order.Ring.Rat

/-!
# The exemption and the cursor of an enrolment

The cursor is read in the snapshot of the `UPDATE`, the balance in the version of
the row it locks.  The two belong together exactly when the balance did not move in
between.
-/

namespace ZeroRouter

open List

namespace Redemption

variable {ledger : List LedgerRow} {row : LedgerRow} {statement : Statement}

/-! ## Ledger ids -/

theorem amountAfter_append (ledger : List LedgerRow) (row : LedgerRow) (cursor : Nat) :
    amountAfter (ledger ++ [row]) cursor =
      amountAfter ledger cursor + if cursor < row.id then row.amountUsd else 0 := by
  unfold amountAfter
  rw [filter_append, map_append, sum_append]
  by_cases later : cursor < row.id
  · rw [if_pos later, filter_cons_of_pos (by simpa using later)]
    simp
  · rw [if_neg later, filter_cons_of_neg (by simpa using later)]
    simp

theorem le_maxLedgerId (h : row ∈ ledger) :
    row.id ≤ maxLedgerId ledger := by
  unfold maxLedgerId
  have mem : row.id ∈ ledger.map LedgerRow.id := mem_map_of_mem h
  cases hmax : (ledger.map LedgerRow.id).max? with
  | none =>
      rw [max?_eq_none_iff] at hmax
      rw [hmax] at mem
      cases mem
  | some top => exact (max?_eq_some_iff.mp hmax).2 _ mem

theorem maxLedgerId_lt {bound : Nat} (positive : 0 < bound) (h : ∀ row ∈ ledger, row.id < bound) :
    maxLedgerId ledger < bound := by
  unfold maxLedgerId
  cases hmax : (ledger.map LedgerRow.id).max? with
  | none => exact positive
  | some top =>
      obtain ⟨row, hrow, rfl⟩ := mem_map.mp (max?_mem hmax)
      exact h row hrow

/-- Nothing of a ledger comes after its newest row. -/
theorem amountAfter_maxLedgerId (ledger : List LedgerRow) :
    amountAfter ledger (maxLedgerId ledger) = 0 := by
  unfold amountAfter
  rw [filter_eq_nil_iff.mpr]
  · rfl
  · intro row hrow
    have newest := le_maxLedgerId hrow
    simpa using newest

namespace Enrollment

variable {s s' : State}

/-! ## The invariant -/

/-- A row in flight carries its transaction's amount and the newest id given out
    since a ledger id. -/
def State.RowAfter (s : State) (cursor : Nat) : Prop :=
  ∀ entryType amountUsd row, s.holder = some (.money entryType amountUsd (some row)) →
    row.amountUsd = amountUsd ∧ cursor < row.id ∧ row.id < s.nextLedgerId

/-- What a statement's cursor and snapshot are to a later state: every row that
    came since is past the cursor, so taking those rows off the balance gives the
    snapshot's. -/
structure Fits (s : State) (statement : Statement) : Prop where
  issued : maxLedgerId statement.ledger < s.nextLedgerId
  inFlight : s.RowAfter (maxLedgerId statement.ledger)
  through : s.balanceThrough (maxLedgerId statement.ledger) = statement.user.creditBalanceUsd

structure Inv (s : State) : Prop where
  started : 0 < s.nextLedgerId
  issued : ∀ row ∈ s.ledger, row.id < s.nextLedgerId
  inFlight : s.RowAfter (maxLedgerId s.ledger)
  waiting : ∀ statement ∈ s.waiting, Fits s statement
  enrolling : ∀ statement version, s.holder = some (.enrolling statement version) →
    version = s.user ∧ Fits s statement
  enrolled : ∀ enrolled, s.user.redemptionTax = some enrolled →
    ∃ statement version, s.enrolledBy = some (statement, version) ∧
      enrolled = statement.enroll version ∧ version.createdAt = s.user.createdAt ∧
      Fits s statement

theorem Inv.opening (h : s.Opening) : Inv s where
  started := h.started
  issued := h.issued
  inFlight := by
    intro _ _ _ held
    rw [h.unlocked] at held
    cases held
  waiting := by
    rw [h.idle]
    intro statement hstatement
    cases hstatement
  enrolling := by
    intro _ _ held
    rw [h.unlocked] at held
    cases held
  enrolled := by
    intro enrolled seen
    rw [h.unseen] at seen
    cases seen

/-! ## Steps -/

/-- The balance and the ledger stay, and so does a row in flight. -/
theorem Fits.keep (fits : Fits s statement) (ids : s.nextLedgerId ≤ s'.nextLedgerId)
    (inFlight : s'.RowAfter (maxLedgerId statement.ledger))
    (balance : s'.user.creditBalanceUsd = s.user.creditBalanceUsd) (ledger : s'.ledger = s.ledger) :
    Fits s' statement where
  issued := fits.issued.trans_le ids
  inFlight := inFlight
  through := by
    unfold State.balanceThrough
    rw [balance, ledger]
    exact fits.through

/-- A holder that has inserted no row is after nothing. -/
theorem RowAfter.of_noRow {cursor : Nat}
    (none : ∀ entryType amountUsd row,
      s.holder ≠ some (.money entryType amountUsd (some row))) : s.RowAfter cursor :=
  fun entryType amountUsd row held => absurd held (none entryType amountUsd row)

/-- A step that neither commits nor inserts keeps the invariant, with a lock holder
    that has no row yet or is the one there was. -/
theorem Inv.lock (inv : Inv s) {holder : Option Holder} {waiting : List Statement}
    {nextLedgerId : Nat} (ids : s.nextLedgerId ≤ nextLedgerId)
    (noRow : holder = s.holder ∨ ∀ entryType amountUsd row,
      holder ≠ some (.money entryType amountUsd (some row)))
    (fewer : ∀ statement ∈ waiting, Fits s statement)
    (enrolling : ∀ statement version, holder = some (.enrolling statement version) →
      version = s.user ∧ Fits s statement) :
    Inv { s with holder, waiting, nextLedgerId } := by
  have after : ∀ cursor, s.RowAfter cursor →
      State.RowAfter { s with holder, waiting, nextLedgerId } cursor := by
    intro cursor before
    rcases noRow with same | none
    · intro entryType amountUsd row held
      obtain ⟨amount, later, given⟩ := before entryType amountUsd row (same ▸ held)
      exact ⟨amount, later, given.trans_le ids⟩
    · exact RowAfter.of_noRow none
  have keep : ∀ statement, Fits s statement →
      Fits { s with holder, waiting, nextLedgerId } statement :=
    fun statement fits => fits.keep ids (after _ fits.inFlight) rfl rfl
  refine ⟨inv.started.trans_le ids, fun row hrow => (inv.issued row hrow).trans_le ids,
    after _ inv.inFlight, fun statement hstatement => keep _ (fewer statement hstatement), ?_, ?_⟩
  · intro statement version held
    obtain ⟨same, fits⟩ := enrolling statement version held
    exact ⟨same, keep _ fits⟩
  · intro enrolled seen
    obtain ⟨statement, version, granted, wrote, created, fits⟩ := inv.enrolled enrolled seen
    exact ⟨statement, version, granted, wrote, created, keep _ fits⟩

/-- The statements still waiting after one of them is gone. -/
theorem Inv.fewer (inv : Inv s) (i : Nat) : ∀ statement ∈ s.waiting.eraseIdx i, Fits s statement :=
  fun statement h => inv.waiting statement (mem_of_mem_eraseIdx h)

/-- Money and the row that explains it commit together, and the row is past every
    cursor taken before. -/
theorem Inv.paid (inv : Inv s) {entryType : EntryType} {amountUsd : Decimal}
    (held : s.holder = some (.money entryType amountUsd (some row))) :
    Inv { s with
      user := { s.user with creditBalanceUsd := s.user.creditBalanceUsd + amountUsd }
      ledger := s.ledger ++ [row]
      holder := none } := by
  have keep : ∀ statement, Fits s statement → Fits
      { s with
        user := { s.user with creditBalanceUsd := s.user.creditBalanceUsd + amountUsd }
        ledger := s.ledger ++ [row]
        holder := none } statement := by
    intro statement fits
    obtain ⟨amount, later, -⟩ := fits.inFlight _ _ _ held
    refine ⟨fits.issued, RowAfter.of_noRow (by simp), ?_⟩
    have before := fits.through
    unfold State.balanceThrough at before ⊢
    rw [amountAfter_append, if_pos later, amount, ← before]
    ring
  obtain ⟨-, -, given⟩ := inv.inFlight _ _ _ held
  refine ⟨inv.started, ?_, RowAfter.of_noRow (by simp),
    fun statement hstatement => keep _ (inv.waiting statement hstatement), by simp, ?_⟩
  · intro old hold
    rcases mem_append.mp hold with before | new
    · exact inv.issued old before
    · rw [mem_singleton.mp new]
      exact given
  · intro enrolled seen
    obtain ⟨statement, version, granted, wrote, created, fits⟩ := inv.enrolled enrolled seen
    exact ⟨statement, version, granted, wrote, created, keep _ fits⟩

/-- An enrolment commits what its statement wrote over the row it locked. -/
theorem Inv.written (inv : Inv s) {version : UserRow}
    (held : s.holder = some (.enrolling statement version)) :
    Inv { s with
      user := { version with redemptionTax := some (statement.enroll version) }
      holder := none
      enrolledBy := some (statement, version) } := by
  obtain ⟨rfl, fits⟩ := inv.enrolling statement version held
  have keep : ∀ other, Fits s other → Fits
      { s with
        user := { s.user with redemptionTax := some (statement.enroll s.user) }
        holder := none
        enrolledBy := some (statement, s.user) } other :=
    fun other fits => fits.keep (le_refl _) (RowAfter.of_noRow (by simp)) rfl rfl
  refine ⟨inv.started, inv.issued, RowAfter.of_noRow (by simp),
    fun other hother => keep _ (inv.waiting other hother), by simp, ?_⟩
  intro enrolled seen
  cases seen
  exact ⟨statement, s.user, rfl, rfl, rfl, keep _ fits⟩

theorem Inv.step {a : Action} (inv : Inv s) (h : step s a = some s') : Inv s' := by
  cases a with
  | move entryType amountUsd =>
      simp only [Enrollment.step] at h
      split at h
      · cases h
        exact inv.lock (le_refl _) (.inr (by simp)) inv.waiting (by simp)
      · cases h
  | insertLedger =>
      simp only [Enrollment.step] at h
      split at h
      · next entryType amountUsd held =>
          cases h
          -- The id the sequence gives out is past every cursor there is.
          have after : ∀ cursor < s.nextLedgerId, State.RowAfter
              { s with
                holder := some (.money entryType amountUsd
                  (some { id := s.nextLedgerId, entryType, amountUsd }))
                nextLedgerId := s.nextLedgerId + 1 } cursor := by
            intro cursor issued _ _ row inserted
            cases inserted
            exact ⟨rfl, issued, Nat.lt_succ_self _⟩
          have keep : ∀ statement, Fits s statement → Fits
              { s with
                holder := some (.money entryType amountUsd
                  (some { id := s.nextLedgerId, entryType, amountUsd }))
                nextLedgerId := s.nextLedgerId + 1 } statement :=
            fun statement fits =>
              fits.keep (Nat.le_succ _) (after _ fits.issued) rfl rfl
          refine ⟨Nat.succ_pos _, fun row hrow => Nat.lt_succ_of_lt (inv.issued row hrow),
            after _ (maxLedgerId_lt inv.started inv.issued),
            fun statement hstatement => keep _ (inv.waiting statement hstatement), by simp, ?_⟩
          intro enrolled seen
          obtain ⟨statement, version, granted, wrote, created, fits⟩ := inv.enrolled enrolled seen
          exact ⟨statement, version, granted, wrote, created, keep _ fits⟩
      · cases h
  | commit =>
      simp only [Enrollment.step] at h
      split at h
      · next entryType amountUsd row held =>
          cases h
          exact inv.paid held
      · next statement version held =>
          cases h
          exact inv.written held
      · cases h
  | rollback =>
      simp only [Enrollment.step] at h
      split at h
      · cases h
      · cases h
        exact inv.lock (le_refl _) (.inr (by simp)) inv.waiting (by simp)
  | burnLedgerId =>
      cases h
      exact inv.lock (Nat.le_succ _) (.inl rfl) inv.waiting inv.enrolling
  | startEnroll now activation =>
      simp only [Enrollment.step] at h
      split at h
      · cases h
        refine inv.lock (le_refl _) (.inl rfl) ?_ inv.enrolling
        intro statement hstatement
        rcases mem_append.mp hstatement with before | new
        · exact inv.waiting statement before
        · rw [mem_singleton.mp new]
          refine ⟨maxLedgerId_lt inv.started inv.issued, inv.inFlight, ?_⟩
          unfold State.balanceThrough
          rw [amountAfter_maxLedgerId, sub_zero]
      · cases h
  | lockRow i =>
      simp only [Enrollment.step] at h
      split at h
      · obtain ⟨statement, hstatement, rfl⟩ := Option.map_eq_some_iff.mp h
        split
        · refine inv.lock (le_refl _) (.inr (by simp)) (inv.fewer i) ?_
          intro locked version held
          cases held
          exact ⟨rfl, inv.waiting statement (mem_of_getElem? hstatement)⟩
        · exact inv.lock (le_refl _) (.inr (by simp)) (inv.fewer i) (by simp)
      · cases h
  | abandon i =>
      obtain ⟨statement, -, rfl⟩ := Option.map_eq_some_iff.mp h
      exact inv.lock (le_refl _) (.inl rfl) (inv.fewer i) inv.enrolling

/-! ## The theorem -/

/-- Whoever enrolled a user from before activation granted the balance after exactly
    the ledger rows up to the cursor if and only if the balance, floored at zero, was
    the same in the row it locked and in its snapshot. -/
theorem exemption_atCursor_iff {s₀ s : State} (opening : s₀.Opening)
    (run : Transition.Steps step Transition.anyStep s₀ s) {enrolled : Enrolled}
    (seen : s.user.redemptionTax = some enrolled) :
    ∃ statement version, s.enrolledBy = some (statement, version) ∧
      (s.user.createdAt < statement.activation →
        (enrolled.exemptRemainingUsd = max 0 (s.balanceThrough enrolled.fromLedgerId) ↔
          max 0 version.creditBalanceUsd = max 0 statement.user.creditBalanceUsd)) := by
  have inv : Inv s := run.invariant (.opening opening) fun _ _ _ inv _ next => inv.step next
  obtain ⟨statement, version, granted, wrote, created, fits⟩ := inv.enrolled enrolled seen
  refine ⟨statement, version, granted, fun veteran => ?_⟩
  rw [← created] at veteran
  rw [wrote]
  unfold Statement.enroll
  rw [if_pos veteran, fits.through, max_comm]

/-! A settlement of three dollars, committed while the enrolment waits for it. -/

def beforeFlip : State where
  user :=
    { creditBalanceUsd := 10
      createdAt := 1
      redemptionTax := none }
  ledger := [{ id := 1, entryType := .purchase, amountUsd := 10 }]
  nextLedgerId := 2
  holder := none
  waiting := []
  enrolledBy := none

def settledWhileWaiting : List Action :=
  [.move .usage (-3), .insertLedger, .startEnroll 5 5, .commit, .lockRow 0, .commit]

/-- With nothing committed in between, the exemption is the balance at the cursor. -/
theorem exemption_atCursor_iff_settledBefore :
    ∃ s : State, s.user.redemptionTax = some ⟨5, 2, 7⟩ ∧
      (7 : Decimal) = max 0 (s.balanceThrough 2) := by
  have opening : beforeFlip.Opening := ⟨by decide, rfl, rfl, rfl, rfl, by decide⟩
  have runs : (Transition.runWhile step Transition.anyStep beforeFlip
      [.move .usage (-3), .insertLedger, .commit, .startEnroll 5 5, .lockRow 0, .commit]).any
      (fun s => s.user.redemptionTax = some ⟨5, 2, 7⟩ ∧ s.user.createdAt = 1 ∧
        s.enrolledBy.map (fun by_ => (by_.1.activation, by_.1.user.creditBalanceUsd,
          by_.2.creditBalanceUsd)) = some (5, 7, 7)) = true := by
    decide +kernel
  obtain ⟨s, run, hs⟩ := Transition.Steps.exists_of_runWhile runs
  obtain ⟨seen, created, versions⟩ := of_decide_eq_true hs
  obtain ⟨statement, version, granted, exact_⟩ := exemption_atCursor_iff opening run seen
  rw [granted] at versions
  simp only [Option.map_some, Option.some.injEq, Prod.mk.injEq] at versions
  obtain ⟨activation, snapshot, locked⟩ := versions
  refine ⟨s, seen, (exact_ ?_).mpr ?_⟩
  · rw [created, activation]
    decide
  · rw [snapshot, locked]

/-- The enrolment takes the balance after a settlement and a cursor before it: the
    exemption is three dollars short of the balance at its cursor, and the three
    dollars of usage are past the cursor. -/
theorem exemption_not_atCursor :
    beforeFlip.Opening ∧ ∃ s, Transition.Steps step Transition.anyStep beforeFlip s ∧
      ∃ enrolled statement version, s.user.redemptionTax = some enrolled ∧
        s.enrolledBy = some (statement, version) ∧ s.user.createdAt < statement.activation ∧
        enrolled.exemptRemainingUsd ≠ max 0 (s.balanceThrough enrolled.fromLedgerId) ∧
        amountAfter s.ledger enrolled.fromLedgerId = -3 := by
  refine ⟨⟨by decide, rfl, rfl, rfl, rfl, by decide⟩, ?_⟩
  have runs : (Transition.runWhile step Transition.anyStep beforeFlip settledWhileWaiting).any
      (fun s => s.user = ⟨7, 1, some ⟨5, 1, 7⟩⟩ ∧
        s.enrolledBy = some (⟨5, 5, beforeFlip.user, beforeFlip.ledger⟩, ⟨7, 1, none⟩) ∧
        amountAfter s.ledger 1 = -3) = true := by
    decide +kernel
  obtain ⟨s, run, hs⟩ := Transition.Steps.exists_of_runWhile runs
  obtain ⟨user, granted, usage⟩ := of_decide_eq_true hs
  refine ⟨s, run, ⟨5, 1, 7⟩, _, _, by rw [user], granted, by rw [user]; decide, ?_, usage⟩
  unfold State.balanceThrough
  rw [user, usage]
  decide +kernel

end Enrollment

end Redemption

end ZeroRouter
