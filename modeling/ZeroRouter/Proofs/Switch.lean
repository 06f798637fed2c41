import ZeroRouter.Proofs.DryRun

/-!
# Switching to collect after a dry run

`collect` works on whatever the dry run left.  Two runs that differ in a dry run
before the switch agree from the switch on exactly when what the dry run left for
the user is what the switch alone would have made.
-/

namespace ZeroRouter

open List Relational

namespace Redemption

namespace Account

variable {a b : Account} {ledger : List LedgerRow} {periods : List Period} {period : Period}
  {cut c d through : Nat} {f : Period → Period} {mine theirs : List Period} {γ : Type}
  {enrolled : Enrolled} {now : Timestamp} {g : Period → Option γ}

/-! ## From the switch on -/

/-- A period, whatever it begins at. -/
def forgetFrom (period : Period) : Period := { period with fromLedgerId := 0 }

/-- Two runs after the switch: the same account but for periods of before the switch,
    which are silent, and for where the first period since begins. -/
structure Agree (cut : Nat) (a b : Account) : Prop where
  balance : a.user.creditBalanceUsd = b.user.creditBalanceUsd
  ledger : a.ledger = b.ledger
  filed : a.filed = b.filed
  debits : ∀ row ∈ b.ledger, row.entryType = .usage → row.amountUsd < 0
  enrolled : ∃ ea eb, a.user.redemptionTax = some ea ∧ b.user.redemptionTax = some eb ∧
    ea.exemptRemainingUsd = eb.exemptRemainingUsd ∧
    usageAfter b.ledger (sweptThrough ea.fromLedgerId a.periods) =
      usageAfter b.ledger (sweptThrough eb.fromLedgerId b.periods) ∧
    sweptThrough ea.fromLedgerId a.periods ≤ maxLedgerId b.ledger ∧
    sweptThrough eb.fromLedgerId b.periods ≤ maxLedgerId b.ledger ∧
    cut ≤ sweptThrough eb.fromLedgerId b.periods
  periods : ∃ silent mine, a.periods = silent ++ mine ∧
    (∀ period ∈ silent, period.throughLedgerId ≤ cut ∧ Silent period) ∧
    mine.map forgetFrom = b.periods.map forgetFrom ∧
    ∀ period ∈ b.periods, cut < period.throughLedgerId

theorem Agree.observed (agree : Agree cut a b) : a.observed = b.observed := by
  obtain ⟨ea, eb, seenA, seenB, exempt, -⟩ := agree.enrolled
  unfold Account.observed
  rw [agree.balance, agree.ledger, agree.filed, seenA, seenB, Option.map_some, Option.map_some,
    exempt]

/-- Later rows are past both cursors. -/
theorem usageAfter_append {rows : List LedgerRow}
    (same : usageAfter ledger c = usageAfter ledger d)
    (past : ∀ row ∈ rows, c < row.id ∧ d < row.id) :
    usageAfter (ledger ++ rows) c = usageAfter (ledger ++ rows) d := by
  unfold usageAfter at *
  rw [filter_append, filter_append, same]
  congr 1
  refine filter_congr fun row hrow => ?_
  obtain ⟨pastC, pastD⟩ := past row hrow
  simp [pastC, pastD]

theorem maxLedgerId_le_append (ledger rows : List LedgerRow) :
    maxLedgerId ledger ≤ maxLedgerId (ledger ++ rows) := by
  induction rows generalizing ledger with
  | nil => rw [append_nil]
  | cons row rest ih =>
      have step := ih (ledger ++ [row])
      rw [maxLedgerId_append, append_assoc] at step
      exact (le_max_left _ _).trans step

theorem newUsage_congr (same : usageAfter ledger c = usageAfter ledger d) :
    newUsage ledger c = newUsage ledger d := by
  unfold newUsage
  rw [same]

theorem sweptThrough_map {fromLedgerId : Nat}
    (keeps : ∀ period, (f period).throughLedgerId = period.throughLedgerId) :
    sweptThrough fromLedgerId (periods.map f) = sweptThrough fromLedgerId periods := by
  unfold sweptThrough
  rw [map_map]
  congr 4
  funext period
  exact keeps period

section Agreement

variable {cut : Nat}

/-- A map over the periods that no start decides, and that keeps silence. -/
theorem Agree.mapped (agree : Agree cut a b)
    (keeps : ∀ period, (f period).throughLedgerId = period.throughLedgerId)
    (forgets : ∀ period, forgetFrom (f period) = f (forgetFrom period))
    (silences : ∀ period, period.throughLedgerId ≤ cut → period ∈ a.periods → Silent period →
      Silent (f period)) :
    Agree cut { a with periods := a.periods.map f } { b with periods := b.periods.map f } := by
  obtain ⟨ea, eb, seenA, seenB, exempt, same, withinA, withinB, after⟩ := agree.enrolled
  obtain ⟨silent, mine, split, quiet, twins, since⟩ := agree.periods
  refine ⟨agree.balance, agree.ledger, agree.filed, agree.debits, ?_, ?_⟩
  · refine ⟨ea, eb, seenA, seenB, exempt, ?_⟩
    show usageAfter b.ledger (sweptThrough ea.fromLedgerId (a.periods.map f)) =
        usageAfter b.ledger (sweptThrough eb.fromLedgerId (b.periods.map f)) ∧
      sweptThrough ea.fromLedgerId (a.periods.map f) ≤ maxLedgerId b.ledger ∧
      sweptThrough eb.fromLedgerId (b.periods.map f) ≤ maxLedgerId b.ledger ∧
      cut ≤ sweptThrough eb.fromLedgerId (b.periods.map f)
    rw [sweptThrough_map keeps, sweptThrough_map keeps]
    exact ⟨same, withinA, withinB, after⟩
  · refine ⟨silent.map f, mine.map f, ?_, ?_, ?_, ?_⟩
    · show a.periods.map f = _
      rw [split, map_append]
    · intro period hperiod
      obtain ⟨old, hold, rfl⟩ := mem_map.mp hperiod
      obtain ⟨early, still⟩ := quiet old hold
      refine ⟨by rw [keeps]; exact early, silences old early ?_ still⟩
      rw [split]
      exact mem_append_left _ hold
    · have commute : ∀ periods : List Period,
          (periods.map f).map forgetFrom = (periods.map forgetFrom).map f := by
        intro periods
        rw [map_map, map_map]
        exact map_congr_left fun period _ => forgets period
      show (mine.map f).map forgetFrom = (b.periods.map f).map forgetFrom
      rw [commute, commute, twins]
    · intro period hperiod
      obtain ⟨old, hold, rfl⟩ := mem_map.mp hperiod
      rw [keeps]
      exact since old hold

/-- Money moves alike in both, with rows the sequence has just given out. -/
theorem Agree.moved (agree : Agree cut a b) (amountUsd : Decimal) (rows : List LedgerRow)
    (fresh : ∀ row ∈ rows, maxLedgerId b.ledger < row.id ∧
      (row.entryType = .usage → row.amountUsd < 0)) :
    Agree cut
      { a with
        user := { a.user with creditBalanceUsd := a.user.creditBalanceUsd + amountUsd }
        ledger := a.ledger ++ rows }
      { b with
        user := { b.user with creditBalanceUsd := b.user.creditBalanceUsd + amountUsd }
        ledger := b.ledger ++ rows } := by
  obtain ⟨ea, eb, seenA, seenB, exempt, same, withinA, withinB, after⟩ := agree.enrolled
  have grows := maxLedgerId_le_append b.ledger rows
  refine ⟨?_, ?_, agree.filed, ?_, ?_, agree.periods⟩
  · show a.user.creditBalanceUsd + amountUsd = b.user.creditBalanceUsd + amountUsd
    rw [agree.balance]
  · show a.ledger ++ rows = b.ledger ++ rows
    rw [agree.ledger]
  · intro row hrow usage
    rcases mem_append.mp hrow with before | new
    · exact agree.debits row before usage
    · exact (fresh row new).2 usage
  · refine ⟨ea, eb, seenA, seenB, exempt, usageAfter_append same fun row hrow => ?_,
      withinA.trans grows, withinB.trans grows, after⟩
    exact ⟨withinA.trans_lt (fresh row hrow).1, withinB.trans_lt (fresh row hrow).1⟩

theorem Agree.money (agree : Agree cut a b) (entryType : EntryType) (amountUsd : Decimal) :
    Agree cut (a.money entryType amountUsd) (b.money entryType amountUsd) := by
  unfold Account.money
  by_cases refused : entryType = .usage ∧ 0 ≤ amountUsd
  · rw [if_pos refused, if_pos refused]
    exact agree
  · rw [if_neg refused, if_neg refused, agree.ledger]
    have moved := agree.moved amountUsd
      [{ id := maxLedgerId b.ledger + 1, entryType, amountUsd }] (by
        intro row hrow
        rw [mem_singleton.mp hrow]
        exact ⟨Nat.lt_succ_self _, fun usage => not_le.mp fun nonneg => refused ⟨usage, nonneg⟩⟩)
    rw [agree.ledger] at moved
    exact moved

theorem Agree.openPeriod (agree : Agree cut a b) (id : Uuid) :
    Agree cut (a.openPeriod id) (b.openPeriod id) := by
  obtain ⟨ea, eb, seenA, seenB, exempt, same, withinA, withinB, after⟩ := agree.enrolled
  have debitsA : ∀ row ∈ a.ledger, row.entryType = .usage → row.amountUsd < 0 := by
    rw [agree.ledger]
    exact agree.debits
  have reads : newUsage a.ledger (sweptThrough ea.fromLedgerId a.periods) =
      newUsage b.ledger (sweptThrough eb.fromLedgerId b.periods) := by
    rw [agree.ledger]
    exact newUsage_congr same
  rcases openPeriod_cases a id debitsA with ⟨idleA, noneA⟩ | openedA
  · rcases openPeriod_cases b id agree.debits with ⟨idleB, -⟩ | openedB
    · rw [idleA, idleB]
      exact agree
    · obtain ⟨other, through, usageUsd, seen, new, -⟩ := openedB
      cases seenB.symm.trans seen
      rw [← reads, noneA ea seenA] at new
      cases new
  · obtain ⟨other, through, usageUsd, seen, new, -, effectA⟩ := openedA
    cases seenA.symm.trans seen
    rcases openPeriod_cases b id agree.debits with ⟨-, noneB⟩ | openedB
    · rw [reads, noneB eb seenB] at new
      cases new
    · obtain ⟨otherB, throughB, usageB, seen', newB, -, effectB⟩ := openedB
      cases seenB.symm.trans seen'
      have both : (throughB, usageB) = (through, usageUsd) :=
        Option.some.inj (newB.symm.trans (reads.symm.trans new))
      cases both
      have forwardA := (newUsage_some new).1
      obtain ⟨forwardB, -, ⟨last, inLedger, lastId⟩, -⟩ := newUsage_some newB
      have within : through ≤ maxLedgerId b.ledger := lastId ▸ le_maxLedgerId inLedger
      obtain ⟨silent, mine, split, quiet, twins, since⟩ := agree.periods
      rw [effectA, effectB]
      refine ⟨agree.balance, agree.ledger, agree.filed, agree.debits, ?_, ?_⟩
      · refine ⟨_, _, rfl, rfl, ?_, ?_⟩
        · show ea.exemptRemainingUsd - min ea.exemptRemainingUsd usageUsd =
            eb.exemptRemainingUsd - min eb.exemptRemainingUsd usageUsd
          rw [exempt]
        · dsimp only
          rw [sweptThrough_append (newPeriod id _ through _ usageUsd) forwardA.le,
            sweptThrough_append (newPeriod id _ through _ usageUsd) forwardB.le]
          exact ⟨rfl, within, within, after.trans forwardB.le⟩
      · refine ⟨silent, mine ++ [newPeriod id (sweptThrough ea.fromLedgerId a.periods) through
          ea.exemptRemainingUsd usageUsd], ?_, quiet, ?_, ?_⟩
        · show a.periods ++ [_] = _
          rw [split, append_assoc]
        · show _ = (b.periods ++ [_]).map forgetFrom
          rw [map_append, map_append, twins, exempt]
          rfl
        · intro period hperiod
          rcases mem_append.mp hperiod with before | fresh
          · exact since period before
          · rw [mem_singleton.mp fresh]
            exact after.trans_lt forwardB

theorem forgetFrom_price (period : Period) (calculation : Option Calculation) :
    forgetFrom (period.price calculation) = (forgetFrom period).price calculation := by
  unfold Period.price
  by_cases cents : taxableCents period.taxableUsd ≤ 0
  · rw [if_pos cents]
    exact (if_pos cents).symm
  · rw [if_neg cents]
    refine Eq.trans ?_ (if_neg cents).symm
    cases calculation <;> rfl

theorem Agree.price (agree : Agree cut a b) (through : Nat) (calculation : Option Calculation) :
    Agree cut (a.price through calculation) (b.price through calculation) := by
  refine agree.mapped ?_ ?_ ?_
  · intro period
    split
    · exact congrArg Span.throughLedgerId (price_columns period calculation).1
    · rfl
  · intro period
    by_cases chosen : period.throughLedgerId = through ∧ period.taxUsd = none
    · rw [if_pos chosen, forgetFrom_price]
      exact (if_pos chosen).symm
    · rw [if_neg chosen]
      exact (if_neg chosen).symm
  · intro period _ _ silent
    split
    · exact silent.price calculation
    · exact silent

/-! ### Collecting and recording -/

/-- What a pass finds of the periods since the switch, it finds alike in both. -/
theorem twins_find (twins : mine.map forgetFrom = theirs.map forgetFrom) {P : Period → Bool}
    (blind : ∀ period, P (forgetFrom period) = P period)
    (reads : ∀ period, g (forgetFrom period) = g period) :
    (mine.find? P).bind g = (theirs.find? P).bind g := by
  have through : ∀ periods : List Period,
      ((periods.map forgetFrom).find? P).bind g = (periods.find? P).bind g := by
    intro periods
    rw [find?_map]
    have same : P ∘ forgetFrom = P := funext blind
    rw [same]
    cases periods.find? P with
    | none => rfl
    | some period => exact reads period
  rw [← through mine, ← through theirs, twins]

/-- A period since the switch ends past it. -/
theorem Agree.mine_after (twins : mine.map forgetFrom = theirs.map forgetFrom)
    (since : ∀ period ∈ theirs, cut < period.throughLedgerId) (h : period ∈ mine) :
    cut < period.throughLedgerId := by
  have mem : forgetFrom period ∈ theirs.map forgetFrom := twins ▸ mem_map_of_mem h
  obtain ⟨other, hother, same⟩ := mem_map.mp mem
  have ends : other.throughLedgerId = period.throughLedgerId :=
    congrArg (fun period => period.throughLedgerId) same
  rw [← ends]
  exact since other hother

/-- A pass over one period finds, past the switch, the same in both; before it, only
    a silent period of the dry run. -/
theorem Agree.find (agree : Agree cut a b) (through : Nat) {Q : Period → Bool}
    (blind : ∀ period, Q (forgetFrom period) = Q period)
    (reads : ∀ period, g (forgetFrom period) = g period) :
    (cut < through ∧
      (a.periods.find? fun period => period.throughLedgerId = through ∧ Q period).bind g =
        (b.periods.find? fun period => period.throughLedgerId = through ∧ Q period).bind g) ∨
    (through ≤ cut ∧
      b.periods.find? (fun period => period.throughLedgerId = through ∧ Q period) = none ∧
      ∀ period,
        a.periods.find? (fun period => period.throughLedgerId = through ∧ Q period) =
          some period → Silent period) := by
  obtain ⟨silent, mine, split, quiet, twins, since⟩ := agree.periods
  by_cases late : cut < through
  · refine .inl ⟨late, ?_⟩
    have nothing : silent.find? (fun period =>
        period.throughLedgerId = through ∧ Q period) = none := by
      rw [find?_eq_none]
      intro period hperiod chosen
      have ends : period.throughLedgerId = through := (of_decide_eq_true chosen).1
      exact absurd (ends ▸ (quiet period hperiod).1) (not_le.mpr late)
    rw [split, find?_append, nothing, Option.none_or]
    refine twins_find twins (fun period => ?_) reads
    rw [blind]
    rfl
  · have early := not_lt.mp late
    have noneOf : ∀ periods : List Period,
        (∀ period ∈ periods, cut < period.throughLedgerId) →
        periods.find? (fun period => period.throughLedgerId = through ∧ Q period) = none := by
      intro periods past
      rw [find?_eq_none]
      intro period hperiod chosen
      have ends : period.throughLedgerId = through := (of_decide_eq_true chosen).1
      exact absurd (ends ▸ past period hperiod) (not_lt.mpr early)
    refine .inr ⟨early, noneOf b.periods since, fun period found => ?_⟩
    rw [split, find?_append,
      noneOf mine fun period hperiod => Agree.mine_after twins since hperiod, Option.or_none]
      at found
    exact (quiet period (mem_of_find?_eq_some found)).2

theorem Agree.unfiled (agree : Agree cut a b) (through : Nat) :
    a.unfiled through = b.unfiled through := by
  have blind := agree.find through (Q := fun period => period.debitedAt ≠ none)
    (g := fun period => period.taxCalculationId) (fun _ => rfl) (fun _ => rfl)
  simp only [decide_eq_true_eq] at blind
  unfold Account.unfiled
  rcases blind with ⟨-, same⟩ | ⟨-, nothing, silent⟩
  · exact same
  · rw [nothing]
    cases found : a.periods.find? fun period =>
        period.throughLedgerId = through ∧ period.debitedAt ≠ none with
    | none => rfl
    | some period => exact (silent period found).noCalculation

theorem Agree.record (agree : Agree cut a b) (through : Nat) :
    Agree cut (a.record through) (b.record through) := by
  unfold Account.record
  rw [agree.unfiled through, agree.filed]
  cases b.unfiled through with
  | none => exact agree
  | some calculation =>
      dsimp only
      split
      · exact agree
      · exact ⟨agree.balance, agree.ledger, rfl, agree.debits, agree.enrolled, agree.periods⟩

/-- What collecting writes on the periods that end at a ledger id. -/
def stamp (through : Nat) (now : Timestamp) (taxUsd collected : Decimal) (ledgerId : Nat)
    (period : Period) : Period :=
  if period.throughLedgerId = through then period.collect now taxUsd collected ledgerId
  else period

theorem Agree.stamped (agree : Agree cut a b) (through : Nat) (now : Timestamp)
    (taxUsd collected : Decimal) (ledgerId : Nat) :
    Agree cut { a with periods := a.periods.map (stamp through now taxUsd collected ledgerId) }
      { b with periods := b.periods.map (stamp through now taxUsd collected ledgerId) } := by
  refine agree.mapped ?_ ?_ ?_
  · intro period
    unfold stamp
    split <;> rfl
  · intro period
    unfold stamp
    by_cases chosen : period.throughLedgerId = through
    · rw [if_pos chosen]
      exact (if_pos chosen).symm
    · rw [if_neg chosen]
      exact (if_neg chosen).symm
  · intro period early _ still
    unfold stamp
    split
    · exact ⟨still.cents, still.noCalculation, still.noTax⟩
    · exact still

/-- A period the switch has not reached is none of the other run's. -/
theorem stamp_past (early : through ≤ cut)
    (since : ∀ period ∈ periods, cut < period.throughLedgerId) (now : Timestamp)
    (taxUsd collected : Decimal) (ledgerId : Nat) :
    periods.map (stamp through now taxUsd collected ledgerId) = periods := by
  refine (map_congr_left fun period hperiod => ?_).trans (map_id periods)
  unfold stamp
  rw [if_neg]
  · rfl
  · intro ends
    have past := since period hperiod
    rw [ends] at past
    exact absurd past (not_lt.mpr early)

theorem collect_some {taxUsd : Decimal} (owed : a.owedTax through = some taxUsd) (now : Timestamp) :
    a.collect through now =
      { a with
        user := { a.user with creditBalanceUsd :=
          a.user.creditBalanceUsd - collectable taxUsd a.user.creditBalanceUsd }
        ledger := a.ledger ++
          if 0 < collectable taxUsd a.user.creditBalanceUsd then
            [{ id := maxLedgerId a.ledger + 1, entryType := .tax,
               amountUsd := -collectable taxUsd a.user.creditBalanceUsd }]
          else []
        periods := a.periods.map (stamp through now taxUsd
          (collectable taxUsd a.user.creditBalanceUsd) (maxLedgerId a.ledger + 1)) } := by
  unfold Account.collect
  rw [owed]
  rfl

theorem Agree.collect (agree : Agree cut a b) (through : Nat) (now : Timestamp) :
    Agree cut (a.collect through now) (b.collect through now) := by
  have blind := agree.find through (Q := fun period => period.debitedAt = none)
    (g := fun period => period.taxUsd) (fun _ => rfl) (fun _ => rfl)
  simp only [decide_eq_true_eq] at blind
  rcases blind with ⟨late, same⟩ | ⟨early, nothing, silent⟩
  · have owes : a.owedTax through = b.owedTax through := same
    cases owed : b.owedTax through with
    | none =>
        rw [owed] at owes
        unfold Account.collect
        rw [owes, owed]
        exact agree
    | some taxUsd =>
        rw [owed] at owes
        have stamped := agree.stamped through now taxUsd
          (collectable taxUsd b.user.creditBalanceUsd) (maxLedgerId b.ledger + 1)
        have moved := stamped.moved (-collectable taxUsd b.user.creditBalanceUsd)
          (if 0 < collectable taxUsd b.user.creditBalanceUsd then
            [{ id := maxLedgerId b.ledger + 1, entryType := .tax,
               amountUsd := -collectable taxUsd b.user.creditBalanceUsd }]
            else []) (by
              intro row hrow
              split at hrow
              · rw [mem_singleton.mp hrow]
                exact ⟨Nat.lt_succ_self _, fun usage => by cases usage⟩
              · cases hrow)
        rw [collect_some owes now, collect_some owed now, agree.balance, agree.ledger]
        simp only [← sub_eq_add_neg] at moved
        rw [agree.balance, agree.ledger] at moved
        exact moved
  · have idle : b.owedTax through = none := by
      unfold Account.owedTax
      rw [nothing]
      rfl
    have still : b.collect through now = b := by
      unfold Account.collect
      rw [idle]
    rw [still]
    cases owed : a.owedTax through with
    | none =>
        unfold Account.collect
        rw [owed]
        exact agree
    | some taxUsd =>
        -- The dry run's period froze no tax, so stamping it takes nothing.
        obtain ⟨period, found, priced⟩ := Option.bind_eq_some_iff.mp owed
        have zero : taxUsd = 0 := by
          rcases (silent period found).noTax with unpriced | free
          · rw [unpriced] at priced
            cases priced
          · exact (Option.some.inj (free.symm.trans priced)).symm
        subst zero
        have takes : collectable 0 a.user.creditBalanceUsd = 0 := if_neg (lt_irrefl _)
        have stamped := agree.stamped through now 0 0 (maxLedgerId a.ledger + 1)
        obtain ⟨_, _, _, _, _, since⟩ := agree.periods
        rw [stamp_past early since] at stamped
        rw [collect_some owed now, takes, sub_zero, if_neg (lt_irrefl _), append_nil]
        exact stamped

end Agreement

/-- Whatever comes after the switch, agreement stays. -/
theorem Agree.run (agree : Agree cut a b) (schedule : List Event) :
    Agree cut (run .collect schedule a) (run .collect schedule b) := by
  induction schedule generalizing a b with
  | nil => exact agree
  | cons event rest ih =>
      rw [run_cons, run_cons]
      cases event with
      | money entryType amountUsd => exact ih (agree.money entryType amountUsd)
      | enrollOthers now =>
          exact ih (a := a.step (.enrollOthers now)) (b := b.step (.enrollOthers now))
            ⟨agree.balance, agree.ledger, agree.filed, agree.debits, agree.enrolled,
              agree.periods⟩
      | enroll now =>
          obtain ⟨ea, eb, seenA, seenB, -⟩ := agree.enrolled
          have idleA : a.enroll now = a := by unfold Account.enroll; rw [seenA]
          have idleB : b.enroll now = b := by unfold Account.enroll; rw [seenB]
          have agreeing : Agree cut (a.enroll now) (b.enroll now) := by
            rw [idleA, idleB]
            exact agree
          exact ih agreeing
      | openPeriod id => exact ih (agree.openPeriod id)
      | price through calculation => exact ih (agree.price through calculation)
      | collect through now => exact ih (agree.collect through now)
      | record through => exact ih (agree.record through)

/-! ## The switch -/

/-- The first pass under `collect`, for this user: it enrols, and opens a period. -/
def switch (a : Account) (now : Timestamp) (id : Uuid) : Account :=
  (a.enroll now).openPeriod id

/-- The usage no period has covered yet. -/
def unswept (a : Account) (enrolled : Enrolled) : Decimal :=
  ((newUsage a.ledger (sweptThrough enrolled.fromLedgerId a.periods)).map Prod.snd).getD 0

/-- What a dry run left for the user is what the switch alone would make: the
    exemption, less the usage that still comes off it, is the balance held, and no
    period comes to a taxable cent. -/
@[mk_iff]
structure LeavesNoTrace (a : Account) (now : Timestamp) : Prop where
  unseen : a.user.redemptionTax = none →
    a.user.createdAt < a.activation.getD now ∨ a.user.creditBalanceUsd ≤ 0
  exempt : ∀ enrolled ∈ a.user.redemptionTax,
    enrolled.exemptRemainingUsd - min enrolled.exemptRemainingUsd (a.unswept enrolled) =
      max a.user.creditBalanceUsd 0
  unswept : ∀ enrolled ∈ a.user.redemptionTax,
    taxableCents (a.unswept enrolled -
      min enrolled.exemptRemainingUsd (a.unswept enrolled)) ≤ 0
  periods : ∀ period ∈ a.periods, taxableCents period.taxableUsd ≤ 0

instance (a : Account) (now : Timestamp) : Decidable (a.LeavesNoTrace now) :=
  decidable_of_iff _ (leavesNoTrace_iff a now).symm

/-- An enrolment that took the newest row for its cursor has nothing to open. -/
theorem openPeriod_idle (seen : a.user.redemptionTax = some enrolled)
    (newest : maxLedgerId a.ledger ≤ enrolled.fromLedgerId) (id : Uuid) :
    a.openPeriod id = a ∧
      newUsage a.ledger (sweptThrough enrolled.fromLedgerId a.periods) = none := by
  have nothing : newUsage a.ledger (sweptThrough enrolled.fromLedgerId a.periods) = none :=
    newUsage_maxLedgerId fun row hrow _ =>
      (le_maxLedgerId hrow).trans (newest.trans (from_le_sweptThrough _ _))
  refine ⟨?_, nothing⟩
  unfold Account.openPeriod
  rw [seen]
  simp only [nothing]

/-- The switch of a run that swept nothing before: the balance is exempt, and all
    there is on the ledger is behind the cursor. -/
theorem switch_off (shadow : Shadow a b) (created : a.user.createdAt < now) (id : Uuid) :
    b.switch now id =
      { b with
        user := { b.user with
          redemptionTax := some
            { enrolledAt := now
              fromLedgerId := maxLedgerId b.ledger
              exemptRemainingUsd := max b.user.creditBalanceUsd 0 } }
        activation := some now } := by
  have enrolled : b.enroll now =
      { b with
        user := { b.user with
          redemptionTax := some
            { enrolledAt := now
              fromLedgerId := maxLedgerId b.ledger
              exemptRemainingUsd := max b.user.creditBalanceUsd 0 } }
        activation := some now } := by
    unfold Account.enroll
    rw [shadow.offUnseen]
    dsimp only
    rw [shadow.offActivation, Option.getD_none]
    unfold Enrollment.Statement.enroll
    rw [shadow.createdAt] at created
    rw [if_pos created]
  unfold switch
  rw [enrolled]
  exact (openPeriod_idle rfl (le_refl _) id).1

theorem usageAfter_nil {cursor : Nat} (h : newUsage ledger cursor = none) :
    usageAfter ledger cursor = [] := by
  unfold newUsage at h
  split at h
  · next nothing => exact nothing
  · cases h

theorem taxableCents_zero : taxableCents 0 = 0 := by
  unfold taxableCents
  rw [zero_mul, Int.floor_zero]
  rfl

/-- What the switch makes of the account a dry run left. -/
structure Switched (before after : Account) (now : Timestamp) (enrolled : Enrolled) : Prop where
  seen : after.user.redemptionTax = some enrolled
  balance : after.user.creditBalanceUsd = before.user.creditBalanceUsd
  ledger : after.ledger = before.ledger
  filed : after.filed = before.filed
  nothingNew : usageAfter before.ledger
    (sweptThrough enrolled.fromLedgerId after.periods) = []
  within : sweptThrough enrolled.fromLedgerId after.periods ≤ maxLedgerId before.ledger
  noTrace : before.LeavesNoTrace now ↔
    enrolled.exemptRemainingUsd = max before.user.creditBalanceUsd 0 ∧
      ∀ period ∈ after.periods, taxableCents period.taxableUsd ≤ 0

/-- A user the dry run has not reached is enrolled by the switch. -/
theorem switched_unseen (shadow : Shadow a b) (seen : a.user.redemptionTax = none)
    (now : Timestamp) (id : Uuid) : ∃ enrolled, Switched a (a.switch now id) now enrolled := by
  have none_ := shadow.unseen seen
  have enrolls : a.enroll now =
      { a with
        user := { a.user with
          redemptionTax := some (Enrollment.Statement.enroll
            { now, activation := a.activation.getD now, user := a.user, ledger := a.ledger }
            a.user) }
        activation := some (a.activation.getD now) } := by
    unfold Account.enroll
    rw [seen]
  have opens : a.switch now id = a.enroll now := by
    unfold switch
    rw [enrolls]
    exact (openPeriod_idle rfl (le_refl _) id).1
  rw [opens, enrolls]
  refine ⟨_, rfl, rfl, rfl, rfl, ?_, ?_, ?_⟩
  · apply usageAfter_nil
    exact newUsage_maxLedgerId fun row hrow _ =>
      (le_maxLedgerId hrow).trans (from_le_sweptThrough _ _)
  · refine sweptThrough_le (le_refl _) ?_
    show ∀ period ∈ a.periods, _
    rw [none_]
    simp
  · rw [leavesNoTrace_iff]
    unfold Enrollment.Statement.enroll
    dsimp only
    rw [none_, seen]
    by_cases veteran : a.user.createdAt < a.activation.getD now
    · rw [if_pos veteran]
      simp [veteran]
    · rw [if_neg veteran]
      constructor
      · rintro ⟨unseen, -⟩
        have drained := (unseen rfl).resolve_left veteran
        exact ⟨(max_eq_right drained).symm, by simp⟩
      · rintro ⟨drained, -⟩
        exact ⟨fun _ => .inr (max_eq_right_iff.mp drained.symm), by simp, by simp, by simp⟩

/-- A user the dry run has enrolled has what it left unswept put in one more period. -/
theorem switched_seen (shadow : Shadow a b) (seen : a.user.redemptionTax = some enrolled)
    (now : Timestamp) (id : Uuid) :
    ∃ enrolled, Switched a (a.switch now id) now enrolled := by
  obtain ⟨from_, exempt⟩ := shadow.enrolledBefore enrolled seen
  have enrolls : a.enroll now = a := by
    unfold Account.enroll
    rw [seen]
  unfold switch
  rw [enrolls]
  rcases openPeriod_cases a id shadow.debits with ⟨idle, nothing⟩ | opened
  · rw [idle]
    have new := nothing enrolled seen
    have none_ : a.unswept enrolled = 0 := by rw [unswept, new]; rfl
    refine ⟨enrolled, seen, rfl, rfl, rfl, usageAfter_nil new, sweptThrough_le from_ shadow.swept,
      ?_⟩
    rw [leavesNoTrace_iff, seen]
    constructor
    · rintro ⟨-, left, -, silent⟩
      have held := left enrolled rfl
      rw [none_, min_eq_right exempt, sub_zero] at held
      exact ⟨held, silent⟩
    · rintro ⟨held, silent⟩
      refine ⟨(fun unseen => by cases unseen), ?_, ?_, silent⟩
      · rintro other ⟨⟩
        rw [none_, min_eq_right exempt, sub_zero]
        exact held
      · rintro other ⟨⟩
        rw [none_, min_eq_right exempt, sub_zero, taxableCents_zero]
  · obtain ⟨other, through, usageUsd, same, new, -, effect⟩ := opened
    cases seen.symm.trans same
    obtain ⟨forward, -, ⟨last, inLedger, lastId⟩, newest⟩ := newUsage_some new
    have some_ : a.unswept enrolled = usageUsd := by rw [unswept, new]; rfl
    rw [effect]
    refine ⟨_, rfl, rfl, rfl, rfl, ?_, ?_, ?_⟩
    · dsimp only
      rw [sweptThrough_append (newPeriod id _ through _ usageUsd) forward.le,
        eq_nil_iff_forall_not_mem]
      intro row hrow
      obtain ⟨mem, usage, after⟩ := mem_usageAfter.mp hrow
      exact absurd (newest row mem usage (forward.trans after)) (not_le.mpr after)
    · dsimp only
      rw [sweptThrough_append (newPeriod id _ through _ usageUsd) forward.le]
      exact lastId ▸ le_maxLedgerId inLedger
    · rw [leavesNoTrace_iff, seen]
      constructor
      · rintro ⟨-, left, fresh, old⟩
        have held := left enrolled rfl
        have cents := fresh enrolled rfl
        rw [some_] at held cents
        refine ⟨held, fun period hperiod => ?_⟩
        rcases mem_append.mp hperiod with before | new
        · exact old period before
        · rw [mem_singleton.mp new]
          exact cents
      · rintro ⟨held, every⟩
        refine ⟨(fun unseen => by cases unseen), ?_, ?_,
          fun period hperiod => every period (mem_append_left _ hperiod)⟩
        · rintro other ⟨⟩
          rw [some_]
          exact held
        · rintro other ⟨⟩
          rw [some_]
          exact every _ (mem_append_right _ mem_cons_self)

theorem switched (shadow : Shadow a b) (now : Timestamp) (id : Uuid) :
    ∃ enrolled, Switched a (a.switch now id) now enrolled := by
  cases seen : a.user.redemptionTax with
  | none => exact switched_unseen shadow seen now id
  | some enrolled => exact switched_seen shadow seen now id

/-- With no trace left, the two runs agree from the switch on. -/
theorem agree_switch (shadow : Shadow a b) (created : a.user.createdAt < now) (id : Uuid)
    (clean : a.LeavesNoTrace now) :
    Agree (maxLedgerId b.ledger) (a.switch now id) (b.switch now id) := by
  obtain ⟨enrolled, switched⟩ := switched shadow now id
  obtain ⟨exempt, cents⟩ := switched.noTrace.mp clean
  have after := (shadow.enroll now).openPeriod id
  have nothing : usageAfter b.ledger (maxLedgerId b.ledger) = [] :=
    usageAfter_nil (newUsage_maxLedgerId fun row hrow _ => le_maxLedgerId hrow)
  have cursor : sweptThrough (maxLedgerId b.ledger) b.periods = maxLedgerId b.ledger := by
    rw [shadow.offPeriods]
    exact Nat.max_zero _
  rw [switch_off shadow created id]
  refine ⟨switched.balance.trans shadow.balance, switched.ledger.trans shadow.ledger,
    switched.filed.trans (shadow.filed.trans shadow.offFiled.symm), ?_, ?_, ?_⟩
  · rw [← shadow.ledger]
    exact shadow.debits
  · refine ⟨enrolled, _, switched.seen, rfl, ?_, ?_⟩
    · rw [exempt, shadow.balance]
    · dsimp only
      rw [cursor, nothing, ← shadow.ledger, switched.nothingNew]
      exact ⟨rfl, switched.within, le_refl _, le_refl _⟩
  · refine ⟨(a.switch now id).periods, [], (append_nil _).symm, ?_, ?_, ?_⟩
    · intro period hperiod
      refine ⟨?_, (after.priced period hperiod).under (cents period hperiod)⟩
      have within := after.swept period hperiod
      rw [after.ledger] at within
      exact within
    · show _ = b.periods.map forgetFrom
      rw [shadow.offPeriods]
    · rw [shadow.offPeriods]
      simp

/-! ### A trace shows -/

/-- The period a pass names is the one that ends there. -/
theorem find_apart (apart : periods.Pairwise fun p q => p.throughLedgerId < q.throughLedgerId)
    (h : period ∈ periods) {Q : Period → Prop} [DecidablePred Q] (hQ : Q period) :
    periods.find? (fun other => other.throughLedgerId = period.throughLedgerId ∧ Q other) =
      some period := by
  induction periods with
  | nil => cases h
  | cons first rest ih =>
      obtain ⟨past, apart⟩ := pairwise_cons.mp apart
      rcases mem_cons.mp h with rfl | later
      · exact find?_cons_of_pos (by simpa using hQ)
      · have before := past period later
        rw [find?_cons_of_neg]
        · exact ih apart later
        · simp [before.ne]

/-- A period of a cent or more can be priced, debited and filed. -/
theorem files (shadow : Shadow a b) (hperiod : period ∈ a.periods)
    (cents : ¬ taxableCents period.taxableUsd ≤ 0) (answer : Calculation) (now : Timestamp) :
    (((a.price period.throughLedgerId (some answer)).collect period.throughLedgerId now).record
      period.throughLedgerId).filed ≠ [] := by
  have shadow' := shadow.price period.throughLedgerId (some answer)
  -- Priced just now or before, the period has a tax and a calculation.
  obtain ⟨priced, hpriced, ends, tax, calculation⟩ :
      ∃ priced ∈ (a.price period.throughLedgerId (some answer)).periods,
        priced.throughLedgerId = period.throughLedgerId ∧ priced.taxUsd ≠ none ∧
          priced.taxCalculationId ≠ none := by
    refine ⟨_, mem_map_of_mem hperiod, ?_⟩
    by_cases unpriced : period.taxUsd = none
    · rw [if_pos ⟨rfl, unpriced⟩]
      unfold Period.price
      rw [if_neg cents]
      exact ⟨rfl, by simp, by simp⟩
    · rw [if_neg fun chosen => unpriced chosen.2]
      exact ⟨rfl, unpriced, (shadow.priced period hperiod).calculated cents unpriced⟩
  obtain ⟨taxUsd, htax⟩ := Option.ne_none_iff_exists'.mp tax
  obtain ⟨calculationId, hcalculation⟩ := Option.ne_none_iff_exists'.mp calculation
  generalize a.price period.throughLedgerId (some answer) = a' at *
  rw [← ends]
  have owed : a'.owedTax priced.throughLedgerId = some taxUsd := by
    unfold Account.owedTax
    rw [find_apart shadow'.apart hpriced (shadow'.undebited priced hpriced)]
    exact htax
  rw [collect_some owed now]
  have found : Account.unfiled
      { a' with
        user := { a'.user with creditBalanceUsd :=
          a'.user.creditBalanceUsd - collectable taxUsd a'.user.creditBalanceUsd }
        ledger := a'.ledger ++
          if 0 < collectable taxUsd a'.user.creditBalanceUsd then
            [{ id := maxLedgerId a'.ledger + 1, entryType := .tax,
               amountUsd := -collectable taxUsd a'.user.creditBalanceUsd }]
          else []
        periods := a'.periods.map (stamp priced.throughLedgerId now taxUsd
          (collectable taxUsd a'.user.creditBalanceUsd) (maxLedgerId a'.ledger + 1)) }
      priced.throughLedgerId = some calculationId := by
    have apart : (a'.periods.map (stamp priced.throughLedgerId now taxUsd
        (collectable taxUsd a'.user.creditBalanceUsd) (maxLedgerId a'.ledger + 1))).Pairwise
        fun p q => p.throughLedgerId < q.throughLedgerId := by
      refine pairwise_map.mpr (shadow'.apart.imp fun {p q} before => ?_)
      unfold stamp
      split <;> split <;> exact before
    have mem := mem_map_of_mem (f := stamp priced.throughLedgerId now taxUsd
        (collectable taxUsd a'.user.creditBalanceUsd) (maxLedgerId a'.ledger + 1)) hpriced
    have stamped : stamp priced.throughLedgerId now taxUsd
        (collectable taxUsd a'.user.creditBalanceUsd) (maxLedgerId a'.ledger + 1) priced =
        priced.collect now taxUsd (collectable taxUsd a'.user.creditBalanceUsd)
          (maxLedgerId a'.ledger + 1) := if_pos rfl
    rw [stamped] at mem
    have here := find_apart apart mem (Q := fun period => period.debitedAt ≠ none) (by
      simp [Period.collect])
    unfold Account.unfiled
    have same : (priced.collect now taxUsd (collectable taxUsd a'.user.creditBalanceUsd)
        (maxLedgerId a'.ledger + 1)).throughLedgerId = priced.throughLedgerId := rfl
    rw [same] at here
    dsimp only
    rw [here]
    exact hcalculation
  unfold Account.record
  rw [found]
  dsimp only
  rw [shadow'.filed]
  simp

/-- No pass finds anything where there is no period. -/
theorem files_nothing (none_ : b.periods = []) (through : Nat) (calculation : Option Calculation)
    (now : Timestamp) :
    ((b.price through calculation).collect through now).record through = b := by
  have priced : b.price through calculation = b := by
    unfold Account.price
    rw [none_, map_nil, ← none_]
  rw [priced]
  have collected : b.collect through now = b := by
    unfold Account.collect Account.owedTax
    rw [none_]
    rfl
  rw [collected]
  unfold Account.record Account.unfiled
  rw [none_]
  rfl

/-! ## The theorem -/

/-- Nothing after the switch tells a run that dry-ran from one that did not. -/
def NoTrace (a : Account) (schedule : List Event) (now : Timestamp) (id : Uuid) : Prop :=
  ∀ later : List Event,
    (run .collect (.enroll now :: .openPeriod id :: later) (run .dryRun schedule a)).observed =
      (run .collect (.enroll now :: .openPeriod id :: later) (run .off schedule a)).observed

theorem run_switch (a : Account) (now : Timestamp) (id : Uuid) (later : List Event) :
    run .collect (.enroll now :: .openPeriod id :: later) a =
      run .collect later (a.switch now id) := by
  rw [run_cons, run_cons]
  rfl

theorem step_createdAt (a : Account) (event : Event) :
    (a.step event).user.createdAt = a.user.createdAt := by
  cases event with
  | money entryType amountUsd =>
      show (a.money entryType amountUsd).user.createdAt = _
      unfold Account.money
      split <;> rfl
  | enrollOthers now => rfl
  | enroll now =>
      show (a.enroll now).user.createdAt = _
      unfold Account.enroll
      dsimp only
      split <;> rfl
  | openPeriod id =>
      show (a.openPeriod id).user.createdAt = _
      unfold Account.openPeriod
      split
      · rfl
      · dsimp only
        split
        · rfl
        · split <;> rfl
  | price through calculation => rfl
  | collect through now =>
      show (a.collect through now).user.createdAt = _
      unfold Account.collect
      split <;> rfl
  | record through =>
      show (a.record through).user.createdAt = _
      unfold Account.record
      split
      · rfl
      · split <;> rfl

theorem run_createdAt (mode : RedemptionTaxMode) (schedule : List Event) (a : Account) :
    (run mode schedule a).user.createdAt = a.user.createdAt := by
  induction schedule generalizing a with
  | nil => rfl
  | cons event rest ih =>
      rw [run_cons]
      split
      · rw [ih, step_createdAt]
      · exact ih a

/-- A dry run leaves no trace on a user if and only if what it left for the user is
    what the switch alone would have made. -/
theorem noTrace_iff {a : Account} (opening : a.Opening) (schedule : List Event) (now : Timestamp)
    (id : Uuid) (created : a.user.createdAt < now) :
    a.NoTrace schedule now id ↔ (run .dryRun schedule a).LeavesNoTrace now := by
  have shadow := (Shadow.opening opening).run schedule
  rw [← run_createdAt .dryRun schedule a] at created
  constructor
  · intro same
    obtain ⟨enrolled, switched⟩ := switched shadow now id
    have off := switch_off shadow created id
    have after := (shadow.enroll now).openPeriod id
    refine switched.noTrace.mpr ⟨?_, fun period hperiod => ?_⟩
    · have seen := same []
      rw [run_switch, run_switch] at seen
      have exempt := congrArg (fun o => o.2.2.2) seen
      change (switch _ now id).user.redemptionTax.map Enrolled.exemptRemainingUsd =
        (switch _ now id).user.redemptionTax.map Enrolled.exemptRemainingUsd at exempt
      rw [switched.seen, off, Option.map_some, Option.map_some, ← shadow.balance] at exempt
      exact Option.some.inj exempt
    · by_contra cents
      have seen := same [.price period.throughLedgerId (some ⟨1, "taxcalc"⟩),
        .collect period.throughLedgerId now, .record period.throughLedgerId]
      rw [run_switch, run_switch] at seen
      have filed := congrArg (fun o => o.2.2.1) seen
      change (((switch _ now id).price _ _).collect _ _ |>.record _).filed =
        (((switch _ now id).price _ _).collect _ _ |>.record _).filed at filed
      rw [files_nothing (b := switch (run .off schedule a) now id)
        (by rw [off]; exact shadow.offPeriods)] at filed
      have nothing : (switch (run .off schedule a) now id).filed = [] := by
        rw [off]
        exact shadow.offFiled
      rw [nothing] at filed
      exact files after hperiod cents _ _ filed
  · intro clean later
    rw [run_switch, run_switch]
    exact ((agree_switch shadow created id clean).run later).observed

/-! A user who holds ten dollars when the dry run begins. -/

def holder : Account where
  user :=
    { creditBalanceUsd := 10
      createdAt := 1
      redemptionTax := none }
  ledger := [{ id := 1, entryType := .purchase, amountUsd := 10 }]
  periods := []
  activation := none
  filed := []

/-- Spending what was held leaves no trace, swept or not. -/
theorem noTrace_iff_onlySpends :
    holder.NoTrace [.enroll 5, .money .usage (-3), .openPeriod 1, .price 2 none,
      .money .usage (-2)] 9 2 := by
  have opening : holder.Opening := ⟨rfl, rfl, rfl, rfl, by decide +kernel⟩
  refine (noTrace_iff opening _ 9 2 (by decide)).mpr ?_
  decide +kernel

/-- Twenty dollars bought and spent during the dry run. -/
def boughtMeanwhile : List Event :=
  [.enroll 5, .money .purchase 20, .money .usage (-25), .openPeriod 1,
    .price 3 (some ⟨94, "taxcalc_1"⟩)]

/-- What they were spent on before the switch is debited and filed after it. -/
theorem dryRun_leavesTrace :
    holder.Opening ∧ ¬ holder.NoTrace boughtMeanwhile 9 2 ∧
      (run .collect [.enroll 9, .openPeriod 2, .collect 3 9, .record 3]
          (run .dryRun boughtMeanwhile holder)).observed =
        (5 - 94 / 100, [⟨1, .purchase, 10⟩, ⟨2, .purchase, 20⟩, ⟨3, .usage, -25⟩,
          ⟨4, .tax, -(94 / 100)⟩], [(3, "taxcalc_1")], some 0) ∧
      (run .collect [.enroll 9, .openPeriod 2, .collect 3 9, .record 3]
          (run .off boughtMeanwhile holder)).observed =
        (5, [⟨1, .purchase, 10⟩, ⟨2, .purchase, 20⟩, ⟨3, .usage, -25⟩], [], some 5) := by
  refine ⟨⟨rfl, rfl, rfl, rfl, by decide +kernel⟩, fun same => ?_, by decide +kernel,
    by decide +kernel⟩
  have seen := same [.collect 3 9, .record 3]
  revert seen
  decide +kernel

end Account

end Redemption

end ZeroRouter
