import ZeroRouter.Redemption.Periods
import ZeroRouter.Proofs.Enrollment

/-!
# The spans of a user's periods

The periods tile the ledger from the enrolment cursor on, each holds exactly the
usage of its span, and together they consume the exemption first, however the usage
was cut.
-/

namespace ZeroRouter

open List Relational

namespace Redemption

/-! ## Tiling -/

/-- Spans follow one another from a cursor. -/
def Tiles : Nat → List Span → Prop
  | _, [] => True
  | cursor, span :: rest =>
      span.fromLedgerId = cursor ∧ cursor < span.throughLedgerId ∧
        Tiles span.throughLedgerId rest

/-- Where the spans end. -/
def tiledThrough : Nat → List Span → Nat
  | cursor, [] => cursor
  | _, span :: rest => tiledThrough span.throughLedgerId rest

/-- The usage dollars of a span of ledger ids, end included. -/
def usageBetween (ledger : List LedgerRow) (cursor through : Nat) : Decimal :=
  -sumWhere (fun row => row.entryType = .usage ∧ cursor < row.id ∧ row.id ≤ through)
    LedgerRow.amountUsd ledger

section Tiling

variable {cursor : Nat} {spans : List Span} {span : Span}

theorem tiledThrough_append : tiledThrough cursor (spans ++ [span]) = span.throughLedgerId := by
  induction spans generalizing cursor with
  | nil => rfl
  | cons first rest ih => exact ih

theorem Tiles.append (tiles : Tiles cursor spans)
    (begins : span.fromLedgerId = tiledThrough cursor spans)
    (forward : span.fromLedgerId < span.throughLedgerId) : Tiles cursor (spans ++ [span]) := by
  induction spans generalizing cursor with
  | nil =>
      rw [begins] at forward
      exact ⟨begins, forward, trivial⟩
  | cons first rest ih =>
      obtain ⟨starts, ahead, later⟩ := tiles
      exact ⟨starts, ahead, ih later begins⟩

theorem Tiles.le_through (tiles : Tiles cursor spans) : cursor ≤ tiledThrough cursor spans := by
  induction spans generalizing cursor with
  | nil => exact le_refl _
  | cons first rest ih => exact tiles.2.1.le.trans (ih tiles.2.2)

theorem Tiles.through_le (tiles : Tiles cursor spans) (h : span ∈ spans) :
    span.throughLedgerId ≤ tiledThrough cursor spans := by
  induction spans generalizing cursor with
  | nil => cases h
  | cons first rest ih =>
      rcases mem_cons.mp h with rfl | later
      · exact tiles.2.2.le_through
      · exact ih tiles.2.2 later

theorem Tiles.from_ge (tiles : Tiles cursor spans) (h : span ∈ spans) :
    cursor ≤ span.fromLedgerId := by
  induction spans generalizing cursor with
  | nil => cases h
  | cons first rest ih =>
      rcases mem_cons.mp h with rfl | later
      · exact tiles.1.ge
      · exact tiles.2.1.le.trans (ih tiles.2.2 later)

/-- The last span's end is the largest end. -/
theorem Tiles.max_through (tiles : Tiles cursor spans) :
    max cursor ((spans.map Span.throughLedgerId).max?.getD 0) = tiledThrough cursor spans := by
  cases hmax : (spans.map Span.throughLedgerId).max? with
  | none =>
      rw [max?_eq_none_iff, map_eq_nil_iff] at hmax
      subst hmax
      exact Nat.max_zero cursor
  | some top =>
      obtain ⟨htop, largest⟩ := max?_eq_some_iff.mp hmax
      obtain ⟨span, hspan, rfl⟩ := mem_map.mp htop
      apply le_antisymm
      · exact max_le tiles.le_through (tiles.through_le hspan)
      · rw [Option.getD_some]
        rcases eq_nil_or_concat spans with rfl | ⟨before, last, rfl⟩
        · cases hspan
        · rw [concat_eq_append, tiledThrough_append]
          refine le_max_of_le_right (largest _ ?_)
          simp

/-- A row of a tiled range is in exactly one span. -/
theorem Tiles.existsUnique (tiles : Tiles cursor spans) {id : Nat} (after : cursor < id)
    (through : id ≤ tiledThrough cursor spans) :
    ∃! span, span ∈ spans ∧ span.fromLedgerId < id ∧ id ≤ span.throughLedgerId := by
  induction spans generalizing cursor with
  | nil => exact absurd through (not_le.mpr after)
  | cons first rest ih =>
      obtain ⟨starts, ahead, later⟩ := tiles
      by_cases here : id ≤ first.throughLedgerId
      · refine ⟨first, ⟨mem_cons_self, starts ▸ after, here⟩, ?_⟩
        rintro other ⟨mem, begins, -⟩
        rcases mem_cons.mp mem with rfl | mem
        · rfl
        · exact absurd here (not_le.mpr ((later.from_ge mem).trans_lt begins))
      · obtain ⟨found, ⟨mem, begins, ends⟩, only⟩ := ih later (not_le.mp here) through
        refine ⟨found, ⟨mem_cons_of_mem _ mem, begins, ends⟩, ?_⟩
        rintro other ⟨mem, begins, ends⟩
        rcases mem_cons.mp mem with rfl | mem
        · exact absurd ends here
        · exact only other ⟨mem, begins, ends⟩

end Tiling

/-! ## Usage of a span -/

section Usage

variable {ledger : List LedgerRow} {cursor through : Nat}

/-- A row past the end of a span is not in it. -/
theorem usageBetween_append {row : LedgerRow} (later : through < row.id) :
    usageBetween (ledger ++ [row]) cursor through = usageBetween ledger cursor through := by
  unfold usageBetween
  rw [sumWhere_append, sumWhere_cons, if_neg, sumWhere_nil, add_zero, add_zero]
  rintro ⟨-, -, within⟩
  exact absurd within (not_le.mpr later)

/-- Two adjacent spans hold what the span over both holds. -/
theorem usageBetween_split {middle : Nat} (first : cursor ≤ middle) (second : middle ≤ through) :
    usageBetween ledger cursor through =
      usageBetween ledger cursor middle + usageBetween ledger middle through := by
  unfold usageBetween
  rw [← neg_add]
  congr 1
  induction ledger with
  | nil => simp
  | cons row rest ih =>
      rw [sumWhere_cons, sumWhere_cons, sumWhere_cons, ih]
      by_cases usage : row.entryType = .usage
      · by_cases early : row.id ≤ middle
        · have late : ¬ middle < row.id := not_lt.mpr early
          have within : row.id ≤ through := early.trans second
          simp only [usage, early, late, within, and_true, true_and, if_false]
          ring
        · have late : middle < row.id := not_le.mp early
          have after : cursor < row.id := first.trans_lt late
          simp only [usage, early, late, after, and_false, true_and, if_false]
          ring
      · simp only [usage, false_and, if_false]
        ring

/-- What a period over everything new sums is the usage of its span. -/
theorem newUsage_some {usageUsd : Decimal} (h : newUsage ledger cursor = some (through, usageUsd)) :
    cursor < through ∧ usageUsd = usageBetween ledger cursor through ∧
      (∃ row ∈ ledger, row.id = through) ∧
      ∀ row ∈ ledger, row.entryType = .usage → cursor < row.id → row.id ≤ through := by
  unfold newUsage at h
  split at h
  · cases h
  · next rows some_ =>
    cases h
    have member : ∀ row, row ∈ usageAfter ledger cursor ↔
        row ∈ ledger ∧ row.entryType = .usage ∧ cursor < row.id := by
      intro row
      simp [usageAfter]
    have newest : ∀ row ∈ ledger, row.entryType = .usage → cursor < row.id →
        row.id ≤ maxLedgerId (usageAfter ledger cursor) :=
      fun row hrow usage after => le_maxLedgerId ((member row).mpr ⟨hrow, usage, after⟩)
    obtain ⟨top, htop, through⟩ : ∃ row ∈ usageAfter ledger cursor,
        row.id = maxLedgerId (usageAfter ledger cursor) := by
      unfold maxLedgerId
      cases hmax : ((usageAfter ledger cursor).map LedgerRow.id).max? with
      | none =>
          rw [max?_eq_none_iff, map_eq_nil_iff] at hmax
          exact absurd hmax some_
      | some id =>
          obtain ⟨row, hrow, same⟩ := mem_map.mp (max?_mem hmax)
          exact ⟨row, hrow, same⟩
    obtain ⟨inLedger, usage, after⟩ := (member top).mp htop
    refine ⟨through ▸ after, ?_, ⟨top, inLedger, through⟩, newest⟩
    unfold usageBetween
    rw [sumWhere_eq_sum_filter]
    congr 3
    unfold usageAfter
    refine filter_congr fun row hrow => ?_
    rw [decide_eq_decide]
    constructor
    · rintro ⟨usage, after⟩
      exact ⟨usage, after, newest row hrow usage after⟩
    · rintro ⟨usage, after, -⟩
      exact ⟨usage, after⟩

end Usage

namespace Periods

variable {initial : Decimal} {s s' : State}

/-! ## Spans and the exemption -/

/-- The spans of the periods, oldest first. -/
def State.spans (s : State) : List Span := s.periods.rows.map Period.toSpan

/-- Where the user's usage has been swept to. -/
def State.swept (s : State) : Nat := tiledThrough s.fromLedgerId s.spans

def State.usageTotal (s : State) : Decimal := (s.spans.map Span.usageUsd).sum

def State.exemptTotal (s : State) : Decimal := (s.spans.map Span.exemptUsd).sum

/-- What the holder of the lock has read or given out still stands. -/
def State.lockStands (s : State) : Option Transaction → Prop
  | some (.money entryType amountUsd row) =>
      entryType ≠ .tax ∧ (entryType = .usage → amountUsd < 0) ∧
        ∀ inserted ∈ row, inserted.entryType = entryType ∧ inserted.amountUsd = amountUsd ∧
          s.swept < inserted.id ∧ inserted.id < s.nextLedgerId ∧
          ∀ old ∈ s.ledger, old.id < inserted.id
  | some (.openingFrom cursor exemptRemainingUsd) =>
      cursor = s.swept ∧ exemptRemainingUsd = s.exemptRemainingUsd
  | some (.openingThrough cursor through exemptRemainingUsd usageUsd) =>
      cursor = s.swept ∧ exemptRemainingUsd = s.exemptRemainingUsd ∧
        newUsage s.ledger cursor = some (through, usageUsd) ∧ 0 < usageUsd
  | _ => True

structure Swept (initial : Decimal) (s : State) : Prop where
  issued : ∀ row ∈ s.ledger, row.id < s.nextLedgerId
  sweptIssued : s.swept < s.nextLedgerId
  usageEntriesAreDebits : ∀ row ∈ s.ledger, row.entryType = .usage → row.amountUsd < 0
  tiles : Tiles s.fromLedgerId s.spans
  usage : ∀ span ∈ s.spans,
    span.usageUsd = usageBetween s.ledger span.fromLedgerId span.throughLedgerId
  total : s.usageTotal = usageBetween s.ledger s.fromLedgerId s.swept
  positive : 0 ≤ s.usageTotal
  exempt : s.exemptTotal = min initial s.usageTotal
  remaining : s.exemptRemainingUsd = initial - s.exemptTotal
  taxable : ∀ span ∈ s.spans, span.taxableUsd = span.usageUsd - span.exemptUsd
  lock : s.lockStands s.lock

theorem Swept.opening (h : s.Opening) : Swept s.exemptRemainingUsd s := by
  have none_ : s.spans = [] := by rw [State.spans, h.noPeriods]; rfl
  have swept : s.swept = s.fromLedgerId := by rw [State.swept, none_]; rfl
  have usage : s.usageTotal = 0 := by rw [State.usageTotal, none_]; rfl
  have exempt : s.exemptTotal = 0 := by rw [State.exemptTotal, none_]; rfl
  refine ⟨h.issued, swept ▸ h.cursorIssued, h.usageEntriesAreDebits, ?_, ?_, ?_, usage.ge, ?_,
    ?_, ?_, ?_⟩
  · rw [none_]
    trivial
  · rw [none_]
    intro span hspan
    cases hspan
  · rw [usage, swept]
    unfold usageBetween
    rw [sumWhere_eq_zero, neg_zero]
    rintro row - ⟨-, after, within⟩
    exact absurd within (not_le.mpr after)
  · rw [usage, exempt, min_eq_right h.exempt]
  · rw [exempt, sub_zero]
  · rw [none_]
    intro span hspan
    cases hspan
  · rw [h.unlocked]
    trivial

/-! ### Steps -/

/-- A step that touches neither the ledger nor a span. -/
theorem Swept.quiet (swept : Swept initial s) (ids : s.nextLedgerId ≤ s'.nextLedgerId)
    (fromLedgerId : s'.fromLedgerId = s.fromLedgerId) (ledger : s'.ledger = s.ledger)
    (exempt : s'.exemptRemainingUsd = s.exemptRemainingUsd) (spans : s'.spans = s.spans)
    (lock : s'.lockStands s'.lock) : Swept initial s' := by
  have sweptTo : s'.swept = s.swept := by rw [State.swept, State.swept, spans, fromLedgerId]
  have usageTotal : s'.usageTotal = s.usageTotal := by
    rw [State.usageTotal, State.usageTotal, spans]
  have exemptTotal : s'.exemptTotal = s.exemptTotal := by
    rw [State.exemptTotal, State.exemptTotal, spans]
  constructor
  · rw [ledger]
    exact fun row hrow => (swept.issued row hrow).trans_le ids
  · rw [sweptTo]
    exact swept.sweptIssued.trans_le ids
  · rw [ledger]
    exact swept.usageEntriesAreDebits
  · rw [fromLedgerId, spans]
    exact swept.tiles
  · rw [spans, ledger]
    exact swept.usage
  · rw [usageTotal, ledger, fromLedgerId, sweptTo]
    exact swept.total
  · rw [usageTotal]
    exact swept.positive
  · rw [exemptTotal, usageTotal]
    exact swept.exempt
  · rw [exempt, exemptTotal]
    exact swept.remaining
  · rw [spans]
    exact swept.taxable
  · exact lock

/-- A row with a new id is in no span, and the lock is given up. -/
theorem Swept.ledgerRow (swept : Swept initial s) {row : LedgerRow}
    (ids : s.nextLedgerId ≤ s'.nextLedgerId) (issued : row.id < s'.nextLedgerId)
    (after : s.swept < row.id) (debit : row.entryType = .usage → row.amountUsd < 0)
    (fromLedgerId : s'.fromLedgerId = s.fromLedgerId) (ledger : s'.ledger = s.ledger ++ [row])
    (exempt : s'.exemptRemainingUsd = s.exemptRemainingUsd) (spans : s'.spans = s.spans)
    (unlocked : s'.lock = none) : Swept initial s' := by
  have sweptTo : s'.swept = s.swept := by rw [State.swept, State.swept, spans, fromLedgerId]
  have usageTotal : s'.usageTotal = s.usageTotal := by
    rw [State.usageTotal, State.usageTotal, spans]
  have exemptTotal : s'.exemptTotal = s.exemptTotal := by
    rw [State.exemptTotal, State.exemptTotal, spans]
  constructor
  · rw [ledger]
    intro old hold
    rcases mem_append.mp hold with before | new
    · exact (swept.issued old before).trans_le ids
    · rw [mem_singleton.mp new]
      exact issued
  · rw [sweptTo]
    exact swept.sweptIssued.trans_le ids
  · rw [ledger]
    intro old hold
    rcases mem_append.mp hold with before | new
    · exact swept.usageEntriesAreDebits old before
    · rw [mem_singleton.mp new]
      exact debit
  · rw [fromLedgerId, spans]
    exact swept.tiles
  · rw [spans, ledger]
    intro span hspan
    rw [usageBetween_append ((swept.tiles.through_le hspan).trans_lt after)]
    exact swept.usage span hspan
  · rw [usageTotal, ledger, fromLedgerId, sweptTo, usageBetween_append after]
    exact swept.total
  · rw [usageTotal]
    exact swept.positive
  · rw [exemptTotal, usageTotal]
    exact swept.exempt
  · rw [exempt, exemptTotal]
    exact swept.remaining
  · rw [spans]
    exact swept.taxable
  · rw [unlocked]
    trivial

/-- Consuming the exemption first, a part at a time, is consuming it at once. -/
theorem min_add_min_sub {initial spent more : Decimal} (nonneg : 0 ≤ more) :
    min initial spent + min (initial - min initial spent) more = min initial (spent + more) := by
  rcases le_total initial spent with within | within
  · rw [min_eq_left within, sub_self, min_eq_left nonneg, add_zero,
      min_eq_left (within.trans (by linarith))]
  · rw [min_eq_right within]
    rcases le_total (initial - spent) more with enough | enough
    · rw [min_eq_left enough, min_eq_left (by linarith)]
      ring
    · rw [min_eq_right enough, min_eq_right (by linarith)]

/-- A period over everything new. -/
theorem Swept.opened (swept : Swept initial s) (id : Uuid) {through : Nat} {usageUsd : Decimal}
    (new : newUsage s.ledger s.swept = some (through, usageUsd)) (spent : 0 < usageUsd)
    (ids : s'.nextLedgerId = s.nextLedgerId) (fromLedgerId : s'.fromLedgerId = s.fromLedgerId)
    (ledger : s'.ledger = s.ledger)
    (exempt : s'.exemptRemainingUsd =
      s.exemptRemainingUsd - min s.exemptRemainingUsd usageUsd)
    (spans : s'.spans = s.spans ++
      [(newPeriod id s.swept through s.exemptRemainingUsd usageUsd).toSpan])
    (unlocked : s'.lock = none) : Swept initial s' := by
  obtain ⟨forward, usage, ⟨last, inLedger, lastId⟩, -⟩ := newUsage_some new
  have sweptTo : s'.swept = through := by
    rw [State.swept, spans]
    exact tiledThrough_append
  have usageTotal : s'.usageTotal = s.usageTotal + usageUsd := by
    rw [State.usageTotal, spans, map_append, sum_append]
    simp [State.usageTotal, newPeriod]
  have exemptTotal : s'.exemptTotal = s.exemptTotal + min s.exemptRemainingUsd usageUsd := by
    rw [State.exemptTotal, spans, map_append, sum_append]
    simp [State.exemptTotal, newPeriod]
  constructor
  · rw [ledger, ids]
    exact swept.issued
  · rw [sweptTo, ids, ← lastId]
    exact swept.issued last inLedger
  · rw [ledger]
    exact swept.usageEntriesAreDebits
  · rw [fromLedgerId, spans]
    exact swept.tiles.append rfl forward
  · rw [spans, ledger]
    intro span hspan
    rcases mem_append.mp hspan with before | fresh
    · exact swept.usage span before
    · rw [mem_singleton.mp fresh]
      exact usage
  · rw [usageTotal, ledger, fromLedgerId, sweptTo, swept.total, usage,
      usageBetween_split swept.tiles.le_through forward.le]
    rfl
  · rw [usageTotal]
    exact add_nonneg swept.positive spent.le
  · rw [exemptTotal, usageTotal, swept.remaining, swept.exempt, min_add_min_sub spent.le]
  · rw [exempt, exemptTotal, swept.remaining]
    ring
  · rw [spans]
    intro span hspan
    rcases mem_append.mp hspan with before | fresh
    · exact swept.taxable span before
    · rw [mem_singleton.mp fresh]
      rfl
  · rw [unlocked]
    trivial

/-- An update of periods that keeps their spans. -/
theorem spans_updateWhere {t t' : Table periodsTable} {p : Period → Prop} [DecidablePred p]
    {f : Period → Period} (h : t.updateWhere p f = .ok t')
    (keeps : ∀ period, (f period).toSpan = period.toSpan) :
    t'.rows.map Period.toSpan = t.rows.map Period.toSpan := by
  rw [Table.updateWhere_ok h, map_map]
  refine map_congr_left fun period _ => ?_
  change (Table.rewrite p f period).toSpan = period.toSpan
  unfold Table.rewrite
  split
  · exact keeps period
  · rfl

@[simp] theorem price_toSpan (period : Period) (calculation : Option Calculation) :
    (period.price calculation).toSpan = period.toSpan := by
  unfold Period.price
  split
  · rfl
  · split <;> rfl

theorem sweptThrough_eq (swept : Swept initial s) :
    sweptThrough s.fromLedgerId s.periods.rows = s.swept := by
  rw [State.swept, ← swept.tiles.max_through, State.spans, map_map]
  rfl

/-- What a collection reads and writes, in either outcome. -/
theorem collectPeriod_cases (s : State) (now : Timestamp) (id : Uuid) (taxUsd : Decimal) :
    s.collectPeriod now id taxUsd = { s with lock := none } ∨
    ∃ periods, s.periods.updateWhere (fun period => period.id = id)
        (fun period => period.collect now taxUsd (collectable taxUsd s.creditBalanceUsd)
          s.nextLedgerId) = .ok periods ∧
      ((0 < collectable taxUsd s.creditBalanceUsd ∧
        s.collectPeriod now id taxUsd =
          { s with
            creditBalanceUsd := s.creditBalanceUsd - collectable taxUsd s.creditBalanceUsd
            ledger := s.ledger ++ [{ id := s.nextLedgerId, entryType := .tax,
                                     amountUsd := -collectable taxUsd s.creditBalanceUsd }]
            nextLedgerId := s.nextLedgerId + 1
            periods
            lock := none }) ∨
      (¬ 0 < collectable taxUsd s.creditBalanceUsd ∧
        s.collectPeriod now id taxUsd = { s with periods, lock := none })) := by
  cases written : s.periods.updateWhere (fun period => period.id = id)
      (fun period => period.collect now taxUsd (collectable taxUsd s.creditBalanceUsd)
        s.nextLedgerId) with
  | error e => exact .inl (by simp only [State.collectPeriod, written])
  | ok periods =>
      refine .inr ⟨periods, rfl, ?_⟩
      by_cases takes : 0 < collectable taxUsd s.creditBalanceUsd
      · exact .inl ⟨takes, by simp only [State.collectPeriod, written, if_pos takes]⟩
      · exact .inr ⟨takes, by simp only [State.collectPeriod, written, if_neg takes]⟩

theorem Swept.step {a : Action} (swept : Swept initial s) (h : step s a = some s') :
    Swept initial s' := by
  cases a with
  | lockMoney entryType amountUsd =>
      simp only [Periods.step] at h
      split at h
      · next ready =>
          cases h
          refine swept.quiet (le_refl _) rfl rfl rfl rfl ⟨ready.2.1, ready.2.2, ?_⟩
          intro row hrow
          cases hrow
      · cases h
  | insertLedger =>
      simp only [Periods.step] at h
      split at h
      · next entryType amountUsd held =>
          cases h
          have stands := swept.lock
          rw [held] at stands
          refine swept.quiet (Nat.le_succ _) rfl rfl rfl rfl ⟨stands.1, stands.2.1, ?_⟩
          intro row hrow
          cases hrow
          exact ⟨rfl, rfl, swept.sweptIssued, Nat.lt_succ_self _, swept.issued⟩
      · cases h
  | commitMoney =>
      simp only [Periods.step] at h
      split at h
      · next entryType amountUsd row held =>
          cases h
          have stands := swept.lock
          rw [held] at stands
          obtain ⟨-, debit, inserted⟩ := stands
          obtain ⟨kind, amount, after, issued, -⟩ := inserted row rfl
          refine swept.ledgerRow (le_refl _) issued after ?_ rfl rfl rfl rfl rfl
          rw [kind, amount]
          exact debit
      · cases h
  | burnLedgerId =>
      cases h
      refine swept.quiet (Nat.le_succ _) rfl rfl rfl rfl ?_
      have stands := swept.lock
      change s.lockStands s.lock at stands
      cases held : s.lock with
      | none => trivial
      | some holder =>
          rw [held] at stands
          cases holder with
          | money entryType amountUsd row =>
              obtain ⟨kind, debit, inserted⟩ := stands
              refine ⟨kind, debit, fun given hgiven => ?_⟩
              obtain ⟨type, amount, after, issued, newest⟩ := inserted given hgiven
              exact ⟨type, amount, after, Nat.lt_succ_of_lt issued, newest⟩
          | openingFrom | openingThrough => exact stands
          | opening | collecting | collectingTax => trivial
  | lockOpen =>
      simp only [Periods.step] at h
      split at h
      · cases h
        exact swept.quiet (le_refl _) rfl rfl rfl rfl trivial
      · cases h
  | readCursor =>
      simp only [Periods.step] at h
      split at h
      · cases h
        exact swept.quiet (le_refl _) rfl rfl rfl rfl ⟨sweptThrough_eq swept, rfl⟩
      · cases h
  | readUsage =>
      simp only [Periods.step] at h
      split at h
      · next cursor exemptRemainingUsd held =>
          cases h
          have stands := swept.lock
          rw [held] at stands
          obtain ⟨from_, exempt⟩ := stands
          refine swept.quiet (le_refl _) rfl rfl rfl rfl ?_
          dsimp only
          split
          · trivial
          · next through usageUsd read =>
              split
              · trivial
              · next spent => exact ⟨from_, exempt, read, not_le.mp spent⟩
      · cases h
  | commitOpen id =>
      simp only [Periods.step] at h
      split at h
      · next cursor through exemptRemainingUsd usageUsd held =>
          cases h
          have stands := swept.lock
          rw [held] at stands
          obtain ⟨rfl, rfl, new, spent⟩ := stands
          unfold State.openPeriod
          split
          · next periods inserted =>
              refine swept.opened id new spent rfl rfl rfl rfl ?_ rfl
              simp only [State.spans]
              rw [(Table.insert_ok inserted).1, map_append]
              rfl
          · exact swept.quiet (le_refl _) rfl rfl rfl rfl trivial
      · cases h
  | price id calculation =>
      simp only [Periods.step] at h
      split at h
      · next periods priced =>
          cases h
          have spans : ({ s with periods } : State).spans = s.spans :=
            spans_updateWhere priced fun period => price_toSpan period calculation
          refine swept.quiet (le_refl _) rfl rfl rfl spans ?_
          have same : ({ s with periods } : State).swept = s.swept := by
            rw [State.swept, State.swept, spans]
          have stands := swept.lock
          unfold State.lockStands at stands ⊢
          rw [same]
          exact stands
      · cases h
        exact swept
  | lockCollect id =>
      simp only [Periods.step] at h
      split at h
      · cases h
        exact swept.quiet (le_refl _) rfl rfl rfl rfl trivial
      · cases h
  | readTax =>
      simp only [Periods.step] at h
      split at h
      · next id held =>
          cases h
          refine swept.quiet (le_refl _) rfl rfl rfl rfl ?_
          dsimp only
          cases (s.periods.find fun period => period.id = id ∧ period.debitedAt = none).bind
              fun period => period.taxUsd with
          | none => trivial
          | some tax => trivial
      · cases h
  | commitCollect now =>
      simp only [Periods.step] at h
      split at h
      · next id taxUsd held =>
          cases h
          rcases collectPeriod_cases s now id taxUsd with refused | ⟨periods, written, taken⟩
          · rw [refused]
            exact swept.quiet (le_refl _) rfl rfl rfl rfl trivial
          · have spans := spans_updateWhere written fun _ => rfl
            rcases taken with ⟨-, effect⟩ | ⟨-, effect⟩
            · rw [effect]
              exact swept.ledgerRow (Nat.le_succ _) (Nat.lt_succ_self _) swept.sweptIssued
                (fun usage => by cases usage) rfl rfl rfl spans rfl
            · rw [effect]
              exact swept.quiet (le_refl _) rfl rfl rfl spans trivial
      · cases h
  | rollback =>
      simp only [Periods.step] at h
      split at h
      · cases h
      · cases h
        exact swept.quiet (le_refl _) rfl rfl rfl rfl trivial

end Periods

end Redemption

end ZeroRouter
