import ZeroRouter.Proofs.Invariant

/-!
# Exactly-once charging

Whatever order admissions, settles, retries, replays, sweeps and releases come
in, a request is metered at most once and debited at most once, the debit is the
clamped charge of its own metering row, and every balance is its opening balance
plus its ledger.
-/

namespace ZeroRouter

open Relational

/-! ## Balances and their ledger -/

/-- One balance movement and the ledger row that explains it. -/
structure MoneyMoved (db db' : Db) (entry : CreditLedger) : Prop where
  user : ∃ user ∈ db.users, user.id = entry.userId
  users : db.users.updateWhere (fun row => row.id = entry.userId)
    (fun row => { row with creditBalanceUsd := row.creditBalanceUsd + entry.amountUsd })
    = .ok db'.users
  ledger : db.creditLedger.insert entry = .ok db'.creditLedger

/-- A step leaves the money alone or moves it with its ledger row. -/
theorem money_step {w w' : World} {a : Action} (h : Change w a w') :
    (w'.db.users = w.db.users ∧ w'.db.creditLedger = w.db.creditLedger) ∨
      ∃ entry, MoneyMoved w.db w'.db entry := by
  cases h with
  | stay | ticked | batched | opened | admitted | parked | persisted | released | discarded
  | keyAdded | keyDisabled => exact .inl ⟨rfl, rfl⟩
  | posted _ _ db moved =>
      obtain ⟨user, users, ledger, huser, hid, -, husers, hledger, rfl⟩ := Db.moveBalance_ok moved
      exact .inr ⟨_, ⟨user, huser, hid⟩, husers, hledger⟩
  | settled call _ _ reservation event db effect =>
      rcases effect.money with ⟨-, husers, hledger⟩ | ⟨user, huser, hid, -, -, -, husers, hledger⟩
      · exact .inl ⟨husers, hledger⟩
      · exact .inr ⟨_, ⟨user, huser, hid⟩, husers, hledger⟩
  | metered _ _ _ new _ _ _ _ _ db inserted =>
      obtain ⟨events, month, day, total, -, -, -, -, -, rfl⟩ := Db.insertUsageEvent_ok inserted
      exact .inl ⟨rfl, rfl⟩

/-- A user's posted and debited amounts. -/
def Db.ledgerTotal (db : Db) (userId : Uuid) : Decimal :=
  sumWhere (fun row => row.userId = userId) CreditLedger.amountUsd db.creditLedger.rows

/-- Every balance is an opening balance plus the user's ledger. -/
def Balanced (opening : Table usersTable) (db : Db) : Prop :=
  ∀ user ∈ db.users, ∃ old ∈ opening, old.id = user.id ∧
    user.creditBalanceUsd = old.creditBalanceUsd + db.ledgerTotal user.id

theorem Balanced.step {opening : Table usersTable} {w w' : World} {a : Action}
    (balanced : Balanced opening w.db) (h : Change w a w') : Balanced opening w'.db := by
  rcases money_step h with ⟨husers, hledger⟩ | ⟨entry, moved⟩
  · unfold Balanced Db.ledgerTotal
    rw [husers, hledger]
    exact balanced
  · intro user huser
    obtain ⟨before, hbefore, rfl⟩ := (mem_users_of_moved moved.users).mp huser
    obtain ⟨old, hold, hid, hbalance⟩ := balanced before hbefore
    refine ⟨old, hold, hid, ?_⟩
    change before.creditBalanceUsd + _ = _
    rw [hbalance, Db.ledgerTotal, Db.ledgerTotal, (Table.insert_ok moved.ledger).1,
      sumWhere_append, ← add_assoc]
    simp [eq_comm]

/-! ## The theorem -/

/-- What charging exactly once means in one state. -/
structure ChargedOnce (w₀ w : World) : Prop where
  /-- No request has two metering rows. -/
  oneEvent : ∀ requestId,
    countWhere (fun event => event.requestId = requestId) w.db.usageEvents.rows ≤ 1
  /-- No request has two debits. -/
  oneDebit : ∀ requestId,
    countWhere (fun row => row.entryType = .usage ∧ row.requestId = some requestId)
      w.db.creditLedger.rows ≤ 1
  /-- A debit stands beside its request's metering row, and is that row's charge
      clamped to what the request's admission reserved. -/
  debitExact : ∀ row ∈ w.db.creditLedger, row.entryType = .usage →
    ∃ event ∈ w.db.usageEvents, ∃ admission ∈ w.admitted,
      row.requestId = some event.requestId ∧ admission.requestId = event.requestId ∧
      row.userId = admission.request.key.userId ∧
      row.amountUsd = -min event.costUsd admission.row.reservedCostUsd
  /-- Every balance is the opening balance plus the user's ledger. -/
  balance : ∀ opening ∈ w₀.db.users, ∀ user ∈ w.db.users, user.id = opening.id →
    user.creditBalanceUsd = opening.creditBalanceUsd + w.db.ledgerTotal user.id

theorem ChargedOnce.of_inv {w₀ w : World} (inv : Inv w) (balanced : Balanced w₀.db.users w.db) :
    ChargedOnce w₀ w where
  oneEvent requestId := w.db.usageEvents.countWhere_le_one _ fun _ _ ha hb => ha.trans hb.symm
  oneDebit requestId := w.db.creditLedger.countWhere_le_one _ fun a b ha hb =>
    .inr ⟨by simp [ha.2], ha.2.trans hb.2.symm⟩
  debitExact row hrow usage := by
    have named := (w.db.creditLedger.checked row hrow).usageReferencesRequest.mp usage
    obtain ⟨requestId, names⟩ := Option.ne_none_iff_exists'.mp named
    obtain ⟨admission, hadm, event, hevent, hid, heid, huser, hamount⟩ :=
      inv.ledger row hrow requestId names
    exact ⟨event, hevent, admission, hadm, by rw [names, heid], hid.trans heid.symm, huser,
      hamount⟩
  balance opening hopening user huser same := by
    obtain ⟨old, hold, hid, hbalance⟩ := balanced user huser
    have : old = opening := Table.eq_of_clash hold hopening (hid.trans same)
    rw [hbalance, this]

/-- The rows of both ledgers stay, in order. -/
def LedgersGrow (w w' : World) : Prop :=
  w.db.usageEvents.rows <+: w'.db.usageEvents.rows ∧
    w.db.creditLedger.rows <+: w'.db.creditLedger.rows

/-- Metering and ledger rows are never dropped or rewritten. -/
theorem ledgers_grow {C : World → Action → Prop} {w w' : World} (run : Reaches C w w') :
    LedgersGrow w w' := by
  refine run.relate (R := LedgersGrow) ?_ ?_ ?_
  · intro w
    exact ⟨List.prefix_refl _, List.prefix_refl _⟩
  · rintro s t u ⟨events, ledger⟩ ⟨laterEvents, laterLedger⟩
    exact ⟨events.trans laterEvents, ledger.trans laterLedger⟩
  · intro t a u _ next
    have change := step_change next
    exact ⟨usageEvents_grow change, creditLedger_grow change⟩

/-- In every reachable state every request is charged at most once and exactly,
    and no later state drops or rewrites a metering or ledger row. -/
theorem chargedOnce_of_reaches {w₀ w : World} (opening : w₀.Opening)
    (run : Reaches Transition.anyStep w₀ w) :
    ChargedOnce w₀ w ∧ ∀ w', Reaches Transition.anyStep w w' →
      w.db.usageEvents.rows <+: w'.db.usageEvents.rows ∧
        w.db.creditLedger.rows <+: w'.db.creditLedger.rows := by
  have balanced : Balanced w₀.db.users w.db := by
    refine run.invariant (I := fun w => Balanced w₀.db.users w.db) ?_
      fun _ _ _ balanced _ next => balanced.step (step_change next)
    intro user huser
    refine ⟨user, huser, rfl, ?_⟩
    simp [Db.ledgerTotal, opening.creditLedger]
  exact ⟨.of_inv (.reaches opening run) balanced, fun w' later => ledgers_grow later⟩

/-! A run whose settle commits while its client sees an error and retries. -/

def onePrepaidUser : Table usersTable where
  rows := [{ id := 1, creditBalanceUsd := 100, frozenAt := none, frozenReason := none }]
  checked := by decide
  distinct := by decide

def oneKey : Table apiKeysTable where
  rows :=
    [{ id := 10, userId := 1, spendCapUsd := 20, velocityCapTokensPerMin := 100000
       disabled := false, expiresAt := none, creditLimitUsd := none, creditLimitWindow := none }]
  checked := by decide +kernel
  distinct := by decide

def houseRequest (reserved : Decimal) : AdmissionRequest where
  key := { id := 10, userId := 1 }
  sizing := .cold { totalTokens := 1000, outputTokens := 400, costUsd := reserved }
  byok := { catalogBasis := none, whollyByok := false }
  requireCredits := true
  lane := .reserved

def houseRecord (cost : Decimal) : UsageRecord where
  tier := "standard"
  upstreamProvider := "openai"
  upstreamModel := "gpt"
  usage :=
    { promptTokens := 100, completionTokens := 50, totalTokens := 150
      promptTokensDetails := none }
  costUsd := cost
  byokCatalogUsd := none
  latencyMs := 900
  status := 200
  byok := none
  attempts := []

def lostCommitRun : List Action :=
  [.beginUsageSession 0 7 (houseRequest 5) .commit, .markDispatched 0 7, .persistIntent 0 7 (houseRecord 6),
    .settle 0 7 (houseRecord 6) .commitUnseen, .recordSettleFailure 0 7 "connection reset",
    .settle 0 7 (houseRecord 6) .commit]

/-- The retry finds the request settled; the one debit is the reservation's $5. -/
theorem chargedOnce_lostCommit :
    ∃ w, Transition.runWhile step Transition.anyStep (.fresh onePrepaidUser oneKey 0) lostCommitRun
        = some w ∧
      w.db.creditLedger.rows.map CreditLedger.amountUsd = [-5] ∧
      ChargedOnce (.fresh onePrepaidUser oneKey 0) w := by
  have runs : ((Transition.runWhile step Transition.anyStep (.fresh onePrepaidUser oneKey 0)
      lostCommitRun).map fun w => w.db.creditLedger.rows.map CreditLedger.amountUsd)
      = some [-5] := by decide +kernel
  obtain ⟨w, hw, hledger⟩ := Option.map_eq_some_iff.mp runs
  exact ⟨w, hw, hledger,
    (chargedOnce_of_reaches (World.opening_fresh _ _ _) (.of_runWhile hw)).1⟩

end ZeroRouter
