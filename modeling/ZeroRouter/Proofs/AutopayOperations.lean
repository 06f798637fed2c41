import ZeroRouter.Billing.Standing

/-!
# What each autopay transaction did

One lemma a transaction: from its success, which rows it wrote and under which guards.
Nothing below looks inside a transaction again.
-/

namespace ZeroRouter.Billing

open Relational AutopayDb

section Operations

variable {db db' : AutopayDb} {now : Timestamp} {userId : Uuid} {paymentIntentId : String}
  {row : StripeAutopayIntent} {n : Nat} {outcome : AutopayOutcome}

theorem insertIntent_ok (h : db.insertIntent row = .ok db') :
    ∃ intents, db.stripeAutopayIntents.insert row = .ok intents ∧
      db' = { db with stripeAutopayIntents := intents } := by
  simp only [insertIntent, bind_eq_ok, liftViolation_eq_ok] at h
  obtain ⟨intents, hintents, -, -, h⟩ := h
  exact ⟨intents, hintents, (Except.ok.inj h).symm⟩

theorem insertUnlessConflict_ok {inserted : Bool}
    (h : db.insertUnlessConflict row = .ok (inserted, db')) :
    db' = db ∨
      ∃ intents, db.stripeAutopayIntents.insert row = .ok intents ∧
        db' = { db with stripeAutopayIntents := intents } := by
  unfold insertUnlessConflict at h
  split at h
  · cases h
    exact .inl rfl
  · simp only [bind_eq_ok] at h
    obtain ⟨next, hnext, h⟩ := h
    cases h
    exact .inr (insertIntent_ok hnext)

theorem updateIntents_ok {p : StripeAutopayIntent → Prop} [DecidablePred p]
    {f : StripeAutopayIntent → StripeAutopayIntent} (h : db.updateIntents p f = .ok (n, db')) :
    ∃ intents, db.stripeAutopayIntents.updateWhere p f = .ok intents ∧
      n = countWhere p db.stripeAutopayIntents.rows ∧
      db' = { db with stripeAutopayIntents := intents } := by
  simp only [updateIntents, bind_eq_ok, liftViolation_eq_ok] at h
  obtain ⟨intents, hintents, h⟩ := h
  cases h
  exact ⟨intents, hintents, rfl, rfl⟩

theorem updateSettings_ok {f : AutopaySettings → AutopaySettings}
    (h : db.updateSettings userId f = .ok db') :
    ∃ settings, db.autopaySettings.updateWhere (fun row => row.userId = userId) f = .ok settings ∧
      db' = { db with autopaySettings := settings } := by
  simp only [updateSettings, bind_eq_ok, liftViolation_eq_ok] at h
  obtain ⟨settings, hsettings, h⟩ := h
  cases h
  exact ⟨settings, hsettings, rfl⟩

/-- What `finish_intent`'s update names. -/
def isPending (paymentIntentId : String) (row : StripeAutopayIntent) : Prop :=
  row.paymentIntentId = paymentIntentId ∧ row.status = .pending

instance (paymentIntentId : String) : DecidablePred (isPending paymentIntentId) :=
  fun _ => inferInstanceAs (Decidable (_ ∧ _))

/-- A row as it is finished. -/
def finished (now : Timestamp) (status : AutopayStatus) (row : StripeAutopayIntent) :
    StripeAutopayIntent :=
  { row with status, updatedAt := now }

theorem finishIntent_ok {status : AutopayStatus}
    (h : db.finishIntent now paymentIntentId status = .ok (n, db')) :
    ∃ intents, db.stripeAutopayIntents.updateWhere (isPending paymentIntentId)
        (finished now status) = .ok intents ∧
      db' = { db with stripeAutopayIntents := intents } := by
  obtain ⟨intents, hintents, -, rfl⟩ := updateIntents_ok h
  exact ⟨intents, hintents, rfl⟩

/-- A failure reported: the first report fails the row and strikes, later ones do
    nothing. -/
theorem failAutopayIntent_ok {moved : Bool}
    (h : db.failAutopayIntent now paymentIntentId = .ok (moved, db')) :
    (moved = false ∧ db' = db) ∨
      moved = true ∧ ∃ intent ∈ db.stripeAutopayIntents, isPending paymentIntentId intent ∧
        ∃ intents settings,
          db.stripeAutopayIntents.updateWhere (isPending paymentIntentId)
            (finished now .failed) = .ok intents ∧
          db.autopaySettings.updateWhere (fun row => row.userId = intent.userId)
            AutopaySettings.strike = .ok settings ∧
          db' = { db with stripeAutopayIntents := intents, autopaySettings := settings } := by
  unfold failAutopayIntent at h
  split at h
  · cases h
    exact .inl ⟨rfl, rfl⟩
  next intent found =>
    simp only [bind_eq_ok] at h
    obtain ⟨⟨n, failed⟩, hfailed, struck, hstruck, h⟩ := h
    cases h
    obtain ⟨intents, hintents, rfl⟩ := finishIntent_ok hfailed
    obtain ⟨settings, hsettings, rfl⟩ := updateSettings_ok hstruck
    obtain ⟨hmem, pending⟩ := Table.find_some found
    exact .inr ⟨rfl, intent, hmem, pending, intents, settings, hintents, hsettings, rfl⟩

/-- A credit, and the failures it forgives. -/
structure Credited (db : AutopayDb) (now : Timestamp) (intent : StripeAutopayIntent)
    (settings : Table autopaySettingsTable) (money : Db) : Prop where
  armed : db.autopayStillArmed intent.userId
  reset : db.autopaySettings.updateWhere (fun row => row.userId = intent.userId)
    (fun row => { row with autopayConsecutiveFailures := 0 }) = .ok settings
  paid : ∃ moved, db.toDb.moveBalance intent.userId false .rowNotFound intent.amountUsd
      (autopayEntry intent.userId intent.amountUsd intent.paymentIntentId) = .ok moved ∧
    moved.applyObservedReversals now intent.userId intent.paymentIntentId intent.amountUsd = .ok money

theorem creditAutopay_ok {intent : StripeAutopayIntent}
    (h : db.creditAutopay now intent = .ok (outcome, db')) :
    (outcome = .credited ∧ ∃ settings money, Credited db now intent settings money ∧
        db' = { db with autopaySettings := settings, toDb := money }) ∨
      outcome = .withheld ∧ ¬ db.autopayStillArmed intent.userId ∧
        ∃ intents, db.stripeAutopayIntents.updateWhere
            (fun row => row.paymentIntentId = intent.paymentIntentId)
            (finished now .withheld) = .ok intents ∧
          db' = { db with stripeAutopayIntents := intents } := by
  unfold creditAutopay at h
  split at h
  next armed =>
    simp only [bind_eq_ok] at h
    obtain ⟨reset, hreset, moved, hmoved, money, hmoney, h⟩ := h
    cases h
    obtain ⟨settings, hsettings, rfl⟩ := updateSettings_ok hreset
    exact .inl ⟨rfl, settings, money, ⟨armed, hsettings, moved, hmoved, hmoney⟩, rfl⟩
  next disarmed =>
    simp only [bind_eq_ok] at h
    obtain ⟨⟨n, withheld⟩, hwithheld, h⟩ := h
    cases h
    obtain ⟨intents, hintents, -, rfl⟩ := updateIntents_ok hwithheld
    exact .inr ⟨rfl, disarmed, intents, hintents, rfl⟩

/-- A success settled: nothing was pending, or the pending row is credited or withheld. -/
inductive Settles (db : AutopayDb) (now : Timestamp) (paymentIntentId : String) :
    AutopayOutcome → AutopayDb → Prop where
  | alreadySettled (known : ∃ row ∈ db.stripeAutopayIntents, row.paymentIntentId = paymentIntentId)
      (idle : ∀ row ∈ db.stripeAutopayIntents, ¬ isPending paymentIntentId row) :
      Settles db now paymentIntentId .alreadySettled db
  | unknown (absent : ∀ row ∈ db.stripeAutopayIntents, row.paymentIntentId ≠ paymentIntentId) :
      Settles db now paymentIntentId .unknown db
  | credited {intent : StripeAutopayIntent} {intents : Table stripeAutopayIntentsTable}
      {settings : Table autopaySettingsTable} {money : Db}
      (mem : intent ∈ db.stripeAutopayIntents) (pending : isPending paymentIntentId intent)
      (moved : db.stripeAutopayIntents.updateWhere (isPending paymentIntentId)
        (finished now .succeeded) = .ok intents)
      (credited : Credited db now intent settings money) :
      Settles db now paymentIntentId .credited
        { toDb := money, autopaySettings := settings, stripeAutopayIntents := intents }
  | withheld {intent : StripeAutopayIntent} {succeeded intents : Table stripeAutopayIntentsTable}
      (mem : intent ∈ db.stripeAutopayIntents) (pending : isPending paymentIntentId intent)
      (moved : db.stripeAutopayIntents.updateWhere (isPending paymentIntentId)
        (finished now .succeeded) = .ok succeeded)
      (disarmed : ¬ db.autopayStillArmed intent.userId)
      (held : succeeded.updateWhere (fun row => row.paymentIntentId = paymentIntentId)
        (finished now .withheld) = .ok intents) :
      Settles db now paymentIntentId .withheld { db with stripeAutopayIntents := intents }

theorem settlePending_ok (h : db.settlePending now paymentIntentId = .ok (outcome, db')) :
    Settles db now paymentIntentId outcome db' := by
  unfold settlePending at h
  split at h
  next none_pending =>
    have idle := Table.find_none none_pending
    cases found : db.intent? paymentIntentId with
    | none =>
        rw [found] at h
        cases h
        exact .unknown fun row hrow same => Table.find_none found row hrow same
    | some row =>
        rw [found] at h
        cases h
        obtain ⟨hrow, same⟩ := Table.find_some found
        exact .alreadySettled ⟨row, hrow, same⟩ idle
  next intent found =>
    obtain ⟨mem, pending⟩ := Table.find_some found
    simp only [bind_eq_ok] at h
    obtain ⟨⟨n, succeeded⟩, hsucceeded, h⟩ := h
    obtain ⟨intents, moved, rfl⟩ := finishIntent_ok hsucceeded
    rcases creditAutopay_ok h with ⟨rfl, settings, money, credited, rfl⟩ | ⟨rfl, disarmed, held, hheld, rfl⟩
    · exact .credited mem pending moved ⟨credited.armed, credited.reset, credited.paid⟩
    · rw [pending.1] at hheld
      exact .withheld mem pending moved disarmed hheld

/-- A stored row agrees with what was collected. -/
def agreesWith (row : StripeAutopayIntent) (collected : Uuid × Decimal × Decimal) : Prop :=
  (row.userId, row.amountUsd, row.chargeAmountUsd) = collected

theorem recoverIntent_ok {collected : Uuid × Decimal × Decimal}
    (h : db.recoverIntent now paymentIntentId collected = .ok db') :
    ((∃ row ∈ db.stripeAutopayIntents, row.paymentIntentId = paymentIntentId) ∧ db' = db) ∨
      (∀ row ∈ db.stripeAutopayIntents, row.paymentIntentId ≠ paymentIntentId) ∧
        ∃ intents, db.stripeAutopayIntents.insert
            (newIntent now paymentIntentId collected.1 collected.2.1 collected.2.2) = .ok intents ∧
          db' = { db with stripeAutopayIntents := intents } := by
  unfold recoverIntent at h
  split at h
  next known =>
    cases h
    exact .inl ⟨known, rfl⟩
  next absent =>
    refine .inr ⟨fun row hrow same => absent ⟨row, hrow, same⟩, insertIntent_ok h⟩

/-- `settle_autopay_intent`: a recovered row first, if one came with the event, and then
    the settlement, or the failing of a row that disagrees. -/
inductive SettlesRecovered (db : AutopayDb) (now : Timestamp) (paymentIntentId : String) :
    Option (Uuid × Decimal × Decimal) → Except SqlError AutopayOutcome → AutopayDb → Prop where
  | stored {outcome : AutopayOutcome} {settled : AutopayDb}
      (settles : Settles db now paymentIntentId outcome settled) :
      SettlesRecovered db now paymentIntentId none (.ok outcome) settled
  | agreed {collected : Uuid × Decimal × Decimal} {recovered settled : AutopayDb}
      {row : StripeAutopayIntent} {outcome : AutopayOutcome}
      (recovers : db.recoverIntent now paymentIntentId collected = .ok recovered)
      (mem : row ∈ recovered.stripeAutopayIntents) (id : row.paymentIntentId = paymentIntentId)
      (agrees : agreesWith row collected)
      (settles : Settles recovered now paymentIntentId outcome settled) :
      SettlesRecovered db now paymentIntentId (some collected) (.ok outcome) settled
  | disagreed {collected : Uuid × Decimal × Decimal} {recovered : AutopayDb}
      {row : StripeAutopayIntent} {intents : Table stripeAutopayIntentsTable} {error : SqlError}
      (recovers : db.recoverIntent now paymentIntentId collected = .ok recovered)
      (mem : row ∈ recovered.stripeAutopayIntents) (id : row.paymentIntentId = paymentIntentId)
      (disagrees : ¬ agreesWith row collected)
      (failed : recovered.stripeAutopayIntents.updateWhere (isPending paymentIntentId)
        (finished now .failed) = .ok intents) :
      SettlesRecovered db now paymentIntentId (some collected) (.error error)
        { recovered with stripeAutopayIntents := intents }

theorem settleAutopayIntent_ok {recovered : Option (Uuid × Decimal × Decimal)}
    {answer : Except SqlError AutopayOutcome}
    (h : db.settleAutopayIntent now paymentIntentId recovered = .ok (answer, db')) :
    SettlesRecovered db now paymentIntentId recovered answer db' := by
  unfold settleAutopayIntent at h
  cases recovered with
  | none =>
      simp only [bind_eq_ok] at h
      obtain ⟨⟨outcome, settled⟩, hsettled, h⟩ := h
      cases h
      exact .stored (settlePending_ok hsettled)
  | some collected =>
      simp only [bind_eq_ok] at h
      obtain ⟨recovered, hrecovered, h⟩ := h
      split at h
      · cases h
      next row found =>
        obtain ⟨mem, id⟩ := Table.find_some found
        split at h
        next agrees =>
          simp only [bind_eq_ok] at h
          obtain ⟨⟨outcome, settled⟩, hsettled, h⟩ := h
          cases h
          exact .agreed hrecovered mem id agrees (settlePending_ok hsettled)
        next disagrees =>
          simp only [bind_eq_ok] at h
          obtain ⟨⟨n, failed⟩, hfailed, h⟩ := h
          cases h
          obtain ⟨intents, hintents, rfl⟩ := finishIntent_ok hfailed
          exact .disagreed hrecovered mem id disagrees hintents

theorem armAutopay_ok {bounds : CheckoutBounds} {thresholdUsd topupUsd : Decimal} {hasCard armed : Bool}
    (h : db.armAutopay bounds userId thresholdUsd topupUsd hasCard = .ok (armed, db')) :
    (armed = false ∧ db' = db) ∨
      armed = true ∧ bounds.admits topupUsd ∧
        ∃ settings, db.autopaySettings.updateWhere (fun row => row.userId = userId)
            (fun row =>
              { row with
                autopayEnabled := true
                autopayThresholdUsd := some thresholdUsd
                autopayTopupUsd := some topupUsd
                autopayConsecutiveFailures := 0 }) = .ok settings ∧
          db' = { db with autopaySettings := settings } := by
  unfold armAutopay at h
  split at h
  next passes =>
    simp only [bind_eq_ok] at h
    obtain ⟨next, hnext, h⟩ := h
    cases h
    obtain ⟨settings, hsettings, rfl⟩ := updateSettings_ok hnext
    exact .inr ⟨rfl, passes.1, settings, hsettings, rfl⟩
  · cases h
    exact .inl ⟨rfl, rfl⟩

end Operations

end ZeroRouter.Billing
