import ZeroRouter.Proofs.AutopaySteps
import ZeroRouter.Proofs.Converge
import ZeroRouter.Proofs.Terms

/-!
# Autopay credits once

Over whole runs: an intent's credit is there exactly where its row succeeded, an account is
credited only while it is armed, an outcome stays, and the failures are the strikes since the
last credit or arming.
-/

namespace ZeroRouter.Billing

open List Relational AutopayDb Table

variable {recovered : Option (Uuid × Decimal × Decimal)} {intents : Table stripeAutopayIntentsTable}
  {row : StripeAutopayIntent} {before : Standing}

/-! ## Rows that stay -/

section Rows

variable {intents intents' : Table stripeAutopayIntentsTable} {p : StripeAutopayIntent → Prop}
  [DecidablePred p] {f : StripeAutopayIntent → StripeAutopayIntent} {now : Timestamp}
  {paymentIntentId : String} {row : StripeAutopayIntent} {q : StripeAutopayIntent → Prop}

/-- The rows that satisfy `p` were rewritten. -/
def RewritesTo (intents : Table stripeAutopayIntentsTable) (p : StripeAutopayIntent → Prop)
    [DecidablePred p] (f : StripeAutopayIntent → StripeAutopayIntent)
    (intents' : Table stripeAutopayIntentsTable) : Prop :=
  ∀ row, row ∈ intents' ↔ ∃ old ∈ intents, Table.rewrite p f old = row

theorem rewritesTo_updateWhere (h : intents.updateWhere p f = .ok intents') :
    RewritesTo intents p f intents' := fun _ => mem_updateWhere h

theorem RewritesTo.forth (h : RewritesTo intents p f intents') (mem : row ∈ intents)
    (other : ¬ p row) : row ∈ intents' :=
  (h row).mpr ⟨row, mem, if_neg other⟩

theorem RewritesTo.moved (h : RewritesTo intents p f intents') (mem : row ∈ intents)
    (here : p row) : f row ∈ intents' :=
  (h (f row)).mpr ⟨row, mem, if_pos here⟩

theorem RewritesTo.back (h : RewritesTo intents p f intents') (mem : row ∈ intents') :
    row ∈ intents ∧ ¬ p row ∨ ∃ old ∈ intents, p old ∧ row = f old := by
  obtain ⟨old, hold, same⟩ := (h row).mp mem
  unfold rewrite at same
  split at same
  next here => exact .inr ⟨old, hold, here, same.symm⟩
  next other =>
    subst same
    exact .inl ⟨hold, other⟩

theorem Entered.kept {new : StripeAutopayIntent} (h : Entered intents new intents')
    (unmade : ¬ q new) (kind : q row) :
    row ∈ intents' ↔ row ∈ intents := by
  constructor
  · intro mem
    rcases h.back mem with before | rfl
    · exact before
    · exact absurd kind unmade
  · exact h.forth

theorem Recovers.entered (h : Recovers intents now paymentIntentId recovered intents') :
    intents' = intents ∨ ∃ collected : Uuid × Decimal × Decimal, Entered intents
      (newIntent now paymentIntentId collected.1 collected.2.1 collected.2.2) intents' := by
  rcases h with rfl | ⟨collected, -, -, inserted⟩
  · exact .inl rfl
  · exact .inr ⟨collected, .inr inserted⟩

theorem Recovers.kept (h : Recovers intents now paymentIntentId recovered intents')
    (unmade : ∀ row : StripeAutopayIntent, row.status = .pending → ¬ q row) (kind : q row) :
    row ∈ intents' ↔ row ∈ intents := by
  rcases h.entered with rfl | ⟨collected, entered⟩
  · exact Iff.rfl
  · exact entered.kept (unmade _ rfl) kind

end Rows

/-! ## The invariant of the rows -/

section Rows

variable (stripe : StripeObjects) {status : AutopayStatus} {claimed : List String}

/-- A row is a claim's, not yet credited, or an intent's. -/
def Named (claimed : List String) (row : StripeAutopayIntent) : Prop :=
  (∃ key ∈ claimed, row.paymentIntentId = localId key ∧
    (row.status = .pending ∨ row.status = .failed)) ∨
  stripe.object row.paymentIntentId = .paymentIntent none

/-- The credits of autopay are those of the rows that succeeded. -/
structure Matched (w : World) : Prop where
  named : ∀ row ∈ w.db.stripeAutopayIntents, Named stripe w.claimed row
  credited : ∀ row ∈ w.db.stripeAutopayIntents, row.status = .succeeded →
    creditOf row ∈ autopays w.db.toDb
  matched : ∀ entry ∈ autopays w.db.toDb, ∃ row ∈ w.db.stripeAutopayIntents,
    row.status = .succeeded ∧ creditOf row = entry

variable {stripe} {w w' : World} {action : Action} {now : Timestamp} {paymentIntentId key : String}
  {row : StripeAutopayIntent}

theorem Matched.ofClaim (h : Matched stripe w) (mem : row ∈ w.db.stripeAutopayIntents)
    (id : row.paymentIntentId = localId key) : row.status = .pending ∨ row.status = .failed := by
  rcases h.named row mem with ⟨-, -, -, status⟩ | genuine
  · exact status
  · rw [id, stripe.notLocal] at genuine
    cases genuine

/-- Where a row of the next state comes from. -/
inductive Origin (stripe : StripeObjects) (w w' : World) (row : StripeAutopayIntent) : Prop where
  | kept (mem : row ∈ w.db.stripeAutopayIntents)
  | moved {old : StripeAutopayIntent} (mem : old ∈ w.db.stripeAutopayIntents)
      (id : row.paymentIntentId = old.paymentIntentId) (was : old.status = .pending)
      (status : (row.status = .pending ∨ row.status = .failed) ∨
        stripe.object row.paymentIntentId = .paymentIntent none)
      (unpaid : autopays w'.db.toDb = autopays w.db.toDb → row.status ≠ .succeeded)
  | claimed {key : String} (new : key ∉ w.claimed) (drawn : key ∈ w'.claimed)
      (id : row.paymentIntentId = localId key) (pending : row.status = .pending)
      (absent : ∀ old ∈ w.db.stripeAutopayIntents, old.paymentIntentId ≠ row.paymentIntentId)
  | made (genuine : stripe.object row.paymentIntentId = .paymentIntent none)
      (absent : ∀ old ∈ w.db.stripeAutopayIntents, old.paymentIntentId ≠ row.paymentIntentId)
      (unpaid : autopays w'.db.toDb = autopays w.db.toDb → row.status ≠ .succeeded)

theorem Entered.origin {intents' : Table stripeAutopayIntentsTable} {userId : Uuid}
    {amountUsd chargeAmountUsd : Decimal}
    (entered : Entered intents
      (newIntent now paymentIntentId userId amountUsd chargeAmountUsd) intents')
    (mem : row ∈ intents') : row ∈ intents ∨
      (∀ old ∈ intents, old.paymentIntentId ≠ paymentIntentId) ∧
        row.paymentIntentId = paymentIntentId ∧ row.status = .pending := by
  rcases entered with rfl | inserted
  · exact .inl mem
  · rcases (mem_insert inserted).mp mem with before | rfl
    · exact .inl before
    · exact .inr ⟨fun old hold => (free_of_insert inserted old hold).1, rfl, rfl⟩

/-- Where a row comes from that a settlement finishes, or leaves. -/
theorem Recovers.origin (genuine : stripe.object paymentIntentId = .paymentIntent none)
    (recovers : Recovers w.db.stripeAutopayIntents now paymentIntentId recovered intents)
    (mem : row ∈ intents) : row ∈ w.db.stripeAutopayIntents ∨
      (∀ old ∈ w.db.stripeAutopayIntents, old.paymentIntentId ≠ row.paymentIntentId) ∧
        stripe.object row.paymentIntentId = .paymentIntent none ∧ row.status = .pending := by
  rcases recovers.entered with same | ⟨collected, entered⟩
  · rw [same] at mem
    exact .inl mem
  · rcases entered.origin mem with before | ⟨absent, id, pending⟩
    · exact .inl before
    · rw [id]
      exact .inr ⟨absent, genuine, pending⟩

/-- The rows of an intent that is settled: finished ones were pending, or had no row. -/
theorem Recovers.settled (genuine : stripe.object paymentIntentId = .paymentIntent none)
    (recovers : Recovers w.db.stripeAutopayIntents now paymentIntentId recovered intents)
    (rewrites : RewritesTo intents (isPending paymentIntentId) (finished now status)
      w'.db.stripeAutopayIntents)
    (unpaid : autopays w'.db.toDb = autopays w.db.toDb → status ≠ .succeeded)
    (mem : row ∈ w'.db.stripeAutopayIntents) : Origin stripe w w' row := by
  rcases rewrites.back mem with ⟨before, -⟩ | ⟨old, hold, here, rfl⟩
  · rcases recovers.origin genuine before with kept | ⟨absent, object, pending⟩
    · exact .kept kept
    · refine .made object absent fun _ succeeded => ?_
      rw [pending] at succeeded
      cases succeeded
  · rcases recovers.origin genuine hold with kept | ⟨absent, object, -⟩
    · refine .moved kept rfl here.2 (.inr ?_) unpaid
      show stripe.object old.paymentIntentId = _
      rw [here.1]
      exact genuine
    · exact .made object absent unpaid

theorem Matched.origin (h : Matched stripe w) (did : Did stripe w w' action)
    (mem : row ∈ w'.db.stripeAutopayIntents) : Origin stripe w w' row := by
  have unlike {status : AutopayStatus} (is : row.status = status) (other : status ≠ .succeeded) :
      row.status ≠ .succeeded := by
    rw [is]
    exact other
  cases did with
  | aside intents | armed intents | disarmed intents =>
      rw [intents.intents] at mem
      exact .kept mem
  | claimed new entered drawn =>
      rcases entered.origin mem with before | ⟨absent, id, pending⟩
      · exact .kept before
      · refine .claimed new (by rw [drawn]; exact mem_cons_self) id pending ?_
        rw [id]
        exact absent
  | recorded genuine entered =>
      rcases entered.origin mem with before | ⟨absent, rfl, pending⟩
      · exact .kept before
      · exact .made genuine absent fun _ => unlike pending (by decide)
  | renamed genuine rows =>
      rcases rows.back mem with before | ⟨old, hold, ⟨id, free⟩, rfl⟩
      · exact .kept before
      · refine .made genuine (fun other hother same => free ⟨other, hother, same⟩) fun _ => ?_
        rcases h.ofClaim hold id with status | status
        · exact unlike status (by decide)
        · exact unlike status (by decide)
  | dropped rows =>
      rw [rows, mem_deleteWhere] at mem
      exact .kept mem.1
  | priced rows =>
      rcases rows.back mem with before | ⟨old, hold, here, rfl⟩
      · exact .kept before
      · exact .moved hold rfl here.2 (.inl (.inl here.2)) fun _ => unlike here.2 (by decide)
  | paid genuine recovers drawn pays =>
      refine recovers.settled genuine (rewritesTo_updateWhere pays.rows) (fun unpaid => ?_) mem
      have grown := congrArg List.length (pays.credits.symm.trans unpaid)
      rw [length_append, length_singleton] at grown
      omega
  | held genuine recovers drawn holds =>
      rcases holds.rows with same | ⟨status, kind, rows⟩
      · rw [same] at mem
        rcases recovers.origin genuine mem with kept | ⟨absent, object, pending⟩
        · exact .kept kept
        · exact .made object absent fun _ => unlike pending (by decide)
      · refine recovers.settled genuine rows (fun _ => ?_) mem
        rcases kind with rfl | rfl <;> decide
  | failed intent here rows =>
      rcases (rewritesTo_updateWhere rows).back mem with ⟨before, -⟩ | ⟨old, hold, was, rfl⟩
      · exact .kept before
      · exact .moved hold rfl was.2 (.inl (.inr rfl)) fun _ => unlike (rfl : _ = AutopayStatus.failed)
          (by decide)

/-- What becomes of a row. -/
inductive Outcome (w' : World) (action : Action) (row : StripeAutopayIntent) : Prop where
  | kept (mem : row ∈ w'.db.stripeAutopayIntents)
  | moved {row' : StripeAutopayIntent} (mem : row' ∈ w'.db.stripeAutopayIntents)
      (id : row'.paymentIntentId = row.paymentIntentId) (was : row.status = .pending)
  | detached {key : String} (id : row.paymentIntentId = localId key)
      (taken : action = .dropClaim key ∨
        ∃ now paymentIntentId, action = .renameClaim now key paymentIntentId ∧
          Billing.renamed now paymentIntentId row ∈ w'.db.stripeAutopayIntents)

theorem RewritesTo.outcome
    (rewrites : RewritesTo intents (isPending paymentIntentId) (finished now status)
      w'.db.stripeAutopayIntents) (mem : row ∈ intents) : Outcome w' action row := by
  by_cases here : isPending paymentIntentId row
  · exact .moved (rewrites.moved mem here) rfl here.2
  · exact .kept (rewrites.forth mem here)

theorem Did.outcome (did : Did stripe w w' action) (mem : row ∈ w.db.stripeAutopayIntents) :
    Outcome w' action row := by
  have recovered {intents : Table stripeAutopayIntentsTable} {now : Timestamp}
      {paymentIntentId : String} {collected : Option (Uuid × Decimal × Decimal)}
      (recovers : Recovers w.db.stripeAutopayIntents now paymentIntentId collected intents) :
      row ∈ intents := by
    rcases recovers.entered with same | ⟨collected, entered⟩
    · rw [same]
      exact mem
    · exact entered.forth mem
  cases did with
  | aside intents | armed intents | disarmed intents =>
      refine .kept ?_
      rw [intents.intents]
      exact mem
  | claimed _ entered | recorded _ entered => exact .kept (entered.forth mem)
  | renamed _ rows =>
      rcases rows.forth mem with kept | ⟨⟨id, -⟩, moved⟩
      · exact .kept kept
      · exact .detached id (.inr ⟨_, _, rfl, moved⟩)
  | @dropped key rows =>
      by_cases id : row.paymentIntentId = localId key
      · exact .detached id (.inl rfl)
      · refine .kept ?_
        rw [rows]
        exact mem_deleteWhere.mpr ⟨mem, id⟩
  | priced rows =>
      rcases rows.forth mem with kept | ⟨here, moved⟩
      · exact .kept kept
      · exact .moved moved rfl here.2
  | paid _ recovers _ pays =>
      exact (rewritesTo_updateWhere pays.rows).outcome (recovered recovers)
  | held _ recovers _ holds =>
      rcases holds.rows with same | ⟨status, -, rows⟩
      · refine .kept ?_
        rw [same]
        exact recovered recovers
      · exact RewritesTo.outcome rows (recovered recovers)
  | failed _ _ rows => exact (rewritesTo_updateWhere rows).outcome mem

/-- Only a settlement that credits makes a row succeed, and none undoes that. -/
theorem Matched.succeeded_iff (h : Matched stripe w) (did : Did stripe w w' action)
    (unpaid : autopays w'.db.toDb = autopays w.db.toDb) (succeeded : row.status = .succeeded) :
    row ∈ w'.db.stripeAutopayIntents ↔ row ∈ w.db.stripeAutopayIntents := by
  constructor
  · intro mem
    cases h.origin did mem with
    | kept mem => exact mem
    | moved _ _ _ _ other => exact absurd succeeded (other unpaid)
    | made _ _ other => exact absurd succeeded (other unpaid)
    | claimed _ _ _ pending =>
        rw [pending] at succeeded
        cases succeeded
  · intro mem
    cases did.outcome mem with
    | kept mem => exact mem
    | moved _ _ was =>
        rw [was] at succeeded
        cases succeeded
    | detached id =>
        rcases h.ofClaim mem id with status | status
        · rw [status] at succeeded
          cases succeeded
        · rw [status] at succeeded
          cases succeeded

theorem Named.mono {claimed' : List String} (h : Named stripe claimed row)
    (grows : ∀ key ∈ claimed, key ∈ claimed') : Named stripe claimed' row :=
  h.imp_left fun ⟨key, mem, claim⟩ => ⟨key, grows key mem, claim⟩

/-- A row that failed, or has yet to be finished, under the id it had. -/
theorem Named.restatus {row' : StripeAutopayIntent} (h : Named stripe claimed row)
    (id : row'.paymentIntentId = row.paymentIntentId)
    (status : row'.status = .pending ∨ row'.status = .failed) : Named stripe claimed row' := by
  unfold Named
  rw [id]
  rcases h with ⟨key, mem, claim, -⟩ | genuine
  · exact .inl ⟨key, mem, claim, status⟩
  · exact .inr genuine

theorem Did.claimed_grows (did : Did stripe w w' action) : ∀ key ∈ w.claimed, key ∈ w'.claimed := by
  intro key drawn
  cases did with
  | aside intents | armed intents | disarmed intents => rwa [intents.claimed]
  | claimed _ _ drawn' =>
      rw [drawn']
      exact mem_cons_of_mem _ drawn
  | renamed _ _ drawn' | dropped _ drawn' | priced _ drawn' | paid _ _ drawn'
  | held _ _ drawn' | failed _ _ _ _ drawn' | recorded _ _ drawn' => rwa [drawn']

theorem Matched.named_step (h : Matched stripe w) (did : Did stripe w w' action) :
    ∀ row ∈ w'.db.stripeAutopayIntents, Named stripe w'.claimed row := by
  intro row mem
  cases h.origin did mem with
  | kept mem => exact (h.named row mem).mono did.claimed_grows
  | moved hold id _ status =>
      rcases status with status | genuine
      · exact ((h.named _ hold).mono did.claimed_grows).restatus id status
      · exact .inr genuine
  | claimed _ drawn id pending => exact .inl ⟨_, drawn, id, .inl pending⟩
  | made genuine => exact .inr genuine

/-- A credit enters the one row that succeeded. -/
theorem Matched.paid (h : Matched stripe w) {intent : StripeAutopayIntent}
    (recovers : Recovers w.db.stripeAutopayIntents now paymentIntentId recovered intents)
    (pays : Pays w w' now paymentIntentId intents intent)
    (ids : ∀ row ∈ w'.db.stripeAutopayIntents, Named stripe w'.claimed row) :
    Matched stripe w' := by
  have rewrites := rewritesTo_updateWhere pays.rows
  have before (row : StripeAutopayIntent) (succeeded : row.status = .succeeded) :
      row ∈ intents ↔ row ∈ w.db.stripeAutopayIntents := by
    refine recovers.kept (q := fun row => row.status = .succeeded) (fun row same => ?_) succeeded
    rw [same]
    decide
  have unpending (row : StripeAutopayIntent) (succeeded : row.status = .succeeded) :
      ¬ isPending paymentIntentId row := by
    rintro ⟨-, pending⟩
    rw [succeeded] at pending
    cases pending
  refine ⟨ids, ?_, ?_⟩
  · intro row mem succeeded
    rw [pays.credits]
    rcases rewrites.back mem with ⟨kept, -⟩ | ⟨old, hold, here, rfl⟩
    · exact mem_append_left _ (h.credited row ((before row succeeded).mp kept) succeeded)
    · rw [eq_of_intent hold pays.mem (here.1.trans pays.pending.1.symm)]
      exact mem_append_right _ mem_cons_self
  · intro entry mem
    rw [pays.credits] at mem
    rcases mem_append.mp mem with old | new
    · obtain ⟨row, hrow, succeeded, credit⟩ := h.matched entry old
      exact ⟨row, rewrites.forth ((before row succeeded).mpr hrow) (unpending row succeeded),
        succeeded, credit⟩
    · obtain rfl := mem_singleton.mp new
      exact ⟨finished now .succeeded intent, rewrites.moved pays.mem pays.pending, rfl, rfl⟩

theorem Matched.step (h : Matched stripe w) (did : Did stripe w w' action) :
    Matched stripe w' := by
  have ids := h.named_step did
  have kept (unpaid : autopays w'.db.toDb = autopays w.db.toDb) : Matched stripe w' := by
    have same (row : StripeAutopayIntent) (succeeded : row.status = .succeeded) :=
      h.succeeded_iff did unpaid succeeded
    refine ⟨ids, ?_, ?_⟩
    · intro row mem succeeded
      rw [unpaid]
      exact h.credited row ((same row succeeded).mp mem) succeeded
    · intro entry mem
      rw [unpaid] at mem
      obtain ⟨row, hrow, succeeded, credit⟩ := h.matched entry mem
      exact ⟨row, (same row succeeded).mpr hrow, succeeded, credit⟩
  cases did with
  | paid genuine recovers drawn pays => exact h.paid recovers pays ids
  | held genuine recovers drawn holds => exact kept holds.credits
  | aside _ _ credits | armed _ credits | disarmed _ credits => exact kept credits
  | claimed _ _ _ _ credits | renamed _ _ _ _ credits | dropped _ _ _ credits
  | priced _ _ _ credits | recorded _ _ _ _ credits => exact kept credits
  | failed _ _ _ _ _ _ credits => exact kept credits

end Rows

/-! ## Outcomes that stay -/

section Final

variable {stripe : StripeObjects} {w w' : World} {action : Action} {row : StripeAutopayIntent}

/-- The step took a failed claim's row off its local id: it bears its intent's, or was dropped. -/
def Detaches (action : Action) (row : StripeAutopayIntent) (w' : World) : Prop :=
  row.status = .failed ∧ ∃ key, row.paymentIntentId = localId key ∧
    (action = .dropClaim key ∨
      ∃ now paymentIntentId, action = .renameClaim now key paymentIntentId ∧
        Billing.renamed now paymentIntentId row ∈ w'.db.stripeAutopayIntents)

/-- A finished row is there after a step as it was, unless it is a failed claim's. -/
theorem Matched.final (h : Matched stripe w) (did : Did stripe w w' action)
    (mem : row ∈ w.db.stripeAutopayIntents) (terminal : row.status ≠ .pending) :
    row ∈ w'.db.stripeAutopayIntents ∨ Detaches action row w' := by
  cases did.outcome mem with
  | kept mem => exact .inl mem
  | moved _ _ was => exact absurd was terminal
  | detached id taken =>
      exact .inr ⟨(h.ofClaim mem id).resolve_left terminal, _, id, taken⟩

end Final

/-! ## Failures -/

/-- The strikes of a user since the last credit or arming. -/
def strikesSince (userId : Uuid) : List Mark → Nat
  | [] => 0
  | .strike _ other :: marks => if other = userId then strikesSince userId marks + 1
      else strikesSince userId marks
  | .reset other :: marks => if other = userId then 0 else strikesSince userId marks

/-- The intents a strike was for. -/
def struck (marks : List Mark) : List String :=
  marks.filterMap fun
    | .strike paymentIntentId _ => some paymentIntentId
    | .reset _ => none

section Failures

variable (stripe : StripeObjects)

/-- The failures are the strikes; each is for one intent, which is no longer pending. -/
structure Tallied (w : World) : Prop where
  capped : ∀ settings ∈ w.db.autopaySettings, settings.autopayEnabled = true →
    settings.autopayConsecutiveFailures < 3
  counted : ∀ settings ∈ w.db.autopaySettings,
    settings.autopayConsecutiveFailures = strikesSince settings.userId w.marks
  once : (struck w.marks).Nodup
  ended : ∀ paymentIntentId ∈ struck w.marks,
    (∀ row ∈ w.db.stripeAutopayIntents, ¬ isPending paymentIntentId row) ∧
    ((∃ key ∈ w.claimed, paymentIntentId = localId key) ∨
      ∃ row ∈ w.db.stripeAutopayIntents, row.paymentIntentId = paymentIntentId)

variable {stripe} {w w' : World} {action : Action}

theorem struck_reset (userId : Uuid) (marks : List Mark) :
    struck (.reset userId :: marks) = struck marks := rfl

theorem struck_strike (paymentIntentId : String) (userId : Uuid) (marks : List Mark) :
    struck (.strike paymentIntentId userId :: marks) = paymentIntentId :: struck marks := rfl

section Settings

variable {settings settings' : Table autopaySettingsTable} {f : AutopaySettings → AutopaySettings}
  {userId : Uuid} {row' : AutopaySettings}

/-- The settings of other users are as they were. -/
theorem settings_cases
    (h : settings.updateWhere (fun row => row.userId = userId) f = .ok settings')
    (mem : row' ∈ settings') :
    row' ∈ settings ∧ row'.userId ≠ userId ∨
      ∃ row ∈ settings, row.userId = userId ∧ row' = f row := by
  obtain ⟨row, hrow, same⟩ := (mem_updateWhere h).mp mem
  unfold rewrite at same
  split at same
  next here => exact .inr ⟨row, hrow, here, same.symm⟩
  next other =>
    subst same
    exact .inl ⟨hrow, other⟩

end Settings

/-- What a step makes of one user's settings. -/
inductive Turns (w w' : World) (action : Action) (settings : AutopaySettings) :
    AutopaySettings → Prop where
  | kept : Turns w w' action settings settings
  | disarmed : Turns w w' action settings { settings with autopayEnabled := false }
  | struck {now : Timestamp} {paymentIntentId : String} {row : StripeAutopayIntent}
      (made : action = .failAutopayIntent now paymentIntentId)
      (mem : row ∈ w.db.stripeAutopayIntents) (pending : isPending paymentIntentId row)
      (failed : finished now .failed row ∈ w'.db.stripeAutopayIntents)
      (user : row.userId = settings.userId) :
      Turns w w' action settings (AutopaySettings.strike settings)
  | credited {now : Timestamp} {paymentIntentId : String}
      {recovered : Option (Uuid × Decimal × Decimal)} {row : StripeAutopayIntent}
      (made : action = .settleAutopayIntent now paymentIntentId recovered)
      (mem : row ∈ w'.db.stripeAutopayIntents) (succeeded : row.status = .succeeded)
      (user : row.userId = settings.userId)
      (credits : autopays w'.db.toDb = autopays w.db.toDb ++ [creditOf row]) :
      Turns w w' action settings { settings with autopayConsecutiveFailures := 0 }
  | armed {thresholdUsd topupUsd : Decimal} {hasCard : Bool}
      (made : action = .armAutopay settings.userId thresholdUsd topupUsd hasCard) :
      Turns w w' action settings
        { settings with
          autopayEnabled := true
          autopayThresholdUsd := some thresholdUsd
          autopayTopupUsd := some topupUsd
          autopayConsecutiveFailures := 0 }

theorem Did.turns (did : Did stripe w w' action) {settings' : AutopaySettings}
    (mem : settings' ∈ w'.db.autopaySettings) :
    ∃ settings ∈ w.db.autopaySettings, Turns w w' action settings settings' := by
  have same (arming : SameArming w w') :
      ∃ settings ∈ w.db.autopaySettings, Turns w w' action settings settings' := by
    rw [arming.settings] at mem
    exact ⟨settings', mem, .kept⟩
  cases did with
  | aside _ arming | claimed _ _ _ arming | renamed _ _ _ arming | dropped _ _ arming
  | priced _ _ arming | recorded _ _ _ arming => exact same arming
  | held _ _ _ holds => exact same holds.arming
  | armed _ _ settings _ =>
      rcases settings_cases settings mem with ⟨before, -⟩ | ⟨row, hrow, rfl, rfl⟩
      · exact ⟨settings', before, .kept⟩
      · exact ⟨row, hrow, .armed rfl⟩
  | disarmed _ _ settings _ =>
      rcases settings_cases settings mem with ⟨before, -⟩ | ⟨row, hrow, -, rfl⟩
      · exact ⟨settings', before, .kept⟩
      · exact ⟨row, hrow, .disarmed⟩
  | paid _ _ _ pays =>
      rcases settings_cases pays.settings mem with ⟨before, -⟩ | ⟨row, hrow, user, rfl⟩
      · exact ⟨settings', before, .kept⟩
      · exact ⟨row, hrow, .credited rfl
          ((rewritesTo_updateWhere pays.rows).moved pays.mem pays.pending) rfl user.symm
          pays.credits⟩
  | failed mem' pending rows settings _ _ _ =>
      rcases settings_cases settings mem with ⟨before, -⟩ | ⟨row, hrow, user, rfl⟩
      · exact ⟨settings', before, .kept⟩
      · exact ⟨row, hrow, .struck rfl mem' pending
          ((rewritesTo_updateWhere rows).moved mem' pending) user.symm⟩

/-- A pending row was pending under its id, or bears an id no row had. -/
theorem Matched.pending_origin (h : Matched stripe w) (did : Did stripe w w' action)
    (mem : row ∈ w'.db.stripeAutopayIntents) (pending : row.status = .pending) :
    (∃ old ∈ w.db.stripeAutopayIntents, old.paymentIntentId = row.paymentIntentId ∧
      old.status = .pending) ∨
    (∀ old ∈ w.db.stripeAutopayIntents, old.paymentIntentId ≠ row.paymentIntentId) ∧
      ((∃ key, key ∉ w.claimed ∧ row.paymentIntentId = localId key) ∨
        stripe.object row.paymentIntentId = .paymentIntent none) := by
  cases h.origin did mem with
  | kept mem => exact .inl ⟨row, mem, rfl, pending⟩
  | moved hold id was => exact .inl ⟨_, hold, id.symm, was⟩
  | claimed new _ id _ absent => exact .inr ⟨absent, .inl ⟨_, new, id⟩⟩
  | made genuine absent => exact .inr ⟨absent, .inr genuine⟩

/-- A row's id is there after a step, unless it is a claim's. -/
theorem Matched.id_kept (h : Matched stripe w) (did : Did stripe w w' action)
    (mem : row ∈ w.db.stripeAutopayIntents) :
    (∃ key ∈ w.claimed, row.paymentIntentId = localId key) ∨
      ∃ row' ∈ w'.db.stripeAutopayIntents, row'.paymentIntentId = row.paymentIntentId := by
  cases did.outcome mem with
  | kept mem => exact .inr ⟨row, mem, rfl⟩
  | moved mem id => exact .inr ⟨_, mem, id⟩
  | detached id =>
      rcases h.named row mem with ⟨key, drawn, claim, -⟩ | genuine
      · exact .inl ⟨key, drawn, claim⟩
      · rw [id, stripe.notLocal] at genuine
        cases genuine

theorem Tallied.capped_step (h : Tallied w) (did : Did stripe w w' action) :
    ∀ settings ∈ w'.db.autopaySettings, settings.autopayEnabled = true →
      settings.autopayConsecutiveFailures < 3 := by
  intro settings' mem enabled
  obtain ⟨settings, before, turns⟩ := did.turns mem
  cases turns with
  | kept => exact h.capped _ before enabled
  | disarmed => cases enabled
  | struck =>
      obtain ⟨-, few⟩ := Bool.and_eq_true_iff.mp enabled
      exact of_decide_eq_true few
  | credited | armed => exact Nat.zero_lt_succ 2

theorem Tallied.counted_step (h : Tallied w) (did : Did stripe w w' action) :
    ∀ settings ∈ w'.db.autopaySettings,
      settings.autopayConsecutiveFailures = strikesSince settings.userId w'.marks := by
  intro settings' mem
  have same (arming : SameArming w w') :
      settings'.autopayConsecutiveFailures = strikesSince settings'.userId w'.marks := by
    rw [arming.settings] at mem
    rw [arming.marks]
    exact h.counted settings' mem
  cases did with
  | aside _ arming | claimed _ _ _ arming | renamed _ _ _ arming | dropped _ _ arming
  | priced _ _ arming | recorded _ _ _ arming => exact same arming
  | held _ _ _ holds => exact same holds.arming
  | armed _ _ settings marks =>
      rw [marks]
      rcases settings_cases settings mem with ⟨before, other⟩ | ⟨row, -, rfl, rfl⟩
      · rw [strikesSince, if_neg (Ne.symm other)]
        exact h.counted settings' before
      · rw [strikesSince, if_pos rfl]
  | disarmed _ _ settings marks =>
      rw [marks]
      rcases settings_cases settings mem with ⟨before, -⟩ | ⟨row, hrow, -, rfl⟩
      · exact h.counted settings' before
      · exact h.counted row hrow
  | paid _ _ _ pays =>
      rw [pays.marks]
      rcases settings_cases pays.settings mem with ⟨before, other⟩ | ⟨row, -, user, rfl⟩
      · rw [strikesSince, if_neg (Ne.symm other)]
        exact h.counted settings' before
      · rw [strikesSince, if_pos user.symm]
  | failed _ _ _ settings _ marks =>
      rw [marks]
      rcases settings_cases settings mem with ⟨before, other⟩ | ⟨row, hrow, user, rfl⟩
      · rw [strikesSince, if_neg (Ne.symm other)]
        exact h.counted settings' before
      · have tally := h.counted row hrow
        rw [strikesSince]
        show row.autopayConsecutiveFailures + 1 = if _ = row.userId then _ else _
        rw [if_pos user.symm, tally]
        rfl

theorem Tallied.ended_step (h : Tallied w) (matched : Matched stripe w)
    (did : Did stripe w w' action) {paymentIntentId : String}
    (mem : paymentIntentId ∈ struck w.marks) :
    (∀ row ∈ w'.db.stripeAutopayIntents, ¬ isPending paymentIntentId row) ∧
    ((∃ key ∈ w'.claimed, paymentIntentId = localId key) ∨
      ∃ row ∈ w'.db.stripeAutopayIntents, row.paymentIntentId = paymentIntentId) := by
  obtain ⟨idle, known⟩ := h.ended paymentIntentId mem
  have grows := did.claimed_grows
  refine ⟨fun row hrow here => ?_, ?_⟩
  · rcases matched.pending_origin did hrow here.2 with ⟨old, hold, id, pending⟩ | ⟨absent, new⟩
    · exact idle old hold ⟨id.trans here.1, pending⟩
    · rw [here.1] at absent new
      rcases known with ⟨key, drawn, claim⟩ | ⟨old, hold, id⟩
      · rcases new with ⟨key', fresh, claim'⟩ | genuine
        · rw [Recharge.localId_injective (claim'.symm.trans claim)] at fresh
          exact fresh drawn
        · rw [claim, stripe.notLocal] at genuine
          cases genuine
      · exact absent old hold id
  · rcases known with ⟨key, drawn, claim⟩ | ⟨old, hold, rfl⟩
    · exact .inl ⟨key, grows key drawn, claim⟩
    · rcases matched.id_kept did hold with ⟨key, drawn, claim⟩ | kept
      · exact .inl ⟨key, grows key drawn, claim⟩
      · exact .inr kept

theorem Tallied.step (h : Tallied w) (matched : Matched stripe w) (did : Did stripe w w' action) :
    Tallied w' := by
  have ended (paymentIntentId : String) (mem : paymentIntentId ∈ struck w.marks) :=
    h.ended_step matched did mem
  have counted := h.counted_step did
  have capped := h.capped_step did
  have same (marks : struck w'.marks = struck w.marks) : Tallied w' := by
    refine ⟨capped, counted, ?_, ?_⟩
    · rw [marks]
      exact h.once
    · rw [marks]
      exact ended
  cases did with
  | aside _ arming | claimed _ _ _ arming | renamed _ _ _ arming | dropped _ _ arming
  | priced _ _ arming | recorded _ _ _ arming => exact same (congrArg struck arming.marks)
  | held _ _ _ holds => exact same (congrArg struck holds.arming.marks)
  | armed _ _ _ marks => exact same ((congrArg struck marks).trans (struck_reset _ _))
  | disarmed _ _ _ marks => exact same (congrArg struck marks)
  | paid _ _ _ pays => exact same ((congrArg struck pays.marks).trans (struck_reset _ _))
  | @failed now paymentIntentId intent mem pending rows settings drawn marks =>
      have struck_eq : struck w'.marks = paymentIntentId :: struck w.marks :=
        (congrArg struck marks).trans (struck_strike _ _ _)
      refine ⟨capped, counted, ?_, ?_⟩
      · rw [struck_eq, nodup_cons]
        exact ⟨fun again => (h.ended _ again).1 intent mem pending, h.once⟩
      · rw [struck_eq]
        intro other hother
        rcases mem_cons.mp hother with rfl | before
        · have rewrites := rewritesTo_updateWhere rows
          refine ⟨fun row hrow here => ?_, .inr
            ⟨finished now .failed intent, rewrites.moved mem pending, pending.1⟩⟩
          rcases rewrites.back hrow with ⟨-, not⟩ | ⟨old, -, -, rfl⟩
          · exact not here
          · cases here.2
        · exact ended other before

end Failures

/-! ## Over runs -/

/-- A database as autopay is brought to it: nobody is armed and nothing was charged. -/
structure World.Unarmed (w : World) : Prop extends w.Opening where
  settings : ∀ settings ∈ w.db.autopaySettings,
    settings.autopayEnabled = false ∧ settings.autopayConsecutiveFailures = 0
  claimed : w.claimed = []
  marks : w.marks = []

section Runs

variable {stripe : StripeObjects} {bounds : CheckoutBounds} {opening w w' : World} {action : Action}

theorem World.Unarmed.matched (h : opening.Unarmed) : Matched stripe opening where
  named row mem := by
    rw [mem_def, h.intents] at mem
    cases mem
  credited row mem := by
    rw [mem_def, h.intents] at mem
    cases mem
  matched entry mem := by
    obtain ⟨row, hrow, autopay, -⟩ := of_mem_autopays mem
    exact absurd autopay (h.ledger row hrow).2.1

theorem World.Unarmed.tallied (h : opening.Unarmed) : Tallied opening where
  capped settings mem enabled := by
    rw [(h.settings settings mem).1] at enabled
    cases enabled
  counted settings mem := by
    rw [h.marks, (h.settings settings mem).2]
    rfl
  once := by
    rw [h.marks]
    exact nodup_nil
  ended paymentIntentId mem := by
    rw [h.marks] at mem
    cases mem

/-- What holds of the rows and of the failures in every state a run reaches. -/
structure Recharged (stripe : StripeObjects) (before : Standing) (w : World) : Prop where
  inv : Inv stripe before w
  matched : Matched stripe w
  tallied : Tallied w

theorem Recharged.step (h : Recharged stripe before w)
    (next : step stripe bounds w action = some w') : Recharged stripe before w' := by
  have did := step_did h.inv.books.unanchored next
  exact ⟨h.inv.step next, h.matched.step did, h.tallied.step h.matched did⟩

theorem recharged_reaches (fresh : opening.Unarmed)
    (run : Reaches stripe bounds Transition.anyStep opening w) :
    Recharged stripe (standing opening.db.toDb) w :=
  run.invariant ⟨fresh.toOpening.inv, fresh.matched, fresh.tallied⟩
    fun _ _ _ h _ next => h.step next

/-- A ledger row is the credit of an intent's row. -/
structure Credits (entry : CreditLedger) (row : StripeAutopayIntent) : Prop where
  isAutopay : entry.entryType = .autopay
  anchor : entry.stripeSessionId = some row.paymentIntentId
  user : entry.userId = row.userId
  amount : entry.amountUsd = row.amountUsd

theorem credits_of_unsnapped {entry : CreditLedger} (same : unsnapped entry = creditOf row) :
    Credits entry row where
  isAutopay := (congrArg CreditLedger.entryType same :)
  anchor := (congrArg CreditLedger.stripeSessionId same :)
  user := (congrArg CreditLedger.userId same :)
  amount := (congrArg CreditLedger.amountUsd same :)

/-- What is true of a reachable state: an intent is credited at most once, exactly where its row
    succeeded and for what the row says, and nobody is armed past the cap. -/
structure World.CreditsOnce (w : World) : Prop where
  once : ∀ paymentIntentId, countWhere
    (fun entry => entry.entryType = .autopay ∧ entry.stripeSessionId = some paymentIntentId)
    w.db.creditLedger.rows ≤ 1
  credited : ∀ row ∈ w.db.stripeAutopayIntents, row.status = .succeeded →
    ∃ entry ∈ w.db.creditLedger, Credits entry row
  succeeded : ∀ entry ∈ w.db.creditLedger, entry.entryType = .autopay →
    ∃ row ∈ w.db.stripeAutopayIntents, row.status = .succeeded ∧ Credits entry row
  capped : ∀ settings ∈ w.db.autopaySettings, settings.autopayEnabled = true →
    settings.autopayConsecutiveFailures < 3
  counted : ∀ settings ∈ w.db.autopaySettings,
    settings.autopayConsecutiveFailures = strikesSince settings.userId w.marks
  struckOnce : (struck w.marks).Nodup

/-- What a step from there does: a new credit is of an account that was armed, an outcome stays,
    and failures rise with the intents that are failed and fall with a credit or an arming. -/
structure AutopayStep (w : World) (action : Action) (w' : World) : Prop where
  eligible : ∀ entry ∈ w'.db.creditLedger, entry.entryType = .autopay →
    (∀ before ∈ w.db.creditLedger, before.entryType = .autopay →
      before.stripeSessionId ≠ entry.stripeSessionId) →
    w.db.autopayStillArmed entry.userId
  final : ∀ row ∈ w.db.stripeAutopayIntents, row.status ≠ .pending →
    row ∈ w'.db.stripeAutopayIntents ∨ Detaches action row w'
  turns : ∀ settings' ∈ w'.db.autopaySettings, ∃ settings ∈ w.db.autopaySettings,
    Turns w w' action settings settings'
  struck : ∀ now paymentIntentId, action = .failAutopayIntent now paymentIntentId →
    ∀ row ∈ w.db.stripeAutopayIntents, isPending paymentIntentId row →
      row ∉ w'.db.stripeAutopayIntents → ∀ settings ∈ w.db.autopaySettings,
        settings.userId = row.userId → AutopaySettings.strike settings ∈ w'.db.autopaySettings

theorem Recharged.creditsOnce (h : Recharged stripe before w) :
    w.CreditsOnce where
  once paymentIntentId := by
    refine countWhere_le_one w.db.creditLedger _ fun a b ha hb => .inl ⟨?_, ?_⟩
    · rw [ha.2]
      exact Option.some_ne_none _
    · exact ha.2.trans hb.2.symm
  credited row mem succeeded := by
    obtain ⟨entry, hentry, -, same⟩ := of_mem_autopays (h.matched.credited row mem succeeded)
    exact ⟨entry, hentry, credits_of_unsnapped same⟩
  succeeded entry mem autopay := by
    obtain ⟨row, hrow, succeeded, same⟩ := h.matched.matched _ (mem_autopays mem autopay)
    exact ⟨row, hrow, succeeded, credits_of_unsnapped same.symm⟩
  capped := h.tallied.capped
  counted := h.tallied.counted
  struckOnce := h.tallied.once

theorem Recharged.autopayStep (h : Recharged stripe before w)
    (next : Billing.step stripe bounds w action = some w') : AutopayStep w action w' := by
  have did := step_did h.inv.books.unanchored next
  refine ⟨?_, fun row mem terminal => h.matched.final did mem terminal, fun _ => did.turns, ?_⟩
  · intro entry mem autopay new
    have old : unsnapped entry ∉ autopays w.db.toDb := by
      intro inside
      obtain ⟨row, hrow, isAutopay, same⟩ := of_mem_autopays inside
      exact new row hrow isAutopay (congrArg CreditLedger.stripeSessionId same :)
    have inside := mem_autopays mem autopay
    have quiet (credits : autopays w'.db.toDb = autopays w.db.toDb) : False := by
      rw [credits] at inside
      exact old inside
    cases did with
    | paid _ _ _ pays =>
        rw [pays.credits] at inside
        rcases mem_append.mp inside with before | credit
        · exact absurd before old
        · rw [(credits_of_unsnapped (mem_singleton.mp credit)).user]
          exact pays.armed
    | aside _ _ credits | armed _ credits | disarmed _ credits => exact (quiet credits).elim
    | claimed _ _ _ _ credits | renamed _ _ _ _ credits | dropped _ _ _ credits
    | priced _ _ _ credits | recorded _ _ _ _ credits => exact (quiet credits).elim
    | held _ _ _ holds => exact (quiet holds.credits).elim
    | failed _ _ _ _ _ _ credits => exact (quiet credits).elim
  · rintro now paymentIntentId rfl row mem pending moved settings hsettings user
    cases did with
    | aside intents =>
        rw [intents.intents] at moved
        exact absurd mem moved
    | failed mem' pending' rows settings' =>
        obtain rfl := eq_of_intent mem mem' (pending.1.trans pending'.1.symm)
        refine (mem_updateWhere settings').mpr ⟨settings, hsettings, ?_⟩
        rw [rewrite, if_pos user]

/-- In every order of claims, settlements, failures, freezes, reversals and other movements of
    balances: autopay credits an intent once, where its row succeeded, and only an armed
    account; an outcome stays; and the failures are the strikes since the last credit or arming. -/
theorem autopay_credits_once (fresh : opening.Unarmed)
    (run : Reaches stripe bounds Transition.anyStep opening w) :
    w.CreditsOnce ∧ ∀ (action : Action) (w' : World), step stripe bounds w action = some w' →
      AutopayStep w action w' := by
  have recharged := recharged_reaches fresh run
  exact ⟨recharged.creditsOnce, fun action w' next => recharged.autopayStep next⟩

end Runs

/-! ## A charge credited, and a claim dropped -/

/-- One user with a customer at Stripe. -/
def oneCustomer : Table autopaySettingsTable where
  rows := [
    { userId := 1
      stripeCustomerId := some "cus_1"
      autopayEnabled := false
      autopayThresholdUsd := none
      autopayTopupUsd := none
      autopayConsecutiveFailures := 0 }]
  checked := by decide
  distinct := by decide

def unarmed : World :=
  { untouched with db := { untouched.db with autopaySettings := oneCustomer } }

theorem unarmed_unarmed : unarmed.Unarmed where
  ledger _ h := absurd h not_mem_nil
  tombstones := rfl
  intents := rfl
  topups settings mem topup h := by
    rw [mem_def] at mem
    obtain rfl := mem_singleton.mp mem
    cases h
  deliveries := rfl
  delivered := rfl
  acknowledged := rfl
  settings settings mem := by
    rw [mem_def] at mem
    obtain rfl := mem_singleton.mp mem
    exact ⟨rfl, rfl⟩
  claimed := rfl
  marks := rfl

def oneCharge : StripeObjects where
  object id := if id = "pi_1" then .paymentIntent none else .other
  notLocal idempotencyKey := by
    refine if_neg fun same => ?_
    have head := congrArg (fun id : String => id.toList.head?) same
    simp [AutopayDb.localId] at head

/-- Armed, charged and credited. -/
def charged : List Action :=
  [.armAutopay 1 5 5 true, .claimAutopayAttempt 0 1 5 6 "k", .renameClaim 0 "k" "pi_1",
    .settleAutopayIntent 0 "pi_1" none]

theorem autopay_credits_once_charged :
    ∃ w, Reaches oneCharge fiveToTen Transition.anyStep unarmed w ∧ w.CreditsOnce ∧
      ∃ entry ∈ w.db.creditLedger, entry.entryType = .autopay := by
  have runs : (Transition.runWhile (step oneCharge fiveToTen) Transition.anyStep unarmed
      charged).any (fun w => w.db.creditLedger.rows.any fun entry => entry.entryType = .autopay) =
        true := by decide +kernel
  obtain ⟨w, run, credited⟩ := Transition.Steps.exists_of_runWhile runs
  obtain ⟨entry, mem, autopay⟩ := List.any_eq_true.mp credited
  exact ⟨w, run, (autopay_credits_once unarmed_unarmed run).1, entry, mem,
    of_decide_eq_true autopay⟩

/-- A claim failed, its intent's success recovered and credited, and the claim to be dropped. -/
def recoveredAfterFailure : List Action :=
  [.armAutopay 1 5 5 true, .claimAutopayAttempt 0 1 5 6 "k", .failAutopayIntent 0 "local_k",
    .settleAutopayIntent 0 "pi_1" (some (1, 5, 6)), .renameClaim 0 "k" "pi_1"]

/-- A row that failed is gone, and so is its outcome. -/
theorem failed_claim_dropped :
    ∃ w w', Reaches oneCharge fiveToTen Transition.anyStep unarmed w ∧
      step oneCharge fiveToTen w (.dropClaim "k") = some w' ∧
      (∃ row ∈ w.db.stripeAutopayIntents,
        row.paymentIntentId = "local_k" ∧ row.status = .failed) ∧
      ∀ row ∈ w'.db.stripeAutopayIntents,
        row.paymentIntentId = "pi_1" ∧ row.status = .succeeded := by
  have runs : (Transition.runWhile (step oneCharge fiveToTen) Transition.anyStep unarmed
      recoveredAfterFailure).any (fun w =>
        (w.db.stripeAutopayIntents.rows.any fun row =>
          row.paymentIntentId = "local_k" ∧ row.status = .failed) &&
        (step oneCharge fiveToTen w (.dropClaim "k")).any fun w' =>
          w'.db.stripeAutopayIntents.rows.all fun row =>
            row.paymentIntentId = "pi_1" ∧ row.status = .succeeded) = true := by decide +kernel
  obtain ⟨w, run, holds⟩ := Transition.Steps.exists_of_runWhile runs
  obtain ⟨failed, next⟩ := Bool.and_eq_true_iff.mp holds
  obtain ⟨row, mem, is_failed⟩ := List.any_eq_true.mp failed
  obtain ⟨w', stepped, left⟩ := (Option.any_eq_true _ _).mp next
  refine ⟨w, w', run, stepped, ⟨row, mem, of_decide_eq_true is_failed⟩, fun row mem => ?_⟩
  exact of_decide_eq_true (List.all_eq_true.mp left row mem)

end ZeroRouter.Billing
