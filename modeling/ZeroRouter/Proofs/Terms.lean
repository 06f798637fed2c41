import ZeroRouter.Proofs.Intents
import ZeroRouter.Proofs.DepositFee

/-!
# What a charge is made of

Every row, every intent at Stripe and every task belongs to a claim, and the claim's terms
fix what it charges: the user, the top-up and, once it is frozen, the tax.  The book of
these terms only grows.
-/

namespace ZeroRouter

open Option

variable {row : StripeAutopayIntent} {intent : PaymentIntent} {terms : Terms} {key : String}
  {topupUsd : Decimal} {quote : DepositFeeQuote} {tax : TaxQuote} {form : ChargeForm}
  {paymentIntentId : String}

/-- What a form credits, to whom, and for how much. -/
def ChargeForm.collected (form : ChargeForm) : Uuid × Decimal × Decimal :=
  (form.userId, form.creditUsd, form.grossUsd)

namespace Recharge

open Relational AutopayDb
open Billing (StripeObjects SameIntents isPending finished frozen renamed agreesWith)

/-! ## Terms -/

/-- What a claim charges. -/
structure Terms where
  userId : Uuid
  topupUsd : Decimal
  tax : Option TaxQuote

/-- The terms claims were made on, by key. -/
abbrev Book := String → Option Terms

/-- A form of these terms, for some card of some customer. -/
def Terms.Forms (mark : Uuid → Decimal → String) (terms : Terms) (form : ChargeForm) : Prop :=
  ∃ quote grossCents tax, cardGross terms.topupUsd = some (quote, some grossCents) ∧
    terms.tax = some tax ∧
    chargeForm mark form.customer form.paymentMethod terms.userId terms.topupUsd quote grossCents
      tax = some form

/-- A row bears a frozen tax. -/
def BearsTax (tax : Option TaxQuote) (row : StripeAutopayIntent) : Prop :=
  row.taxAmountUsd = tax.map TaxQuote.taxUsd ∧
    row.taxCalculationId = tax.bind TaxQuote.calculationId

/-- A claim's row: what the terms say of user, credit, gross and tax. -/
structure Terms.Row (terms : Terms) (row : StripeAutopayIntent) : Prop where
  userId : row.userId = terms.userId
  amountUsd : row.amountUsd = terms.topupUsd
  charge : (depositFeeQuote terms.topupUsd .card).map DepositFeeQuote.grossUsd =
    some row.chargeAmountUsd
  tax : BearsTax terms.tax row
  status : row.status = .pending ∨ row.status = .failed

/-- What `cardGross` prices is the quote, and its gross in cents. -/
theorem cardGross_eq_some {cents : Option Int} (h : cardGross topupUsd = some (quote, cents)) :
    depositFeeQuote topupUsd .card = some quote ∧ usdToCents quote.grossUsd = some cents := by
  unfold cardGross at h
  obtain ⟨priced, hpriced, h⟩ := bind_eq_some_iff.mp h
  obtain ⟨gross, hgross, h⟩ := bind_eq_some_iff.mp h
  cases h
  exact ⟨hpriced, hgross⟩

/-- What the fields of a form are. -/
theorem chargeForm_eq_some {mark : Uuid → Decimal → String} {customer paymentMethod : String}
    {userId : Uuid} {grossCents : Int}
    (h : chargeForm mark customer paymentMethod userId topupUsd quote grossCents tax = some form) :
    form.collected = (userId, topupUsd, quote.grossUsd) ∧
      form.customer = customer ∧ form.paymentMethod = paymentMethod ∧
      usdToCents tax.taxUsd = some (some form.taxCents) ∧ 0 ≤ form.taxCents ∧
      form.amountCents = grossCents + form.taxCents ∧
      i64Min ≤ form.amountCents ∧ form.amountCents ≤ i64Max := by
  unfold chargeForm at h
  obtain ⟨taxCents, htax, h⟩ := bind_eq_some_iff.mp h
  obtain ⟨amountCents, hamount, h⟩ := bind_eq_some_iff.mp h
  cases h
  obtain ⟨cents, nonneg⟩ := filter_eq_some_iff.mp htax
  unfold checkedAdd at hamount
  split at hamount
  · next fits =>
      cases hamount
      exact ⟨rfl, rfl, rfl, join_eq_some_iff.mp cents, of_decide_eq_true nonneg, rfl, fits⟩
  · cases hamount

/-! ## The invariant -/

/-- A claim in hand is on the terms it was made on. -/
def Claim.On (book : Book) (claim : Claim) (terms : Terms) : Prop :=
  book claim.idempotencyKey = some terms ∧ claim.userId = terms.userId ∧
    claim.topupUsd = terms.topupUsd

/-- Stripe's intent under an id, if the claim is its own. -/
def World.Made (w : World) (paymentIntentId : String) (p : PaymentIntent → Prop) : Prop :=
  ∃ intent ∈ w.intents, intent.id = paymentIntentId ∧ p intent

/-- What is known of a task. -/
def Task.Ok (mark : Uuid → Decimal → String) (book : Book) (w : World) : Task → Prop
  | .claiming .. | .failing _ => True
  | .rearming claim | .replaying claim | .listing claim _ | .taxing claim _ _
  | .pricing claim _ _ => ∃ terms, claim.On book terms
  | .guarding claim form | .posting claim form =>
      ∃ terms, claim.On book terms ∧ terms.Forms mark form
  | .attaching claim paymentIntentId next | .dropping claim paymentIntentId next =>
      (∃ terms, claim.On book terms) ∧
        w.Made paymentIntentId fun intent => intent.idempotencyKey = claim.idempotencyKey ∧
          (next = .settle → intent.status = .succeeded) ∧ (next = .fail → intent.status = .failed)
  | .settling paymentIntentId collected =>
      w.Made paymentIntentId fun intent =>
        intent.form.collected = collected ∧ intent.status = .succeeded
  | .lookingUp paymentIntentId collected | .recording paymentIntentId collected =>
      w.Made paymentIntentId fun intent => intent.form.collected = collected

/-- A row that bears the id of an intent: it is the claim's, with its frozen tax, or was
    entered for an event, without. -/
structure Attached (book : Book) (row : StripeAutopayIntent) (intent : PaymentIntent) : Prop where
  agrees : agreesWith row intent.form.collected
  tax : BearsTax none row ∨ ∃ terms tax, book intent.idempotencyKey = some terms ∧
    terms.tax = some tax ∧ BearsTax (some tax) row
  collected : row.status = .succeeded ∨ row.status = .withheld → intent.status = .succeeded

/-- What is known of a row. -/
def RowOk (book : Book) (w : World) (row : StripeAutopayIntent) : Prop :=
  (∃ key terms, row.paymentIntentId = localId key ∧ book key = some terms ∧ terms.Row row) ∨
    w.Made row.paymentIntentId (Attached book row)

variable (stripe : StripeObjects) (mark : Uuid → Decimal → String)

structure Inv (book : Book) (w : World) : Prop where
  booked : ∀ key, book key ≠ none → key ∈ w.billing.claimed
  unique : ∀ a ∈ w.intents, ∀ b ∈ w.intents, a.id = b.id → a = b
  genuine : ∀ intent ∈ w.intents, stripe.object intent.id = .paymentIntent none
  charged : ∀ intent ∈ w.intents, ∃ terms, book intent.idempotencyKey = some terms ∧
    terms.Forms mark intent.form
  rows : ∀ row ∈ w.db.stripeAutopayIntents, RowOk book w row
  tasks : ∀ task ∈ w.tasks, task.Ok mark book w

variable {stripe mark} {book book' : Book} {w w' : World}

/-! ## What only grows -/

/-- An intent later: it is charged as it was, and its end is its end. -/
structure PaymentIntent.Later (intent intent' : PaymentIntent) : Prop where
  id : intent'.id = intent.id
  idempotencyKey : intent'.idempotencyKey = intent.idempotencyKey
  form : intent'.form = intent.form
  succeeded : intent.status = .succeeded → intent'.status = .succeeded
  failed : intent.status = .failed → intent'.status = .failed

theorem PaymentIntent.Later.refl (intent : PaymentIntent) : intent.Later intent :=
  ⟨rfl, rfl, rfl, fun h => h, fun h => h⟩

/-- The book later: terms stay, and so does a tax once it is frozen. -/
def Book.Later (book book' : Book) : Prop :=
  ∀ key terms, book key = some terms → ∃ terms', book' key = some terms' ∧
    terms'.userId = terms.userId ∧ terms'.topupUsd = terms.topupUsd ∧
    ∀ tax ∈ terms.tax, terms'.tax = some tax

theorem Book.Later.refl (book : Book) : book.Later book :=
  fun _ terms h => ⟨terms, h, rfl, rfl, fun _ htax => htax⟩

/-- The state later, as far as a task or an attached row depends on it. -/
structure Grows (book book' : Book) (w w' : World) : Prop where
  book : book.Later book'
  intents : ∀ intent ∈ w.intents, ∃ intent' ∈ w'.intents, intent.Later intent'

theorem Grows.same (h : w'.intents = w.intents) : Grows book book w w' :=
  ⟨.refl _, fun intent mem => ⟨intent, h ▸ mem, .refl _⟩⟩

theorem Terms.Forms.later {terms' : Terms} (forms : terms.Forms mark form)
    (user : terms'.userId = terms.userId) (topup : terms'.topupUsd = terms.topupUsd)
    (tax : ∀ tax ∈ terms.tax, terms'.tax = some tax) : terms'.Forms mark form := by
  obtain ⟨quote, grossCents, priced, gross, htax, hform⟩ := forms
  refine ⟨quote, grossCents, priced, ?_, tax priced htax, ?_⟩
  · rw [topup]
    exact gross
  · rw [user, topup]
    exact hform

theorem Claim.On.later {claim : Claim} (on : claim.On book terms) (later : book.Later book') :
    ∃ terms', claim.On book' terms' ∧
      ∀ mark form, terms.Forms mark form → terms'.Forms mark form := by
  obtain ⟨hterms, user, topup⟩ := on
  obtain ⟨terms', hterms', user', topup', tax'⟩ := later _ _ hterms
  exact ⟨terms', ⟨hterms', user.trans user'.symm, topup.trans topup'.symm⟩,
    fun _ _ forms => forms.later user' topup' tax'⟩

theorem World.Made.later {p q : PaymentIntent → Prop} (made : w.Made paymentIntentId p)
    (intents : ∀ intent ∈ w.intents, ∃ intent' ∈ w'.intents, intent.Later intent')
    (keep : ∀ intent intent' : PaymentIntent, intent.Later intent' → p intent → q intent') :
    w'.Made paymentIntentId q := by
  obtain ⟨intent, mem, id, hp⟩ := made
  obtain ⟨intent', mem', later⟩ := intents intent mem
  exact ⟨intent', mem', later.id.trans id, keep intent intent' later hp⟩

theorem Task.Ok.later {task : Task} (ok : task.Ok mark book w) (grows : Grows book book' w w') :
    task.Ok mark book' w' := by
  have claims : ∀ {claim : Claim}, (∃ terms, claim.On book terms) →
      ∃ terms, claim.On book' terms := by
    rintro claim ⟨terms, on⟩
    obtain ⟨terms', on', -⟩ := on.later grows.book
    exact ⟨terms', on'⟩
  have formed : ∀ {claim : Claim} {form : ChargeForm},
      (∃ terms, claim.On book terms ∧ terms.Forms mark form) →
      ∃ terms, claim.On book' terms ∧ terms.Forms mark form := by
    rintro claim form ⟨terms, on, forms⟩
    obtain ⟨terms', on', keep⟩ := on.later grows.book
    exact ⟨terms', on', keep mark form forms⟩
  have attached : ∀ {claim : Claim} {paymentIntentId : String} {next : Next},
      ((∃ terms, claim.On book terms) ∧
        w.Made paymentIntentId fun intent => intent.idempotencyKey = claim.idempotencyKey ∧
          (next = .settle → intent.status = .succeeded) ∧
          (next = .fail → intent.status = .failed)) →
      (∃ terms, claim.On book' terms) ∧
        w'.Made paymentIntentId fun intent => intent.idempotencyKey = claim.idempotencyKey ∧
          (next = .settle → intent.status = .succeeded) ∧
          (next = .fail → intent.status = .failed) := by
    rintro claim paymentIntentId next ⟨on, made⟩
    refine ⟨claims on, made.later grows.intents ?_⟩
    rintro intent intent' later ⟨key, settle, fail⟩
    exact ⟨later.idempotencyKey.trans key, fun h => later.succeeded (settle h),
      fun h => later.failed (fail h)⟩
  have looked : ∀ {paymentIntentId : String} {collected : Uuid × Decimal × Decimal},
      (w.Made paymentIntentId fun intent => intent.form.collected = collected) →
      w'.Made paymentIntentId fun intent => intent.form.collected = collected := by
    intro paymentIntentId collected made
    refine made.later grows.intents fun intent intent' later same => ?_
    rw [later.form]
    exact same
  cases task with
  | claiming | failing => trivial
  | rearming | replaying | listing | taxing | pricing => exact claims ok
  | guarding | posting => exact formed ok
  | attaching | dropping => exact attached ok
  | settling paymentIntentId collected =>
      refine World.Made.later ok grows.intents ?_
      rintro intent intent' later ⟨same, succeeded⟩
      rw [later.form]
      exact ⟨same, later.succeeded succeeded⟩
  | lookingUp | recording => exact looked ok

theorem Attached.later {intent' : PaymentIntent} (attached : Attached book row intent)
    (book_later : book.Later book') (later : intent.Later intent') :
    Attached book' row intent' where
  agrees := by
    rw [later.form]
    exact attached.agrees
  tax := by
    rcases attached.tax with none | ⟨terms, tax, hterms, htax, bears⟩
    · exact .inl none
    · obtain ⟨terms', hterms', -, -, keep⟩ := book_later _ _ hterms
      rw [later.idempotencyKey]
      exact .inr ⟨terms', tax, hterms', keep tax htax, bears⟩
  collected settled := later.succeeded (attached.collected settled)

theorem RowOk.later (ok : RowOk book w row) (grows : Grows book book' w w')
    (here : ∀ key terms, row.paymentIntentId = localId key → book key = some terms →
      book' key = some terms) : RowOk book' w' row := by
  rcases ok with ⟨key, terms, claim, hterms, bears⟩ | made
  · exact .inl ⟨key, terms, claim, here key terms claim hterms, bears⟩
  · exact .inr (made.later grows.intents fun intent intent' later attached =>
      attached.later grows.book later)

/-! ## Ids -/

theorem localId_injective {a b : String} (h : localId a = localId b) : a = b := by
  have texts := congrArg String.toList h
  simp only [localId, String.toList_append] at texts
  exact String.toList_injective (List.append_cancel_left texts)

theorem claimKey_eq_some (h : claimKey paymentIntentId = some key) :
    paymentIntentId = localId key := by
  unfold claimKey at h
  split at h
  next found =>
    cases h
    obtain ⟨rest, same⟩ := found
    have key_eq : paymentIntentId.toList.drop 6 = rest := by
      rw [← same]
      rfl
    apply String.toList_injective
    rw [localId, String.toList_append, key_eq, ← same]
    exact congrArg _ String.toList_ofList.symm
  · cases h

theorem claimKey_localId (key : String) : claimKey (localId key) = some key := by
  have found : "local_".toList <+: (localId key).toList := by
    rw [localId, String.toList_append]
    exact List.prefix_append _ _
  have rest : (localId key).toList.drop 6 = key.toList := by
    rw [localId, String.toList_append]
    rfl
  unfold claimKey
  rw [if_pos found, rest, String.ofList_toList]

section Inv

variable (inv : Inv stripe mark book w)
include inv

/-- No intent bears a claim's id. -/
theorem Inv.notLocal (mem : intent ∈ w.intents) (key : String) :
    intent.id ≠ localId key := by
  intro same
  have genuine := inv.genuine intent mem
  rw [same, stripe.notLocal] at genuine
  cases genuine

/-- The row under a claim's id is the claim's. -/
theorem Inv.claimRow (mem : row ∈ w.db.stripeAutopayIntents)
    (claim : row.paymentIntentId = localId key) :
    ∃ terms, book key = some terms ∧ terms.Row row := by
  rcases inv.rows row mem with ⟨key', terms, claim', hterms, bears⟩ | ⟨intent, hintent, id, -⟩
  · rw [localId_injective (claim.symm.trans claim')]
    exact ⟨terms, hterms, bears⟩
  · exact absurd (id.trans claim) (inv.notLocal hintent key)

/-- The row under an intent's id is attached to it. -/
theorem Inv.attachedRow (mem : row ∈ w.db.stripeAutopayIntents) (hintent : intent ∈ w.intents)
    (id : row.paymentIntentId = intent.id) : Attached book row intent := by
  rcases inv.rows row mem with ⟨key, terms, claim, -, -⟩ | ⟨other, hother, same, attached⟩
  · exact absurd (id.symm.trans claim) (inv.notLocal hintent key)
  · rw [inv.unique intent hintent other hother (id.symm.trans same.symm)]
    exact attached

/-- The tax read of a claim's row is the one in its terms. -/
theorem Inv.autopayTax (h : w.db.autopayTax (localId key) = some tax) :
    ∃ terms, book key = some terms ∧ terms.tax = some tax := by
  obtain ⟨row, found, h⟩ := bind_eq_some_iff.mp h
  obtain ⟨mem, id⟩ := Table.find_some found
  obtain ⟨terms, hterms, bears⟩ := inv.claimRow mem id
  obtain ⟨amount, hamount, rfl⟩ := map_eq_some_iff.mp h
  obtain ⟨bearsAmount, bearsCalculation⟩ := bears.tax
  rw [bearsAmount] at hamount
  obtain ⟨frozen, hfrozen, rfl⟩ := map_eq_some_iff.mp hamount
  refine ⟨terms, hterms, ?_⟩
  rw [hfrozen, bearsCalculation, hfrozen]
  rfl

/-- What an intent credits and charges is in the terms of its claim. -/
theorem Inv.chargedTerms (mem : intent ∈ w.intents)
    (hterms : book intent.idempotencyKey = some terms) : terms.Forms mark intent.form := by
  obtain ⟨terms', hterms', forms⟩ := inv.charged intent mem
  rw [hterms] at hterms'
  cases hterms'
  exact forms

/-- The same intents at Stripe: what is to show is about the rows and the tasks. -/
theorem Inv.keep (later : book.Later book')
    (booked : ∀ key, book' key ≠ none → key ∈ w'.billing.claimed) (intents : w'.intents = w.intents)
    (rows : ∀ row ∈ w'.db.stripeAutopayIntents, RowOk book' w' row)
    (tasks : ∀ task ∈ w'.tasks, task ∈ w.tasks ∨ task.Ok mark book' w') :
    Inv stripe mark book' w' where
  booked := booked
  unique := intents ▸ inv.unique
  genuine := intents ▸ inv.genuine
  charged := by
    rw [intents]
    intro intent mem
    obtain ⟨terms, hterms, forms⟩ := inv.charged intent mem
    obtain ⟨terms', hterms', user, topup, tax⟩ := later _ _ hterms
    exact ⟨terms', hterms', forms.later user topup tax⟩
  rows := rows
  tasks task mem := by
    rcases tasks task mem with before | ok
    · exact (inv.tasks task before).later
        ⟨later, fun intent mem => ⟨intent, intents ▸ mem, .refl _⟩⟩
    · exact ok

/-- Nothing changed but the tasks. -/
theorem Inv.quiet (same : SameIntents w.billing w'.billing) (intents : w'.intents = w.intents)
    (tasks : ∀ task ∈ w'.tasks, task ∈ w.tasks ∨ task.Ok mark book w) :
    Inv stripe mark book w' := by
  have grows : Grows book book w w' := .same intents
  refine inv.keep (.refl book) ?_ intents ?_ ?_
  · rw [same.claimed]
    exact inv.booked
  · rw [same.intents]
    exact fun row mem => (inv.rows row mem).later grows fun _ _ _ h => h
  · exact fun task mem => (tasks task mem).imp_right fun ok => ok.later grows

end Inv

end Recharge

end ZeroRouter
