import ZeroRouter.Proofs.Terms

/-!
# Every step keeps to the terms

One lemma for each task, then the step, and from it the run.
-/

namespace ZeroRouter.Recharge

open List Relational AutopayDb
open Billing (StripeObjects SameIntents isPending finished frozen renamed agreesWith)

variable {stripe : StripeObjects} {bounds : CheckoutBounds} {parser : MetadataParser}
  {mark : Uuid → Decimal → String} {book book' : Book} {w w' : World}
  {paymentIntentId customer idempotencyKey key : String} {n : Nat} {now : Timestamp} {task : Task}
  {intent : PaymentIntent} {collected : Uuid × Decimal × Decimal} {row : StripeAutopayIntent}
  {terms : Terms} {provenance : Uuid → String → String} {new : Task} {userId : Uuid}
  {paymentMethod : String} {status : IntentStatus} {event : StripeEvent}

/-! ## The tasks there are -/

theorem mem_finish (h : task ∈ (w.finish n).tasks) : task ∈ w.tasks :=
  mem_of_mem_eraseIdx h

theorem mem_goto (h : task ∈ (w.goto n new).tasks) :
    task ∈ w.tasks ∨ task = new :=
  mem_or_eq_of_mem_set h

theorem mem_start (h : task ∈ (w.start new).tasks) :
    task ∈ w.tasks ∨ task = new :=
  (mem_cons.mp h).symm

section Quiet

variable (inv : Inv stripe mark book w)
include inv

theorem Inv.ok (h : w.tasks[n]? = some task) : task.Ok mark book w :=
  inv.tasks task (mem_of_getElem? h)

theorem Inv.finish (n : Nat) : Inv stripe mark book (w.finish n) :=
  inv.quiet ⟨rfl, rfl⟩ rfl fun _ mem => .inl (mem_finish mem)

theorem Inv.goto (ok : task.Ok mark book w) :
    Inv stripe mark book (w.goto n task) :=
  inv.quiet ⟨rfl, rfl⟩ rfl fun _ mem => (mem_goto mem).imp_right fun same => by rwa [same]

theorem Inv.start (ok : task.Ok mark book w) : Inv stripe mark book (w.start task) :=
  inv.quiet ⟨rfl, rfl⟩ rfl fun _ mem => (mem_start mem).imp_right fun same => by rwa [same]

theorem Inv.saveCustomer :
    Inv stripe mark book (w.runSaveCustomer userId customer) := by
  unfold World.runSaveCustomer
  split
  · exact inv.quiet ⟨rfl, rfl⟩ rfl fun _ mem => .inl mem
  · exact inv

/-! ## The reconciliation -/

theorem Inv.reconcile (mem : row ∈ w.db.stripeAutopayIntents) :
    Inv stripe mark book (w.runReconcile row) := by
  unfold World.runReconcile
  split
  next key claim =>
    obtain ⟨terms, hterms, bears⟩ := inv.claimRow mem (claimKey_eq_some claim)
    exact inv.start ⟨terms, hterms, bears.userId, bears.amountUsd⟩
  next not_local =>
    rcases inv.rows row mem with ⟨key, terms, claim, -, -⟩ | ⟨intent, hintent, id, attached⟩
    · rw [claim, claimKey_localId] at not_local
      cases not_local
    · exact inv.start ⟨intent, hintent, id, attached.agrees.symm⟩

theorem Inv.lookUp (ok : (Task.lookingUp paymentIntentId collected).Ok mark book w) :
    Inv stripe mark book (w.runLookUp n paymentIntentId collected) := by
  unfold World.runLookUp
  split
  · exact inv.finish n
  next intent found =>
    have hintent := mem_of_find?_eq_some found
    have id : intent.id = paymentIntentId := by simpa using find?_some found
    obtain ⟨other, hother, same, agrees⟩ := ok
    rw [inv.unique other hother intent hintent (same.trans id.symm)] at agrees
    split
    next succeeded => exact inv.goto ⟨intent, hintent, id, agrees, succeeded⟩
    · exact inv.finish n
    all_goals exact inv.goto trivial

/-! ## A charge, up to its request -/

theorem Inv.list {claim : Claim} {card : Option (Option String)}
    (ok : ∃ terms, claim.On book terms) :
    Inv stripe mark book (w.runList n claim customer card) := by
  unfold World.runList
  split
  · exact inv.goto trivial
  · split
    · exact inv.finish n
    · exact inv.goto trivial
    · exact inv.goto ok

theorem Inv.form {claim : Claim} {tax : TaxQuote} (on : claim.On book terms)
    (htax : terms.tax = some tax) :
    Inv stripe mark book (w.runForm mark n claim customer paymentMethod tax) := by
  unfold World.runForm
  split
  next quote grossCents gross =>
    split
    next form hform =>
      obtain ⟨-, hcustomer, hpaymentMethod, -⟩ := chargeForm_eq_some hform
      refine inv.goto ⟨terms, on, quote, grossCents, tax, ?_, htax, ?_⟩
      · rw [← on.2.2]
        exact gross
      · rw [hcustomer, hpaymentMethod, ← on.2.1, ← on.2.2]
        exact hform
    · exact inv.goto trivial
  · exact inv.finish n

end Quiet

/-! ## Claiming -/

/-- The book with a new claim in it. -/
def Book.enter (book : Book) (key : String) (terms : Terms) : Book :=
  Function.update book key (some terms)

theorem Book.enter_later (new : book key = none) :
    book.Later (book.enter key terms) := by
  intro other terms' h
  refine ⟨terms', ?_, rfl, rfl, fun _ htax => htax⟩
  unfold enter
  rw [Function.update_of_ne]
  · exact h
  · rintro rfl
    rw [new] at h
    cases h

theorem Inv.claim (inv : Inv stripe mark book w) {topupUsd : Decimal}
    (new : idempotencyKey ∉ w.billing.claimed) :
    ∃ book', book.Later book' ∧
      Inv stripe mark book' (w.runClaim n now userId topupUsd idempotencyKey) := by
  have unbooked : book idempotencyKey = none := by
    by_contra booked
    exact new (inv.booked _ booked)
  unfold World.runClaim
  cases priced : depositFeeQuote topupUsd .card with
  | none => exact ⟨book, .refl book, inv.finish n⟩
  | some quote =>
    let terms : Terms := { userId, topupUsd, tax := none }
    have later : book.Later (book.enter idempotencyKey terms) := Book.enter_later unbooked
    refine ⟨_, later, ?_⟩
    have entered : Billing.Entered w.db.stripeAutopayIntents
        (newIntent now (localId idempotencyKey) userId topupUsd quote.grossUsd)
        (w.billing.runClaim now userId topupUsd quote.grossUsd
          idempotencyKey).db.stripeAutopayIntents := Billing.intents_runClaim
    have claimedInv : Inv stripe mark (book.enter idempotencyKey terms)
        { w with billing :=
          w.billing.runClaim now userId topupUsd quote.grossUsd idempotencyKey } := by
      refine inv.keep later ?_ rfl ?_ fun task mem => .inl mem
      · intro key booked
        by_cases here : key = idempotencyKey
        · exact mem_cons.mpr (.inl here)
        · refine mem_cons_of_mem _ (inv.booked key ?_)
          rwa [Book.enter, Function.update_of_ne here] at booked
      · intro row mem
        rcases entered.back mem with before | rfl
        · refine (inv.rows row before).later ⟨later, fun intent h => ⟨intent, h, .refl _⟩⟩ ?_
          intro key terms' _ hterms
          rw [Book.enter, Function.update_of_ne]
          · exact hterms
          · rintro rfl
            rw [unbooked] at hterms
            cases hterms
        · refine .inl ⟨idempotencyKey, terms, rfl, Function.update_self .., rfl, rfl, ?_, ?_,
            .inl rfl⟩
          · rw [priced]
            rfl
          · exact ⟨rfl, rfl⟩
    have on : ∃ terms', Claim.On (book.enter idempotencyKey terms)
        { userId, topupUsd, idempotencyKey } terms' :=
      ⟨terms, Function.update_self .., rfl, rfl⟩
    dsimp only
    split
    · exact claimedInv.goto on
    · exact claimedInv.finish n

/-! ## Freezing the tax -/

/-- A claim's row whose tax is not fixed yet. -/
def Unpriced (row : StripeAutopayIntent) (key : String) : Prop :=
  isPending (localId key) row ∧ row.taxAmountUsd = none

theorem Inv.bookTax (inv : Inv stripe mark book w) (mem : row ∈ w.db.stripeAutopayIntents)
    (unpriced : Unpriced row key) :
    ∃ terms, book key = some terms ∧ terms.Row row ∧ terms.tax = none := by
  obtain ⟨terms, hterms, bears⟩ := inv.claimRow mem unpriced.1.1
  refine ⟨terms, hterms, bears, ?_⟩
  have same := bears.tax.1
  rw [unpriced.2] at same
  exact Option.map_eq_none_iff.mp same.symm

theorem Book.price_later (tax : TaxQuote) (here : book key = some terms) (free : terms.tax = none) :
    book.Later (book.enter key { terms with tax := some tax }) := by
  intro other terms' h
  by_cases same : other = key
  · subst same
    rw [here] at h
    cases h
    refine ⟨_, Function.update_self .., rfl, rfl, ?_⟩
    intro tax' htax
    rw [free] at htax
    cases htax
  · refine ⟨terms', ?_, rfl, rfl, fun _ htax => htax⟩
    rwa [enter, Function.update_of_ne same]

/-- The statement that freezes a tax enters it in the book, unless there is one. -/
theorem Inv.freezeTax (inv : Inv stripe mark book w) (now : Timestamp) (key : String)
    (tax : TaxQuote) :
    ∃ book', book.Later book' ∧ Inv stripe mark book'
      { w with billing := w.billing.runAutopay ((w.db.freezeAutopayTax now (localId key) tax.taxUsd
        tax.calculationId).map Prod.snd) } := by
  have rewritten : Billing.Rewritten w.db.stripeAutopayIntents (isPending (localId key))
      (frozen now tax.taxUsd tax.calculationId)
      (w.billing.runAutopay ((w.db.freezeAutopayTax now (localId key) tax.taxUsd
        tax.calculationId).map Prod.snd)).db.stripeAutopayIntents :=
    Billing.intents_freezeAutopayTax
  set billing := w.billing.runAutopay ((w.db.freezeAutopayTax now (localId key) tax.taxUsd
    tax.calculationId).map Prod.snd) with hbilling
  have claimed : billing.claimed = w.billing.claimed := by
    rw [hbilling]
    unfold Billing.World.runAutopay
    split <;> rfl
  rcases rewritten with same | updated
  · exact ⟨book, .refl book, inv.quiet ⟨same, claimed⟩ rfl fun task mem => .inl mem⟩
  by_cases free : ∃ row ∈ w.db.stripeAutopayIntents, Unpriced row key
  · obtain ⟨row, mem, unpriced⟩ := free
    obtain ⟨terms, hterms, bears, untaxed⟩ := inv.bookTax mem unpriced
    have later := Book.price_later tax hterms untaxed
    refine ⟨_, later, inv.keep later ?_ rfl ?_ fun task mem => .inl mem⟩
    · intro other booked
      show other ∈ billing.claimed
      rw [claimed]
      by_cases here : other = key
      · rw [here]
        exact inv.booked key (by rw [hterms]; exact Option.some_ne_none _)
      · rw [Book.enter, Function.update_of_ne here] at booked
        exact inv.booked other booked
    · intro row' mem'
      obtain ⟨old, hold, rfl⟩ := (Table.mem_updateWhere updated).mp mem'
      by_cases pending : isPending (localId key) old
      · have same : old = row := Billing.eq_of_intent hold mem (pending.1.trans unpriced.1.1.symm)
        subst same
        rw [Table.rewrite, if_pos pending]
        refine .inl ⟨key, _, pending.1, Function.update_self .., bears.userId, bears.amountUsd,
          bears.charge, ⟨?_, ?_⟩, .inl pending.2⟩
        · show some (old.taxAmountUsd.getD tax.taxUsd) = some tax.taxUsd
          rw [unpriced.2]
          rfl
        · show (if old.taxAmountUsd = none then tax.calculationId else _) = tax.calculationId
          rw [if_pos unpriced.2]
      · rw [Table.rewrite, if_neg pending]
        refine (inv.rows old hold).later ⟨later, fun intent h => ⟨intent, h, .refl _⟩⟩ ?_
        intro other terms' claim hterms'
        rw [Book.enter, Function.update_of_ne]
        · exact hterms'
        · rintro rfl
          refine pending ?_
          rw [Billing.eq_of_intent hold mem (claim.trans unpriced.1.1.symm)]
          exact unpriced.1
  · -- The tax of a pending row is fixed already: the statement only touches it.
    refine ⟨book, .refl book, inv.keep (.refl book) ?_ rfl ?_ fun task mem => .inl mem⟩
    · show ∀ key, book key ≠ none → key ∈ billing.claimed
      rw [claimed]
      exact inv.booked
    · intro row' mem'
      obtain ⟨old, hold, rfl⟩ := (Table.mem_updateWhere updated).mp mem'
      have before : RowOk book { w with billing } old :=
        (inv.rows old hold).later (.same rfl) fun _ _ _ h => h
      by_cases pending : isPending (localId key) old
      · obtain ⟨terms, hterms, bears⟩ := inv.claimRow hold pending.1
        obtain ⟨amount, hamount⟩ := Option.ne_none_iff_exists'.mp
          fun none => free ⟨old, hold, pending, none⟩
        rw [Table.rewrite, if_pos pending]
        refine .inl ⟨key, terms, pending.1, hterms, bears.userId, bears.amountUsd, bears.charge,
          ⟨?_, ?_⟩, bears.status⟩
        · show some (old.taxAmountUsd.getD tax.taxUsd) = _
          rw [← bears.tax.1, hamount]
          rfl
        · show (if old.taxAmountUsd = none then tax.calculationId else _) = _
          rw [hamount, if_neg (Option.some_ne_none _)]
          exact bears.tax.2
      · rw [Table.rewrite, if_neg pending]
        exact before

theorem Inv.price (inv : Inv stripe mark book w) {claim : Claim}
    {calculation : Option TaxCalculation} (ok : ∃ terms, claim.On book terms) :
    ∃ book', book.Later book' ∧ Inv stripe mark book'
      (w.runFreezeTax mark n now claim customer paymentMethod calculation) := by
  obtain ⟨book', later, priced⟩ := inv.freezeTax now claim.idempotencyKey
    (calculateAutopayTax calculation)
  refine ⟨book', later, ?_⟩
  obtain ⟨terms, on⟩ := ok
  obtain ⟨terms', on', -⟩ := on.later later
  have claimId : localId claim.idempotencyKey = claim.localId := rfl
  rw [claimId] at priced
  unfold World.runFreezeTax
  dsimp only
  cases result : w.db.freezeAutopayTax now claim.localId
      (calculateAutopayTax calculation).taxUsd (calculateAutopayTax calculation).calculationId with
  | error =>
      rw [result] at priced
      exact priced.finish n
  | ok answer =>
      obtain ⟨changed, db⟩ := answer
      rw [result] at priced
      cases changed with
      | zero => exact priced.finish n
      | succ changed =>
          cases htax : db.autopayTax claim.localId with
          | none =>
              simp only [htax]
              exact priced.finish n
          | some tax =>
              obtain ⟨terms'', hterms'', taxed⟩ :
                  ∃ terms, book' claim.idempotencyKey = some terms ∧ terms.tax = some tax :=
                priced.autopayTax htax
              rw [on'.1] at hterms''
              cases hterms''
              simp only [htax]
              exact priced.form on' taxed

/-! ## At Stripe -/

/-- The intents later, with at most one new one, of the terms of a claim. -/
theorem Inv.atStripe (inv : Inv stripe mark book w) (billing : w'.billing = w.billing)
    (grown : ∀ intent ∈ w.intents, ∃ intent' ∈ w'.intents, intent.Later intent')
    (unique : ∀ a ∈ w'.intents, ∀ b ∈ w'.intents, a.id = b.id → a = b)
    (made : ∀ intent' ∈ w'.intents, (∃ intent ∈ w.intents, intent.Later intent') ∨
      stripe.object intent'.id = .paymentIntent none ∧
        ∃ terms, book intent'.idempotencyKey = some terms ∧ terms.Forms mark intent'.form)
    (tasks : ∀ task ∈ w'.tasks, task ∈ w.tasks ∨ task.Ok mark book w') :
    Inv stripe mark book w' where
  booked := billing ▸ inv.booked
  unique := unique
  genuine intent' mem := by
    rcases made intent' mem with ⟨intent, hintent, later⟩ | ⟨genuine, -⟩
    · rw [later.id]
      exact inv.genuine intent hintent
    · exact genuine
  charged intent' mem := by
    rcases made intent' mem with ⟨intent, hintent, later⟩ | ⟨-, charged⟩
    · rw [later.idempotencyKey, later.form]
      exact inv.charged intent hintent
    · exact charged
  rows row mem := by
    have before : row ∈ w.db.stripeAutopayIntents := by
      rw [World.db, billing] at mem
      exact mem
    exact (inv.rows row before).later ⟨.refl book, grown⟩ fun _ _ _ h => h
  tasks task mem := by
    rcases tasks task mem with before | ok
    · exact (inv.tasks task before).later ⟨.refl book, grown⟩
    · exact ok

/-- Each intent is replaced by a later one under the same id. -/
theorem Inv.map (inv : Inv stripe mark book w) {f : PaymentIntent → PaymentIntent}
    (later : ∀ intent : PaymentIntent, intent.Later (f intent)) :
    Inv stripe mark book { w with intents := w.intents.map f } := by
  refine inv.atStripe rfl ?_ ?_ ?_ fun task mem => .inl mem
  · exact fun intent mem => ⟨f intent, mem_map_of_mem mem, later intent⟩
  · intro a ha b hb same
    obtain ⟨old, hold, rfl⟩ := mem_map.mp ha
    obtain ⟨other, hother, rfl⟩ := mem_map.mp hb
    rw [(later old).id, (later other).id] at same
    rw [inv.unique old hold other hother same]
  · intro intent' mem
    obtain ⟨intent, hintent, rfl⟩ := mem_map.mp mem
    exact .inl ⟨intent, hintent, later intent⟩

theorem later_progress :
    intent.Later
      (if intent.id = paymentIntentId ∧ intent.status ≠ .succeeded ∧ intent.status ≠ .failed then
        { intent with status }
      else intent) := by
  split
  next moves =>
    exact ⟨rfl, rfl, rfl, fun succeeded => absurd succeeded moves.2.1,
      fun failed => absurd failed moves.2.2⟩
  · exact .refl intent

theorem later_forget :
    intent.Later
      (if intent.idempotencyKey = idempotencyKey then { intent with remembered := false }
      else intent) := by
  split
  · exact ⟨rfl, rfl, rfl, fun h => h, fun h => h⟩
  · exact .refl intent

theorem Inv.progress (inv : Inv stripe mark book w) :
    Inv stripe mark book (w.runProgress paymentIntentId status) :=
  inv.map fun _ => later_progress

theorem Inv.forget (inv : Inv stripe mark book w) :
    Inv stripe mark book (w.runForget idempotencyKey) :=
  inv.map fun _ => later_forget

/-- The request reached Stripe. -/
theorem Inv.charge (inv : Inv stripe mark book w) {claim : Claim} {form : ChargeForm}
    {made : Option (String × IntentStatus)}
    (ok : ∃ terms, claim.On book terms ∧ terms.Forms mark form)
    (may : w.mayMake stripe claim.idempotencyKey made) :
    Inv stripe mark book (w.charge claim form made) := by
  cases made with
  | none => exact inv
  | some new =>
      obtain ⟨id, status⟩ := new
      obtain ⟨terms, on, forms⟩ := ok
      obtain ⟨fresh, genuine⟩ := may _ rfl
      refine inv.atStripe rfl ?_ ?_ ?_ fun task mem => .inl mem
      · exact fun intent mem => ⟨intent, mem_cons_of_mem _ mem, .refl intent⟩
      · intro a ha b hb same
        rcases mem_cons.mp ha with rfl | ha <;> rcases mem_cons.mp hb with rfl | hb
        · rfl
        · exact absurd same.symm (fresh b hb).2
        · exact absurd same (fresh a ha).2
        · exact inv.unique a ha b hb same
      · intro intent mem
        rcases mem_cons.mp mem with rfl | before
        · exact .inr ⟨genuine, terms, on.1, forms⟩
        · exact .inl ⟨intent, before, .refl intent⟩

/-- A reply that names an intent names one made under the claim's key. -/
theorem Reply.names.made {form : ChargeForm} {p : IntentStatus → Prop}
    (h : Reply.names w.intents idempotencyKey form paymentIntentId p) :
    w.Made paymentIntentId fun intent =>
      intent.idempotencyKey = idempotencyKey ∧ p intent.status := by
  obtain ⟨intent, mem, id, answers, -, hp⟩ := h
  exact ⟨intent, mem, id, answers.2, hp⟩

theorem World.Made.imp {p q : PaymentIntent → Prop} (made : w.Made paymentIntentId p)
    (imp : ∀ intent, p intent → q intent) :
    w.Made paymentIntentId q := by
  obtain ⟨intent, mem, id, hp⟩ := made
  exact ⟨intent, mem, id, imp intent hp⟩

theorem Inv.reply (inv : Inv stripe mark book w) {claim : Claim} {form : ChargeForm}
    {reply : Reply} (on : ∃ terms, claim.On book terms)
    (honest : reply.honest w.intents claim.idempotencyKey form) :
    Inv stripe mark book (w.runReply n claim reply) := by
  cases reply with
  | lost => exact inv.finish n
  | rejected => exact inv.goto trivial
  | accepted paymentIntentId succeeded =>
      have named : Reply.names w.intents claim.idempotencyKey form paymentIntentId
          (fun status => status ≠ .failed ∧ (succeeded = true → status = .succeeded)) := honest
      refine inv.goto ⟨on, named.made.imp ?_⟩
      rintro intent ⟨key, -, settled⟩
      cases succeeded with
      | true => exact ⟨key, fun _ => settled rfl, nofun⟩
      | false => exact ⟨key, nofun, nofun⟩
  | indeterminate named =>
      cases named with
      | none => exact inv.finish n
      | some paymentIntentId =>
          have named : Reply.names w.intents claim.idempotencyKey form paymentIntentId
              (fun _ => True) := honest
          refine inv.goto ⟨on, named.made.imp ?_⟩
          rintro intent ⟨key, -⟩
          exact ⟨key, nofun, nofun⟩
  | declined paymentIntentId =>
      have named : Reply.names w.intents claim.idempotencyKey form paymentIntentId
          (fun status => status = .failed) := honest
      refine inv.goto ⟨on, named.made.imp ?_⟩
      rintro intent ⟨key, failed⟩
      exact ⟨key, nofun, fun _ => failed⟩

/-! ## Attaching -/

theorem Inv.next (inv : Inv stripe mark book w) {claim : Claim} {next : Next}
    (ok : (Task.attaching claim paymentIntentId next).Ok mark book w) :
    Inv stripe mark book (w.runNext n claim paymentIntentId next) := by
  obtain ⟨⟨terms, hterms, user, topup⟩, intent, mem, id, key, settled, -⟩ := ok
  cases next with
  | hold => exact inv.finish n
  | fail => exact inv.goto trivial
  | settle =>
      dsimp only [World.runNext]
      split
      · exact inv.finish n
      next quote priced =>
        refine inv.goto ⟨intent, mem, id, ?_, settled rfl⟩
        rw [← key] at hterms
        obtain ⟨charged, grossCents, tax, gross, -, hform⟩ := inv.chargedTerms mem hterms
        rw [← topup] at gross hform
        have same := (cardGross_eq_some gross).1
        rw [priced] at same
        cases same
        rw [(chargeForm_eq_some hform).1, user]

/-- A row the statement renamed is attached to the intent. -/
theorem Inv.renamedRow (inv : Inv stripe mark book w) {claim : Claim}
    (mem : row ∈ w.db.stripeAutopayIntents) (local_ : row.paymentIntentId = claim.localId)
    (made : w.Made paymentIntentId fun intent => intent.idempotencyKey = claim.idempotencyKey) :
    RowOk book w (renamed now paymentIntentId row) := by
  obtain ⟨intent, hintent, id, key⟩ := made
  obtain ⟨terms, hterms, bears⟩ := inv.claimRow mem local_
  rw [← key] at hterms
  obtain ⟨quote, grossCents, tax, gross, htax, hform⟩ := inv.chargedTerms hintent hterms
  refine .inr ⟨intent, hintent, id, ?_, ?_, ?_⟩
  · have charge := bears.charge
    rw [(cardGross_eq_some gross).1] at charge
    show (row.userId, row.amountUsd, row.chargeAmountUsd) = _
    rw [(chargeForm_eq_some hform).1, bears.userId, bears.amountUsd, ← Option.some.inj charge]
  · exact .inr ⟨terms, tax, hterms, htax, htax ▸ bears.tax⟩
  · show row.status = _ ∨ row.status = _ → _
    rintro (h | h) <;> rcases bears.status with h' | h' <;> rw [h] at h' <;> cases h'

theorem Inv.rename (inv : Inv stripe mark book w) (now : Timestamp) {claim : Claim}
    (made : w.Made paymentIntentId fun intent => intent.idempotencyKey = claim.idempotencyKey) :
    Inv stripe mark book { w with
      billing := w.billing.runRename now claim.idempotencyKey paymentIntentId } := by
  have rewritten : Billing.Rewritten w.db.stripeAutopayIntents
      (fun row => row.paymentIntentId = localId claim.idempotencyKey ∧
        ¬ ∃ other ∈ w.db.stripeAutopayIntents, other.paymentIntentId = paymentIntentId)
      (renamed now paymentIntentId)
      (w.billing.runRename now claim.idempotencyKey paymentIntentId).db.stripeAutopayIntents :=
    Billing.intents_runRename
  refine inv.keep (.refl book) ?_ rfl ?_ fun task mem => .inl mem
  · have claimed : (w.billing.runRename now claim.idempotencyKey paymentIntentId).claimed =
        w.billing.claimed := by
      unfold Billing.World.runRename
      split <;> rfl
    show ∀ key, book key ≠ none → key ∈ _
    rw [claimed]
    exact inv.booked
  · intro row mem
    have grows : Grows book book w { w with
        billing := w.billing.runRename now claim.idempotencyKey paymentIntentId } := .same rfl
    rcases rewritten.back mem with before | ⟨old, hold, ⟨claimId, -⟩, rfl⟩
    · exact (inv.rows row before).later grows fun _ _ _ h => h
    · exact (inv.renamedRow hold claimId made).later grows fun _ _ _ h => h

theorem Inv.attach (inv : Inv stripe mark book w) {claim : Claim} {next : Next}
    (ok : (Task.attaching claim paymentIntentId next).Ok mark book w) :
    Inv stripe mark book (w.runAttach n now claim paymentIntentId next) := by
  have renamedInv := inv.rename now (ok.2.imp fun intent h => h.1)
  have ok' : (Task.attaching claim paymentIntentId next).Ok mark book { w with
      billing := w.billing.runRename now claim.idempotencyKey paymentIntentId } :=
    ok.later (.same rfl)
  unfold World.runAttach
  dsimp only
  split
  · exact renamedInv.goto ok'
  · exact renamedInv.next ok'
  · exact renamedInv.finish n

theorem Inv.drop (inv : Inv stripe mark book w) {claim : Claim} {next : Next}
    (ok : (Task.dropping claim paymentIntentId next).Ok mark book w) :
    Inv stripe mark book (({ w with billing := w.billing.runDrop claim.idempotencyKey }).runNext n
      claim paymentIntentId next) := by
  have dropped : Inv stripe mark book
      { w with billing := w.billing.runDrop claim.idempotencyKey } := by
    refine inv.keep (.refl book) inv.booked rfl ?_ fun task mem => .inl mem
    intro row mem
    exact (inv.rows row (Table.mem_deleteWhere.mp mem).1).later (.same rfl) fun _ _ _ h => h
  have ok' : (Task.attaching claim paymentIntentId next).Ok mark book w := ok
  exact dropped.next (ok'.later (.same rfl))

/-! ## Outcomes -/

/-- The claims are as they were, and each row is one that was right, or is. -/
theorem Inv.rewrite (inv : Inv stripe mark book w) {billing : Billing.World}
    (claimed : billing.claimed = w.billing.claimed)
    (rows : ∀ row ∈ billing.db.stripeAutopayIntents, RowOk book w row) :
    Inv stripe mark book { w with billing } := by
  refine inv.keep (.refl book) ?_ rfl ?_ fun task mem => .inl mem
  · show ∀ key, book key ≠ none → key ∈ billing.claimed
    rw [claimed]
    exact inv.booked
  · exact fun row mem => (rows row mem).later (.same rfl) fun _ _ _ h => h

/-- A row entered for an event of an intent. -/
theorem rowOk_newIntent
    (made : w.Made paymentIntentId fun intent => intent.form.collected = collected) :
    RowOk book w (newIntent now paymentIntentId collected.1 collected.2.1 collected.2.2) := by
  obtain ⟨intent, mem, id, agrees⟩ := made
  refine .inr ⟨intent, mem, id, agrees.symm, .inl ⟨rfl, rfl⟩, ?_⟩
  rintro (h | h) <;> cases h

theorem Inv.settle (inv : Inv stripe mark book w)
    (ok : (Task.settling paymentIntentId collected).Ok mark book w) :
    Inv stripe mark book { w with
      billing := w.billing.runSettle now paymentIntentId (some collected) } := by
  refine inv.rewrite ?_ ?_
  · unfold Billing.World.runSettle
    split
    · split <;> rfl
    · rfl
    · rfl
  · intro row mem
    obtain ⟨intent, hintent, id, agrees, succeeded⟩ := id ok
    obtain ⟨old, origin, finishes⟩ := Billing.intents_runSettle.back mem
    have before : RowOk book w old := by
      rcases origin with known | ⟨collected, given, -, rfl⟩
      · exact inv.rows old known
      · cases given
        exact rowOk_newIntent ⟨intent, hintent, id, agrees⟩
    rcases finishes with rfl | ⟨⟨here, -⟩, status, -, rfl⟩
    · exact before
    · rcases before with ⟨key, -, claim, -, -⟩ | ⟨other, hother, same, attached⟩
      · exact absurd (id.trans (here.symm.trans claim)) (inv.notLocal hintent key)
      · refine .inr ⟨other, hother, same, attached.agrees, attached.tax, fun _ => ?_⟩
        rw [inv.unique other hother intent hintent (same.trans (here.trans id.symm))]
        exact succeeded

theorem Inv.fail (inv : Inv stripe mark book w) :
    Inv stripe mark book { w with billing := w.billing.runFail now paymentIntentId } := by
  refine inv.rewrite ?_ ?_
  · unfold Billing.World.runFail
    split
    · split <;> rfl
    · rfl
  · intro row mem
    rcases Billing.intents_runFail.back mem with before | ⟨old, hold, -, rfl⟩
    · exact inv.rows row before
    · rcases inv.rows old hold with
        ⟨key, terms, claim, hterms, bears⟩ | ⟨intent, hintent, id, attached⟩
      · exact .inl ⟨key, terms, claim, hterms, bears.userId, bears.amountUsd, bears.charge,
          bears.tax, .inr rfl⟩
      · refine .inr ⟨intent, hintent, id, attached.agrees, attached.tax, ?_⟩
        rintro (h | h) <;> cases h

theorem Inv.record (inv : Inv stripe mark book w)
    (ok : (Task.recording paymentIntentId collected).Ok mark book w) :
    Inv stripe mark book { w with
      billing := w.billing.runAutopay (w.db.recordAutopayCharge now paymentIntentId
        collected.1 collected.2.1 collected.2.2) } := by
  refine inv.rewrite ?_ ?_
  · unfold Billing.World.runAutopay
    split <;> rfl
  · intro row mem
    rcases Billing.intents_recordAutopayCharge.back mem with before | rfl
    · exact inv.rows row before
    · exact rowOk_newIntent ok

/-! ## Events -/

/-- What an event of an intent is read as is about the intent. -/
theorem readAutopayEvent_ok {report : AutopayReport} (reports : intent.Reports parser event)
    {quote : DepositFeeQuote} (priced : depositFeeQuote intent.form.creditUsd .card = some quote)
    (gross : intent.form.grossUsd = quote.grossUsd)
    (h : readAutopayEvent parser provenance event = .ok report) :
    report = .untouched ∨
      report = .failed intent.id (some intent.form.collected) ∧ intent.status = .failed ∨
      report = .succeeded intent.id intent.form.collected ∧ intent.status = .succeeded := by
  simp only [readAutopayEvent, bind_eq_ok, require_eq_ok, reports.id] at h
  obtain ⟨id, hid, h⟩ := h
  cases hid
  split at h
  · exact .inl (Except.ok.inj h).symm
  split at h
  · exact .inl (Except.ok.inj h).symm
  split at h
  next failedType =>
    have failed : intent.status = .failed := by
      rcases reports.kind with ⟨kind, -⟩ | ⟨-, failed⟩
      · rw [kind] at failedType
        exact absurd failedType (by decide)
      · exact failed
    refine .inr (.inl ⟨?_, failed⟩)
    unfold readAutopayFailure at h
    rw [reports.userId, reports.creditUsd] at h
    simp only [priced, require, bind_eq_ok] at h
    obtain ⟨found, hfound, h⟩ := h
    cases hfound
    rw [← Except.ok.inj h, ChargeForm.collected, gross]
  next succeededType =>
    have succeeded : intent.status = .succeeded := by
      rcases reports.kind with ⟨-, succeeded⟩ | ⟨kind, -⟩
      · exact succeeded
      · exact absurd kind succeededType
    refine .inr (.inr ⟨?_, succeeded⟩)
    simp only [readAutopaySuccess, bind_eq_ok, require_eq_ok] at h
    obtain ⟨userId, huser, creditUsd, hcredit, -, -, -, -, ⟨found, cents⟩, hfound, -, -, -, -, -,
      -, h⟩ := h
    rw [reports.userId] at huser
    rw [reports.creditUsd] at hcredit
    cases huser
    cases hcredit
    have same := (cardGross_eq_some hfound).1
    rw [priced] at same
    cases same
    rw [← Except.ok.inj h, ChargeForm.collected, gross]

/-- A form's gross is what its credit costs. -/
theorem Inv.priced (inv : Inv stripe mark book w) (mem : intent ∈ w.intents) :
    ∃ quote grossCents, depositFeeQuote intent.form.creditUsd .card = some quote ∧
      intent.form.grossUsd = quote.grossUsd ∧
      usdToCents intent.form.grossUsd = some (some grossCents) ∧
      intent.form.amountCents = grossCents + intent.form.taxCents ∧ 0 ≤ intent.form.taxCents ∧
      i64Min ≤ intent.form.amountCents ∧ intent.form.amountCents ≤ i64Max := by
  obtain ⟨terms, -, quote, grossCents, tax, gross, -, hform⟩ := inv.charged intent mem
  obtain ⟨collected, -, -, -, nonneg, amount, low, high⟩ := chargeForm_eq_some hform
  obtain ⟨priced, cents⟩ := cardGross_eq_some gross
  simp only [ChargeForm.collected, Prod.mk.injEq] at collected
  obtain ⟨-, credit, grossUsd⟩ := collected
  refine ⟨quote, grossCents, ?_, grossUsd, ?_, amount, nonneg, low, high⟩
  · rw [credit]
    exact priced
  · rw [grossUsd]
    exact cents

theorem Inv.report (inv : Inv stripe mark book w) {report : AutopayReport}
    (mem : intent ∈ w.intents) (reports : intent.Reports parser event)
    (h : readAutopayEvent parser provenance event = .ok report) :
    Inv stripe mark book (w.runReport now report) := by
  obtain ⟨quote, -, priced, gross, -⟩ := inv.priced mem
  rcases readAutopayEvent_ok reports priced gross h with rfl | ⟨rfl, -⟩ | ⟨rfl, succeeded⟩
  · exact inv
  · exact inv.start ⟨intent, mem, rfl, rfl⟩
  · exact inv.settle ⟨intent, mem, rfl, rfl, succeeded⟩

/-! ## Steps and runs -/

theorem Inv.step {creditText : Decimal → String}
    (inv : Inv stripe (markOf creditText provenance) book w) {action : Action}
    (h : step stripe bounds parser creditText provenance w action = some w') :
    ∃ book', book.Later book' ∧ Inv stripe (markOf creditText provenance) book' w' := by
  have same : ∀ {u : World}, Inv stripe (markOf creditText provenance) book u →
      ∃ book', book.Later book' ∧ Inv stripe (markOf creditText provenance) book' u :=
    fun inv => ⟨book, .refl book, inv⟩
  unfold Recharge.step at h
  cases action with
  | billing action =>
      dsimp only at h
      split at h
      next aside =>
        obtain ⟨billing, hbilling, rfl⟩ := Option.map_eq_some_iff.mp h
        exact same (inv.quiet (Billing.sameIntents_aside hbilling aside) rfl
          fun task mem => .inl mem)
      · cases h
  | saveCustomer userId customer =>
      cases h
      exact same inv.saveCustomer
  | sweep userId topupUsd =>
      dsimp only at h
      split at h
      · cases h
        exact same (inv.start trivial)
      · cases h
  | reconcile now paymentIntentId =>
      dsimp only at h
      split at h
      next row found =>
        split at h
        · cases h
          exact same (inv.reconcile (Table.find_some found).1)
        · cases h
      · cases h
  | deliver now event =>
      dsimp only at h
      split at h
      next known =>
        obtain ⟨intent, mem, reports⟩ := known
        split at h
        next report hreport =>
          cases h
          exact same (inv.report mem reports hreport)
        · cases h
          exact same inv
      · cases h
  | progress paymentIntentId status =>
      cases h
      exact same inv.progress
  | forget idempotencyKey =>
      cases h
      exact same inv.forget
  | claim n now idempotencyKey =>
      dsimp only at h
      split at h
      · split at h
        · cases h
        next new =>
          cases h
          exact inv.claim new
      · cases h
  | rearm n =>
      dsimp only at h
      split at h
      next claim found =>
        have ok : ∃ terms, claim.On book terms := inv.ok found
        split at h
        · cases h
          exact same (inv.goto ok)
        · cases h
          exact same (inv.finish n)
      · cases h
  | replay n =>
      dsimp only at h
      split at h
      next claim found =>
        have ok : ∃ terms, claim.On book terms := inv.ok found
        split at h
        · cases h
          exact same (inv.goto ok)
        · cases h
          exact same (inv.goto trivial)
      · cases h
  | list n card =>
      dsimp only at h
      split at h
      next claim customer found =>
        cases h
        exact same (inv.list (inv.ok found))
      · cases h
  | readTax n =>
      dsimp only at h
      split at h
      next claim customer paymentMethod found =>
        obtain ⟨terms, on⟩ := inv.ok found
        split at h
        next tax htax =>
          cases h
          obtain ⟨terms', hterms', taxed⟩ := inv.autopayTax htax
          rw [on.1] at hterms'
          cases hterms'
          exact same (inv.form on taxed)
        · cases h
          exact same (inv.goto ⟨terms, on⟩)
      · cases h
  | freezeTax n now calculation =>
      dsimp only at h
      split at h
      next claim customer paymentMethod found =>
        cases h
        exact inv.price (inv.ok found)
      · cases h
  | guard n =>
      dsimp only at h
      split at h
      next claim form found =>
        have ok : ∃ terms, claim.On book terms ∧ terms.Forms _ form := inv.ok found
        split at h
        · cases h
          exact same (inv.goto ok)
        · cases h
          exact same (inv.finish n)
      · cases h
  | post n made reply =>
      dsimp only at h
      split at h
      next claim form found =>
        split at h
        next may =>
          cases h
          obtain ⟨terms, on, forms⟩ := inv.ok found
          exact same ((inv.charge ⟨terms, on, forms⟩ may.1).reply ⟨terms, on⟩ may.2)
        · cases h
      · cases h
  | attach n now =>
      dsimp only at h
      split at h
      next claim paymentIntentId next found =>
        cases h
        exact same (inv.attach (inv.ok found))
      · cases h
  | drop n =>
      dsimp only at h
      split at h
      next claim paymentIntentId next found =>
        cases h
        exact same (inv.drop (inv.ok found))
      · cases h
  | settle n now =>
      dsimp only at h
      split at h
      next paymentIntentId collected found =>
        cases h
        exact same ((inv.settle (inv.ok found)).finish n)
      · cases h
  | fail n now =>
      dsimp only at h
      split at h
      next paymentIntentId found =>
        cases h
        exact same (inv.fail.finish n)
      · cases h
  | lookUp n =>
      dsimp only at h
      split at h
      next paymentIntentId collected found =>
        cases h
        exact same (inv.lookUp (inv.ok found))
      · cases h
  | record n now =>
      dsimp only at h
      split at h
      next paymentIntentId collected found =>
        cases h
        exact same ((inv.record (inv.ok found)).goto trivial)
      · cases h
  | crash n =>
      cases h
      exact same (inv.finish n)

/-- Nothing was charged yet. -/
structure World.Opening (w : World) : Prop where
  rows : w.db.stripeAutopayIntents.rows = []
  intents : w.intents = []
  tasks : w.tasks = []

theorem World.Opening.inv (opening : w.Opening) : Inv stripe mark (fun _ => none) w where
  booked _ booked := absurd rfl booked
  unique a mem := by
    rw [opening.intents] at mem
    cases mem
  genuine intent mem := by
    rw [opening.intents] at mem
    cases mem
  charged intent mem := by
    rw [opening.intents] at mem
    cases mem
  rows row mem := by
    rw [Table.mem_def, opening.rows] at mem
    cases mem
  tasks task mem := by
    rw [opening.tasks] at mem
    cases mem

end ZeroRouter.Recharge
