import ZeroRouter.Stripe.Portal
import ZeroRouter.Proofs.SessionForm

/-!
# Every checkout that is sold is honoured

A session is handed out only after its purchase is on record, and a slot of the cache holds
only sessions sold for the price the slot is named by.  Whatever runs in between, the
record stands, and the event of the session meets it.
-/

namespace ZeroRouter.Portal

open List Relational

variable {checkout : Checkout} {n : Nat} {session : CheckoutSession} {db : Db} {now : Timestamp}
  {db' : Db} {params : CheckoutSessionParams} {sessionId : String}

/-- The purchase record of a session, as it was priced. -/
def Recorded (db : Db) (params : CheckoutSessionParams) (sessionId : String) : Prop :=
  ∃ intent ∈ db.stripeCheckoutIntents, intent.stripeSessionId = sessionId ∧
    intent.userId = params.userId ∧ intent.expectedAmountCents = params.grossCents ∧
    intent.expectedCreditUsd = params.creditUsd ∧ intent.currency = checkoutCurrency

theorem Recorded.kept (recorded : Recorded db params sessionId)
    (kept : ZeroRouter.Checkout.QuotesKept db db') :
    Recorded db' params sessionId := by
  obtain ⟨intent, hintent, session, user, cents, credit, currency⟩ := recorded
  obtain ⟨new, hnew, same⟩ := kept intent hintent
  exact ⟨new, hnew, same.stripeSessionId.trans session, same.userId.trans user,
    same.expectedAmountCents.trans cents, same.expectedCreditUsd.trans credit,
    same.currency.trans currency⟩

theorem recorded_of_ok
    (h : db.recordCheckoutIntent now sessionId params.userId params.grossCents params.creditUsd
      checkoutCurrency = .ok db') : Recorded db' params sessionId := by
  simp only [Db.recordCheckoutIntent, bind_eq_ok, liftViolation_eq_ok] at h
  obtain ⟨table, inserted, -, -, h⟩ := h
  cases h
  exact ⟨_, (Table.mem_insert inserted).mpr (.inr rfl), rfl, rfl, rfl, rfl, rfl⟩

/-- A sale is what a request asked for. -/
structure Sale.Answers (sale : Sale) (settings : StripeSettings) (request : CheckoutRequest) :
    Prop where
  userId : sale.params.userId = request.userId
  rail : resolveRail request.rail settings = .ok sale.params.rail
  creditUsd : sale.params.creditUsd = request.amountUsd

/-! ## The invariant -/

section Invariant

variable {parser : MetadataParser} {text : MetadataText} {settings : StripeSettings}
  {returnUrl : String} {w w' : World}

/-- What a sale was made with stays: its price, its form and its record. -/
structure Made (text : MetadataText) (db : Db) (sale : Sale) : Prop where
  quoted : sale.params.Quoted
  form : checkoutSessionForm text sale.params = some sale.form
  recorded : Recorded db sale.params sale.session.id

structure Inv (parser : MetadataParser) (text : MetadataText) (settings : StripeSettings)
    (returnUrl : String) (w : World) : Prop where
  purchases : ZeroRouter.Checkout.Inv parser w.purchases
  owned : ZeroRouter.Checkout.RecordsOwned w.purchases.db
  priced : ∀ checkout ∈ w.checkouts,
    checkout.request.price settings returnUrl = .ok checkout.params
  recorded : ∀ checkout ∈ w.checkouts, ∀ session, checkout.stage = .recorded session →
    ∃ sale ∈ w.sales, sale.session = session ∧ sale.params = checkout.params
  sales : ∀ sale ∈ w.sales, Made text w.purchases.db sale
  cache : ∀ slot ∈ w.cache, ∃ sale ∈ w.sales,
    sale.session = slot.2.session ∧ sale.params.reuseKey = slot.1
  answers : ∀ request session, (request, .ok session) ∈ w.answers →
    ∃ sale ∈ w.sales, sale.session = session ∧ sale.Answers settings request

theorem Inv.opening (h : w.Opening) : Inv parser text settings returnUrl w where
  purchases := .opening h.purchases
  owned := h.owners
  priced := by simp [h.checkouts]
  recorded := by simp [h.checkouts]
  sales := by simp [h.sales]
  cache := by simp [h.cache]
  answers := by simp [h.answers]

/-- The purchase system takes a step of its own. -/
theorem Inv.purchasesStep (inv : Inv parser text settings returnUrl w)
    {a : ZeroRouter.Checkout.Action} {purchases : ZeroRouter.Checkout.World}
    (next : ZeroRouter.Checkout.step parser w.purchases a = some purchases) :
    Inv parser text settings returnUrl { w with purchases } := by
  have change := ZeroRouter.Checkout.step_change next
  exact
    { inv with
      purchases := inv.purchases.step change
      owned := change.db.recordsOwned inv.owned
      sales := fun sale hsale =>
        have made := inv.sales sale hsale
        ⟨made.quoted, made.form, made.recorded.kept change.db.quotesKept⟩ }

/-- A request moves to a stage that says nothing new. -/
theorem Inv.advance (inv : Inv parser text settings returnUrl w) (mem : checkout ∈ w.checkouts)
    {stage : Stage}
    (sold : ∀ session, stage = .recorded session →
      ∃ sale ∈ w.sales, sale.session = session ∧ sale.params = checkout.params) :
    Inv parser text settings returnUrl (w.advance n checkout stage) where
  purchases := inv.purchases
  owned := inv.owned
  priced other hother := by
    rcases mem_or_eq_of_mem_set hother with before | rfl
    · exact inv.priced other before
    · exact inv.priced checkout mem
  recorded other hother session hstage := by
    rcases mem_or_eq_of_mem_set hother with before | rfl
    · exact inv.recorded other before session hstage
    · exact sold session hstage
  sales := inv.sales
  cache := inv.cache
  answers := inv.answers

/-- A request is answered: with a failure, or with a session that was sold for it. -/
theorem Inv.answer (inv : Inv parser text settings returnUrl w) {request : CheckoutRequest}
    {response : Except CheckoutFailure CheckoutSession}
    (sold : ∀ session, response = .ok session →
      ∃ sale ∈ w.sales, sale.session = session ∧ sale.Answers settings request) :
    Inv parser text settings returnUrl (w.answer n request response) where
  purchases := inv.purchases
  owned := inv.owned
  priced other hother := inv.priced other ((eraseIdx_sublist _ _).subset hother)
  recorded other hother := inv.recorded other ((eraseIdx_sublist _ _).subset hother)
  sales := inv.sales
  cache := inv.cache
  answers other session hanswer := by
    rcases mem_cons.mp hanswer with same | before
    · cases same
      exact sold session rfl
    · exact inv.answers other session before

theorem Inv.createCheckout (inv : Inv parser text settings returnUrl w)
    (request : CheckoutRequest) :
    Inv parser text settings returnUrl (w.runCreateCheckout settings returnUrl request) := by
  unfold World.runCreateCheckout
  split
  · exact
      { inv with
        answers := fun other session hanswer => by
          rcases mem_cons.mp hanswer with same | before
          · cases same
          · exact inv.answers other session before }
  · next params priced =>
      exact
        { inv with
          priced := fun checkout hcheckout => by
            rcases mem_cons.mp hcheckout with rfl | before
            · exact priced
            · exact inv.priced checkout before
          recorded := fun checkout hcheckout session hstage => by
            rcases mem_cons.mp hcheckout with rfl | before
            · cases hstage
            · exact inv.recorded checkout before session hstage }

/-- A session in the slot of a price was sold at that price: the gross tells the credit. -/
theorem Inv.reused (inv : Inv parser text settings returnUrl w) (mem : checkout ∈ w.checkouts)
    (found : w.cache.reusable w.purchases.clock checkout.params.reuseKey = some session) :
    ∃ sale ∈ w.sales, sale.session = session ∧ sale.Answers settings checkout.request := by
  obtain ⟨entry, hentry, rfl⟩ := Option.map_eq_some_iff.mp found
  obtain ⟨before, after, split, -⟩ :=
    lookup_eq_some_iff.mp (Option.filter_eq_some_iff.mp hentry).1
  have slot : (checkout.params.reuseKey, entry) ∈ w.cache := by
    rw [split]
    exact mem_append_right before mem_cons_self
  obtain ⟨sale, hsale, same, key⟩ := inv.cache _ slot
  obtain ⟨quoted, user, credit, rail⟩ := CheckoutRequest.price_ok (inv.priced checkout mem)
  have sameUser : sale.params.userId = checkout.params.userId := congrArg Prod.fst key
  have sameRail : sale.params.rail = checkout.params.rail := congrArg (·.2.1) key
  have sameGross : sale.params.grossCents = checkout.params.grossCents := congrArg (·.2.2) key
  have sameCredit := (inv.sales sale hsale).quoted.creditUsd_of_gross quoted sameRail sameGross
  refine ⟨sale, hsale, same, sameUser.trans user, ?_, sameCredit.trans credit⟩
  rw [sameRail]
  exact rail

theorem Inv.lookup (inv : Inv parser text settings returnUrl w) (mem : checkout ∈ w.checkouts) :
    Inv parser text settings returnUrl (w.runLookup n checkout) := by
  unfold World.runLookup
  split
  · next session found =>
      refine inv.answer fun other same => ?_
      cases same
      exact inv.reused mem found
  · exact inv.advance mem fun _ same => by cases same

theorem Inv.createSession (inv : Inv parser text settings returnUrl w)
    (mem : checkout ∈ w.checkouts) (response : Option CheckoutSession) :
    Inv parser text settings returnUrl (w.runCreateSession text n checkout response) := by
  unfold World.runCreateSession
  split
  · exact inv.advance mem fun _ same => by cases same
  · exact inv.answer fun _ same => by cases same

/-- The database after a purchase is recorded. -/
theorem Inv.record (inv : Inv parser text settings returnUrl w)
    (h : w.purchases.db.recordCheckoutIntent now session.id checkout.params.userId
      checkout.params.grossCents checkout.params.creditUsd checkoutCurrency = .ok db)
    (clock : now ≤ w.purchases.clock) :
    Inv parser text settings returnUrl { w with purchases := { w.purchases with db } } := by
  have step : ZeroRouter.Checkout.step parser w.purchases
      (.recordCheckoutIntent now session.id checkout.params.userId checkout.params.grossCents
        checkout.params.creditUsd checkoutCurrency) = some { w.purchases with db } := by
    simp [ZeroRouter.Checkout.step, ZeroRouter.Checkout.Action.now?, clock,
      ZeroRouter.Checkout.World.run, h]
  exact inv.purchasesStep step

theorem Inv.recordIntent (inv : Inv parser text settings returnUrl w)
    (mem : checkout ∈ w.checkouts) {form : Form}
    (hform : checkoutSessionForm text checkout.params = some form)
    (clock : now ≤ w.purchases.clock) (fate : Fate) :
    Inv parser text settings returnUrl (w.runRecordIntent n checkout session form now fate) := by
  unfold World.runRecordIntent
  split
  · next db hdb =>
      have after := inv.record hdb clock
      have quoted := (CheckoutRequest.price_ok (inv.priced checkout mem)).1
      have sold : Inv parser text settings returnUrl
          { w with
            purchases := { w.purchases with db }
            sales := { params := checkout.params, form, session } :: w.sales } :=
        { after with
          recorded := fun other hother made hstage => by
            obtain ⟨sale, hsale, same⟩ := after.recorded other hother made hstage
            exact ⟨sale, mem_cons_of_mem _ hsale, same⟩
          sales := fun sale hsale => by
            rcases mem_cons.mp hsale with rfl | before
            · exact ⟨quoted, hform, recorded_of_ok hdb⟩
            · exact after.sales sale before
          cache := fun slot hslot => by
            obtain ⟨sale, hsale, same⟩ := after.cache slot hslot
            exact ⟨sale, mem_cons_of_mem _ hsale, same⟩
          answers := fun request made hanswer => by
            obtain ⟨sale, hsale, same⟩ := after.answers request made hanswer
            exact ⟨sale, mem_cons_of_mem _ hsale, same⟩ }
      refine sold.advance mem fun made same => ?_
      cases same
      exact ⟨_, mem_cons_self, rfl, rfl⟩
  · next db hdb => exact (inv.record hdb clock).answer fun _ same => by cases same
  · exact inv.answer fun _ same => by cases same

theorem Inv.cacheSession (inv : Inv parser text settings returnUrl w)
    (mem : checkout ∈ w.checkouts) (stage : checkout.stage = .recorded session) :
    Inv parser text settings returnUrl (w.runCacheSession n checkout session) := by
  obtain ⟨sale, hsale, same, params⟩ := inv.recorded checkout mem session stage
  have cached : Inv parser text settings returnUrl
      { w with
        cache := w.cache.insert checkout.params.reuseKey
          { session, insertedAt := w.purchases.clock } } :=
    { inv with
      cache := fun slot hslot => by
        rcases mem_cons.mp hslot with rfl | before
        · exact ⟨sale, hsale, same, by rw [params]⟩
        · exact inv.cache slot (mem_filter.mp before).1 }
  refine cached.answer fun other hother => ?_
  cases hother
  obtain ⟨-, user, credit, rail⟩ := CheckoutRequest.price_ok (inv.priced checkout mem)
  refine ⟨sale, hsale, same, ?_, ?_, ?_⟩
  · rw [params, user]
  · rw [params, rail]
  · rw [params, credit]

theorem Inv.step {a : Action} (inv : Inv parser text settings returnUrl w)
    (next : step parser text settings returnUrl w a = some w') :
    Inv parser text settings returnUrl w' := by
  unfold Portal.step at next
  cases a with
  | purchases action =>
      obtain ⟨purchases, hpurchases, rfl⟩ := Option.map_eq_some_iff.mp next
      exact inv.purchasesStep hpurchases
  | createCheckout request =>
      cases next
      exact inv.createCheckout request
  | lookup n =>
      simp only at next
      split at next
      · next checkout found =>
          split at next
          · cases next
            exact inv.lookup (mem_of_getElem? found)
          · cases next
      · cases next
  | createSession n response =>
      simp only at next
      split at next
      · next checkout found =>
          split at next
          · cases next
            exact inv.createSession (mem_of_getElem? found) response
          · cases next
      · cases next
  | recordIntent n now fate =>
      simp only at next
      split at next
      · next checkout found =>
          split at next
          · next session form stage hform =>
              split at next
              · next clock =>
                  cases next
                  exact inv.recordIntent (mem_of_getElem? found) hform clock fate
              · cases next
          · cases next
      · cases next
  | cacheSession n =>
      simp only at next
      split at next
      · next checkout found =>
          split at next
          · next session stage =>
              cases next
              exact inv.cacheSession (mem_of_getElem? found) stage
          · cases next
      · cases next
  | forgetSession userId grossCents sessionId =>
      cases next
      exact { inv with cache := fun slot hslot => inv.cache slot (mem_filter.mp hslot).1 }
  | abandon n =>
      cases next
      have kept : w.checkouts.eraseIdx n ⊆ w.checkouts := (eraseIdx_sublist _ _).subset
      exact
        { inv with
          priced := fun checkout hcheckout => inv.priced checkout (kept hcheckout)
          recorded := fun checkout hcheckout => inv.recorded checkout (kept hcheckout) }
  | restart =>
      cases next
      exact
        { inv with
          priced := fun _ none => absurd none not_mem_nil
          recorded := fun _ none => absurd none not_mem_nil
          cache := fun _ none => absurd none not_mem_nil }

end Invariant

/-! ## Honouring a sale -/

section Honours

variable {parser : MetadataParser} {text : MetadataText} {settings : StripeSettings}
  {returnUrl : String} {w₀ w : World}

/-- What a sale is worth in a state of the system: the event of its session passes both
    layers for its buyer and its credit; crediting that is crediting exactly that, once;
    and whatever was credited for the session was exactly that. -/
structure World.Honours (w : World) (parser : MetadataParser) (sale : Sale) : Prop where
  sells : SellsExactly sale.params sale.form
  passes : ∀ object : Value, object.Pays sale.form sale.session.id →
    corroborate parser w.purchases.db.checkoutIntent object = .ok (some
      { userId := sale.params.userId
        creditUsd := sale.params.creditUsd
        sessionId := sale.session.id
        paymentIntent := object.str "payment_intent" })
  credits : ∀ now paymentIntent,
    (¬ ∃ row ∈ w.purchases.db.creditLedger, row.stripeSessionId = some sale.session.id) →
    ∃ balanceAfter credited,
      ZeroRouter.Checkout.Credited w.purchases.db credited sale.params.userId
        sale.params.creditUsd sale.session.id paymentIntent ∧
      w.purchases.db.creditPurchase now sale.params.userId sale.params.creditUsd sale.session.id
        paymentIntent =
        (ZeroRouter.Checkout.meetReversals credited now sale.params.userId sale.params.creditUsd
          paymentIntent).map fun db' => (.applied balanceAfter, db')
  credited : ∀ row ∈ w.purchases.db.creditLedger, row.entryType = .purchase →
    row.stripeSessionId = some sale.session.id →
    row.userId = sale.params.userId ∧ row.amountUsd = sale.params.creditUsd

/-- An id Stripe mints is not blank. -/
theorem CheckoutSession.id_nonblank (session : CheckoutSession) :
    (trim session.id).toList.isEmpty = false := by
  obtain ⟨rest, hrest⟩ := session.isSessionId
  have head : "cs_".toList = ['c', 's', '_'] := rfl
  have visible : isWhiteSpace 'c' = false := by decide
  rw [Bool.eq_false_iff, Ne, List.isEmpty_iff]
  unfold trim
  rw [← hrest, head, String.toList_ofList, List.reverse_eq_nil_iff, List.dropWhile_eq_nil_iff]
  simp only [List.cons_append, List.dropWhile_cons, visible, Bool.false_eq_true, if_false]
  intro blank
  have space := blank 'c' (by simp)
  rw [visible] at space
  cases space

theorem Inv.honours (inv : Inv parser text settings returnUrl w) (reads : text.ReadBy parser)
    {sale : Sale} (hsale : sale ∈ w.sales) : w.Honours parser sale := by
  obtain ⟨quoted, form, intent, hintent, session, user, cents, credit, currency⟩ :=
    inv.sales sale hsale
  have found : w.purchases.db.checkoutIntent sale.session.id = some intent :=
    ZeroRouter.Checkout.checkoutIntent_eq_some.mpr ⟨hintent, session⟩
  have positive : 0 < sale.params.creditUsd := by
    rw [← credit]
    exact (w.purchases.db.stripeCheckoutIntents.checked intent hintent).creditIsPositive
  refine ⟨quoted.sellsExactly form, ?_, ?_, ?_⟩
  · intro object pays
    obtain ⟨taxCents, passed⟩ := quoted.corroborateEvent reads (quoted.sells form) pays
    simp only [corroborate, bind_eq_ok]
    refine ⟨_, passed, ?_⟩
    simp only [corroborateIntent, bind_eq_ok, require_eq_ok, ensure_eq_ok]
    exact ⟨_, ⟨intent, found, (), ⟨user, cents, currency⟩, rfl⟩, by rw [user, credit]; rfl⟩
  · intro now paymentIntent fresh
    obtain ⟨holder, hholder, owner⟩ := inv.owned intent hintent
    exact ZeroRouter.Checkout.creditPurchase_credits paymentIntent
      ⟨holder, hholder, owner.trans user⟩ positive sale.session.id_nonblank fresh
  · intro row hrow purchase forSession
    obtain ⟨other, hother, otherSession, otherUser, otherCredit, -⟩ :=
      inv.purchases.purchases row hrow purchase
    have sameSession : other.stripeSessionId = intent.stripeSessionId := by
      rw [session]
      exact Option.some.inj (otherSession.symm.trans forSession)
    have same : other = intent := Table.eq_of_clash hother hintent sameSession
    subst same
    exact ⟨otherUser.trans user, otherCredit.trans credit⟩

end Honours

/-- Whatever a deployment is set to and whatever its buyers, its cache, Stripe and other
    processes do: a checkout that is priced has a form, whose lines are positive and come to
    the gross it was quoted; and a session that is handed out, created for its request or
    reused, was sold to that buyer on that rail for that credit, and is honoured. -/
theorem checkouts_honoured {parser : MetadataParser} {text : MetadataText}
    (reads : text.ReadBy parser) {settings : StripeSettings} {returnUrl : String} {w₀ w : World}
    (opening : w₀.Opening) (run : Reaches parser text settings returnUrl w₀ w) :
    (∀ (request : CheckoutRequest) params, request.price settings returnUrl = .ok params →
      params.creditUsd = request.amountUsd ∧
      ∃ form, checkoutSessionForm text params = some form ∧ SellsExactly params form) ∧
    ∀ request session, (request, .ok session) ∈ w.answers →
      ∃ sale ∈ w.sales, sale.session = session ∧ sale.Answers settings request ∧
        checkoutSessionForm text sale.params = some sale.form ∧ w.Honours parser sale := by
  have inv : Inv parser text settings returnUrl w :=
    run.invariant (.opening opening) fun _ _ _ inv _ next => inv.step next
  constructor
  · intro request params priced
    obtain ⟨quoted, -, credit, -⟩ := CheckoutRequest.price_ok priced
    obtain ⟨form, hform⟩ : ∃ form, checkoutSessionForm text params = some form :=
      quoted.form_exists
    exact ⟨credit, form, hform, quoted.sellsExactly hform⟩
  · intro request session hanswer
    obtain ⟨sale, hsale, same, answers⟩ := inv.answers request session hanswer
    exact ⟨sale, hsale, same, answers, (inv.sales sale hsale).form, inv.honours reads hsale⟩

/-! A $5 deposit by card, asked for again while it is open, and one in stablecoin. -/

/-- The amounts of the run below, as they are written. -/
def writtenAmounts : List (Decimal × String) :=
  [(5, "5"), (4 / 5, "0.80"), (29 / 5, "5.80"), (1 / 4, "0.25"), (21 / 4, "5.25")]

/-- The texts of those amounts, and some text for any other value. -/
def plainText : MetadataText where
  uuid userId := userId.repr
  decimal amountUsd :=
    match writtenAmounts.find? fun written => written.1 = amountUsd with
    | some written => written.2
    | none => String.ofList ('#' :: (Encodable.encode amountUsd).repr.toList)

def plainParser : MetadataParser where
  uuid := String.toNat?
  decimal raw :=
    match writtenAmounts.find? fun written => written.2 = raw with
    | some written => some written.1
    | none => (String.ofList raw.toList.tail).toNat?.bind Encodable.decode

theorem plainText_readBy : plainText.ReadBy plainParser where
  uuid userId := Nat.toNat?_repr userId
  decimal amountUsd _ := by
    unfold plainText
    dsimp only
    split
    · next written found =>
        have back : ∀ written ∈ writtenAmounts,
            plainParser.decimal written.2 = some written.1 := by decide +kernel
        have same : written.1 = amountUsd := by simpa using find?_some found
        rw [← same]
        exact back written (mem_of_find?_eq_some found)
    · have unmarked : ∀ written ∈ writtenAmounts, written.2.toList.head? ≠ some '#' := by decide
      have missed : writtenAmounts.find? (fun written => written.2 =
          String.ofList ('#' :: (Encodable.encode amountUsd).repr.toList)) = none := by
        rw [find?_eq_none]
        intro written hwritten same
        apply unmarked written hwritten
        rw [of_decide_eq_true same, String.toList_ofList]
        rfl
      unfold plainParser
      dsimp only
      rw [missed, String.toList_ofList, tail_cons, String.ofList_toList, Nat.toNat?_repr]
      exact Encodable.encodek amountUsd

def fiveToThousand : StripeSettings where
  checkoutMinUsd := 5
  checkoutMaxUsd := 1000
  cryptoRail := true
  min_positive := by norm_num
  min_le_max := by norm_num

def depositOf (rail : Option String) : CheckoutRequest where
  userId := 1
  email := "buyer@example.com"
  amountUsd := 5
  rail

def depositsRun : List Action :=
  [.createCheckout (depositOf none), .lookup 0,
    .createSession 0 (some ⟨"cs_1", "secret_1", by decide⟩), .recordIntent 0 0 .commit,
    .cacheSession 0, .createCheckout (depositOf (some "card")), .lookup 0,
    .createCheckout (depositOf (some "crypto")), .lookup 0,
    .createSession 0 (some ⟨"cs_2", "secret_2", by decide⟩), .recordIntent 0 0 .commit,
    .cacheSession 0]

theorem checkouts_honoured_fives : ∃ w : World,
    w.answers.map (fun answer => answer.2.toOption.map CheckoutSession.id) =
      [some "cs_2", some "cs_1", some "cs_1"] ∧
    ∀ request session, (request, .ok session) ∈ w.answers →
      ∃ sale ∈ w.sales, sale.session = session ∧ sale.Answers fiveToThousand request ∧
        corroborate plainParser w.purchases.db.checkoutIntent
          (paidObject sale.form session.id 40) = .ok (some
            { userId := request.userId
              creditUsd := request.amountUsd
              sessionId := session.id
              paymentIntent := none }) := by
  have runs : (Transition.runWhile (step plainParser plainText fiveToThousand "/credits/return")
      Transition.anyStep
      { purchases :=
          { db := .fresh ZeroRouter.Checkout.oneBuyer .empty, clock := 0, deliveries := []
            delivered := [], answers := [] }
        checkouts := [], cache := [], sales := [], answers := [] } depositsRun).any (fun w =>
        w.answers.map (fun answer => answer.2.toOption.map CheckoutSession.id) =
            [some "cs_2", some "cs_1", some "cs_1"] ∧
          ∀ sale ∈ w.sales,
            usdToCents sale.params.grossUsd = some (some sale.params.grossCents) ∧
              0 ≤ sale.params.grossCents ∧ sale.params.grossCents ≤ 1000) = true := by
    decide +kernel
  obtain ⟨w, run, hw⟩ := Transition.Steps.exists_of_runWhile runs
  obtain ⟨answered, small⟩ := of_decide_eq_true hw
  have opening : World.Opening
      { purchases :=
          { db := .fresh ZeroRouter.Checkout.oneBuyer .empty, clock := 0, deliveries := []
            delivered := [], answers := [] }
        checkouts := [], cache := [], sales := [], answers := [] } :=
    ⟨⟨fun _ hrow => absurd hrow List.not_mem_nil, rfl⟩,
      fun _ hrow => absurd hrow List.not_mem_nil, rfl, rfl, rfl, rfl⟩
  refine ⟨w, answered, fun request session hanswer => ?_⟩
  obtain ⟨sale, hsale, same, answers, -, honours⟩ :=
    (checkouts_honoured plainText_readBy opening run).2 request session hanswer
  refine ⟨sale, hsale, same, answers, ?_⟩
  obtain ⟨gross, low, high⟩ := small sale hsale
  have sum : (lineItems sale.form).sum = sale.params.grossCents :=
    Option.some.inj (Option.some.inj (honours.sells.sum.symm.trans gross))
  have pays : (paidObject sale.form sale.session.id 40).Pays sale.form sale.session.id := by
    apply paidObject_pays
    · decide
    · omega
    · unfold i64Max
      omega
  rw [← same, ← answers.userId, ← answers.creditUsd, honours.passes _ pays]
  rfl

end ZeroRouter.Portal
