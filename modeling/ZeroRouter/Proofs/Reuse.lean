import ZeroRouter.Stripe.Status
import ZeroRouter.Proofs.Checkout

/-!
# Finished sessions and the sessions handed out

A status read that finds a session finished drops it from the cache of sessions to reuse; the
credit of a session does not.  A session is handed out after the process was told that it is
finished when, and only when, the telling was a credit applied while the session still stood in
the cache.
-/

namespace ZeroRouter.Portal

open Option List Relational

variable {shop next : Shop} {sessionId : String} {session : CheckoutSession} {n : Nat} {db db' : Db}
  {checkout : Checkout} {read : StatusRead} {visit : Visit} {action : Action}

/-! ## The condition -/

/-- The request made the session and has not put it in the cache yet. -/
def Stage.Holds (sessionId : String) : Stage → Prop
  | .recorded session => session.id = sessionId
  | _ => False

instance (sessionId : String) (stage : Stage) : Decidable (stage.Holds sessionId) :=
  match stage with
  | .recorded session => inferInstanceAs (Decidable (session.id = sessionId))
  | .priced | .missed | .created _ => .isFalse fun h => h

/-- A session that was made and is about to be handed out for the first time. -/
def World.Pending (w : World) (sessionId : String) : Prop :=
  ∃ checkout ∈ w.checkouts, checkout.stage.Holds sessionId

/-- A session that a slot of the cache may still hand out. -/
def World.Reusable (w : World) (sessionId : String) : Prop :=
  ∃ slot ∈ w.cache, slot.2.session.id = sessionId ∧
    w.purchases.clock - slot.2.insertedAt < sessionReuseTtl

instance (w : World) (sessionId : String) : Decidable (w.Pending sessionId) :=
  inferInstanceAs (Decidable (∃ checkout ∈ w.checkouts, _))

instance (w : World) (sessionId : String) : Decidable (w.Reusable sessionId) :=
  inferInstanceAs (Decidable (∃ slot ∈ w.cache, _))

/-- A step tells that a session is finished only after its secret was handed out, and a credit
    comes no sooner than the cache has let go of the session. -/
structure Visit.Timely (shop : Shop) (visit : Visit) : Prop where
  answered : ∀ sessionId ∈ shop.learns visit, ¬ shop.portal.Pending sessionId
  credited : ∀ sessionId ∈ shop.credits visit, ¬ shop.portal.Reusable sessionId

instance (shop : Shop) (visit : Visit) : Decidable (visit.Timely shop) :=
  decidable_of_iff ((∀ sessionId ∈ shop.learns visit, ¬ shop.portal.Pending sessionId) ∧
    ∀ sessionId ∈ shop.credits visit, ¬ shop.portal.Reusable sessionId)
    ⟨fun h => ⟨h.1, h.2⟩, fun h => ⟨h.answered, h.credited⟩⟩

/-! ## Kept sessions -/

/-- A session with a purchase record. -/
def Noted (db : Db) (sessionId : String) : Prop :=
  ∃ intent ∈ db.stripeCheckoutIntents, intent.stripeSessionId = sessionId

theorem Noted.kept (noted : Noted db sessionId) (kept : ZeroRouter.Checkout.QuotesKept db db') :
    Noted db' sessionId := by
  obtain ⟨intent, hintent, rfl⟩ := noted
  obtain ⟨new, hnew, same⟩ := kept intent hintent
  exact ⟨new, hnew, same.stripeSessionId⟩

/-- A session is recorded once. -/
theorem not_noted_of_recorded {now : Timestamp} {userId : Uuid} {amountCents : Int}
    {creditUsd : Decimal} {currency : String}
    (h : db.recordCheckoutIntent now sessionId userId amountCents creditUsd currency = .ok db') :
    ¬ Noted db sessionId := by
  simp only [Db.recordCheckoutIntent, bind_eq_ok, liftViolation_eq_ok] at h
  obtain ⟨table, inserted, -⟩ := h
  rintro ⟨intent, hintent, same⟩
  exact (Table.insert_ok inserted).2.2 intent hintent same

section Clock

variable {parser : MetadataParser} {w w' : ZeroRouter.Checkout.World}

theorem run_clock (result : Except SqlError Db) : (w.run result).clock = w.clock := by
  cases result <;> rfl

theorem runCheckoutIntent_clock (n : Nat) (event : StripeEvent) :
    (w.runCheckoutIntent parser n event).clock = w.clock := by
  unfold ZeroRouter.Checkout.World.runCheckoutIntent
  split <;> rfl

theorem runCreditPurchase_clock (n : Nat) (event : StripeEvent) (purchase : Purchase)
    (now : Timestamp) (fate : Fate) :
    (w.runCreditPurchase n event purchase now fate).clock = w.clock := by
  unfold ZeroRouter.Checkout.World.runCreditPurchase
  split
  · rfl
  · cases fate <;> rfl

theorem runSettleCheckoutIntent_clock (n : Nat) (event : StripeEvent) (sessionId : String)
    (now : Timestamp) (fate : Fate) :
    (w.runSettleCheckoutIntent n event sessionId now fate).clock = w.clock := by
  unfold ZeroRouter.Checkout.World.runSettleCheckoutIntent
  show (if fate.committed then w.run _ else w).clock = w.clock
  split
  · exact run_clock _
  · rfl

/-- The clock of the purchase system never goes back. -/
theorem purchases_clock {a : ZeroRouter.Checkout.Action}
    (next : ZeroRouter.Checkout.step parser w a = some w') : w.clock ≤ w'.clock := by
  unfold ZeroRouter.Checkout.step at next
  split at next
  case isFalse => cases next
  cases a with
  | tick clock =>
      simp only at next
      split at next
      · next later =>
          cases next
          exact later
      · cases next
  | recordCheckoutIntent now stripeSessionId userId expectedAmountCents expectedCreditUsd currency =>
      cases next
      rw [run_clock]
  | deliver event =>
      simp only at next
      split at next <;> cases next <;> exact le_rfl
  | checkoutIntent n =>
      simp only at next
      split at next
      · cases next
        rw [runCheckoutIntent_clock]
      · cases next
  | creditPurchase n now fate =>
      simp only at next
      split at next
      · cases next
        rw [runCreditPurchase_clock]
      · cases next
  | settleCheckoutIntent n now fate =>
      simp only at next
      split at next
      · cases next
        rw [runSettleCheckoutIntent_clock]
      · cases next
  | unreadable n =>
      simp only at next
      split at next
      · split at next <;> cases next
        exact le_rfl
      · cases next
  | crash n =>
      cases next
      exact le_rfl

end Clock

/-! ## What one step does -/

section Step

variable {parser : MetadataParser} {text : MetadataText} {settings : StripeSettings}
  {returnUrl : String} {w w' : World}

/-- What any step leaves of the records, of the sessions held back and of those in the cache:
    a session comes to be held back by being recorded, and into the cache from there. -/
structure Change (w w' : World) : Prop where
  quotes : ZeroRouter.Checkout.QuotesKept w.purchases.db w'.purchases.db
  pending : ∀ sessionId, w'.Pending sessionId →
    w.Pending sessionId ∨ ¬ Noted w.purchases.db sessionId
  reusable : ∀ sessionId, w'.Reusable sessionId → w.Reusable sessionId ∨ w.Pending sessionId

theorem Change.of_same (quotes : ZeroRouter.Checkout.QuotesKept w.purchases.db w'.purchases.db)
    (clock : w.purchases.clock ≤ w'.purchases.clock)
    (checkouts : ∀ checkout ∈ w'.checkouts, ∀ sessionId, checkout.stage.Holds sessionId →
      checkout ∈ w.checkouts)
    (cache : w'.cache ⊆ w.cache) : Change w w' where
  quotes := quotes
  pending sessionId h := by
    obtain ⟨checkout, hcheckout, holds⟩ := h
    exact .inl ⟨checkout, checkouts checkout hcheckout sessionId holds, holds⟩
  reusable sessionId h := by
    obtain ⟨slot, hslot, same, young⟩ := h
    exact .inl ⟨slot, cache hslot, same, (Int.sub_le_sub_right clock _).trans_lt young⟩

theorem mem_of_advance {other : Checkout} {stage : Stage}
    (h : other ∈ (w.advance n checkout stage).checkouts) (free : ¬ stage.Holds sessionId)
    (holds : other.stage.Holds sessionId) : other ∈ w.checkouts := by
  rcases mem_or_eq_of_mem_set h with before | rfl
  · exact before
  · exact absurd holds free

/-- A request moves to a stage that holds no session back. -/
theorem Change.advance {stage : Stage} (free : ∀ sessionId, ¬ stage.Holds sessionId) :
    Change w (w.advance n checkout stage) :=
  .of_same (.of_eq rfl) le_rfl (fun _ h sessionId holds => mem_of_advance h (free sessionId) holds)
    (List.Subset.refl _)

theorem Change.answer {request : CheckoutRequest}
    {response : Except CheckoutFailure CheckoutSession} : Change w (w.answer n request response) :=
  .of_same (.of_eq rfl) le_rfl (fun _ h _ _ => (eraseIdx_sublist _ _).subset h)
    (List.Subset.refl _)

theorem Change.lookup (n : Nat) (checkout : Checkout) : Change w (w.runLookup n checkout) := by
  unfold World.runLookup
  split
  · exact .answer
  · exact .advance fun _ holds => holds

theorem Change.createSession (n : Nat) (checkout : Checkout) (response : Option CheckoutSession) :
    Change w (w.runCreateSession text n checkout response) := by
  unfold World.runCreateSession
  split
  · exact .advance fun _ holds => holds
  · exact .answer

theorem Change.createCheckout (request : CheckoutRequest) :
    Change w (w.runCreateCheckout settings returnUrl request) := by
  unfold World.runCreateCheckout
  split
  · exact .of_same (.of_eq rfl) le_rfl (fun _ h _ _ => h) (List.Subset.refl _)
  · refine .of_same (.of_eq rfl) le_rfl ?_ (List.Subset.refl _)
    intro checkout h sessionId holds
    rcases mem_cons.mp h with rfl | before
    · exact absurd holds fun h => h
    · exact before

theorem Change.recordIntent (n : Nat) (checkout : Checkout) (session : CheckoutSession)
    (form : Form) (now : Timestamp) (fate : Fate) :
    Change w (w.runRecordIntent n checkout session form now fate) := by
  unfold World.runRecordIntent
  split
  · next db recorded =>
      have quotes := (ZeroRouter.Checkout.recordCheckoutIntent_ok recorded).1
      refine ⟨quotes, ?_, ?_⟩
      · rintro sessionId ⟨other, hother, holds⟩
        by_cases same : session.id = sessionId
        · exact .inr (same ▸ not_noted_of_recorded recorded)
        · exact .inl ⟨other, mem_of_advance hother same holds, holds⟩
      · exact fun sessionId h => .inl h
  · next db recorded =>
      have quotes := (ZeroRouter.Checkout.recordCheckoutIntent_ok recorded).1
      exact .of_same quotes le_rfl (fun _ h _ _ => (eraseIdx_sublist _ _).subset h)
        (List.Subset.refl _)
  · exact .answer

theorem Change.cacheSession (mem : checkout ∈ w.checkouts)
    (stage : checkout.stage = .recorded session) :
    Change w (w.runCacheSession n checkout session) where
  quotes := .of_eq rfl
  pending sessionId h := by
    obtain ⟨other, hother, holds⟩ := h
    exact .inl ⟨other, (eraseIdx_sublist _ _).subset hother, holds⟩
  reusable sessionId h := by
    obtain ⟨slot, hslot, same, young⟩ := h
    rcases mem_cons.mp hslot with rfl | before
    · refine .inr ⟨checkout, mem, ?_⟩
      rw [stage]
      exact same
    · exact .inl ⟨slot, (mem_filter.mp before).1, same, young⟩

theorem step_change {a : Action} (next : step parser text settings returnUrl w a = some w') :
    Change w w' := by
  unfold Portal.step at next
  cases a with
  | purchases action =>
      obtain ⟨purchases, hpurchases, rfl⟩ := map_eq_some_iff.mp next
      exact .of_same (ZeroRouter.Checkout.step_change hpurchases).db.quotesKept
        (purchases_clock hpurchases) (fun _ h _ _ => h) (List.Subset.refl _)
  | createCheckout request =>
      cases next
      exact .createCheckout request
  | lookup n =>
      simp only at next
      split at next
      · split at next <;> cases next
        exact .lookup _ _
      · cases next
  | createSession n response =>
      simp only at next
      split at next
      · split at next <;> cases next
        exact .createSession _ _ _
      · cases next
  | recordIntent n now fate =>
      simp only at next
      split at next
      · split at next
        · split at next <;> cases next
          exact .recordIntent _ _ _ _ _ _
        · cases next
      · cases next
  | cacheSession n =>
      simp only at next
      split at next
      · next checkout found =>
          split at next
          · next session stage =>
              cases next
              exact .cacheSession (mem_of_getElem? found) stage
          · cases next
      · cases next
  | forgetSession userId grossCents sessionId =>
      cases next
      exact .of_same (.of_eq rfl) le_rfl (fun _ h _ _ => h) (filter_subset_self _)
  | abandon n =>
      cases next
      exact .of_same (.of_eq rfl) le_rfl (fun _ h _ _ => (eraseIdx_sublist _ _).subset h)
        (List.Subset.refl _)
  | restart =>
      cases next
      exact .of_same (.of_eq rfl) le_rfl (fun _ h => absurd h not_mem_nil)
        (nil_subset _)

end Step

/-! ## The invariant -/

section Invariant

variable {parser : MetadataParser} {text : MetadataText} {settings : StripeSettings}
  {returnUrl : String} {w w' : World} {finished : List String}

/-- A session the process was told is finished is on record; no request holds it back and no
    slot of the cache may hand it out. -/
structure Dropped (w : World) (sessionId : String) : Prop where
  noted : Noted w.purchases.db sessionId
  pending : ¬ w.Pending sessionId
  reusable : ¬ w.Reusable sessionId

theorem Dropped.step (dropped : Dropped w sessionId) (change : Change w w') :
    Dropped w' sessionId where
  noted := dropped.noted.kept change.quotes
  pending held := by
    rcases change.pending sessionId held with before | unrecorded
    · exact dropped.pending before
    · exact unrecorded dropped.noted
  reusable held := by
    rcases change.reusable sessionId held with before | pending
    · exact dropped.reusable before
    · exact dropped.pending pending

/-- What a status read took from the record of its session. -/
def StatusRead.Of (read : StatusRead) (db : Db) : Prop :=
  ∃ intent ∈ db.stripeCheckoutIntents, intent.stripeSessionId = read.sessionId ∧
    intent.userId = read.userId ∧ intent.expectedAmountCents = read.grossCents

theorem StatusRead.Of.kept (h : read.Of db) (kept : ZeroRouter.Checkout.QuotesKept db db') :
    read.Of db' := by
  obtain ⟨intent, hintent, session, user, cents⟩ := h
  obtain ⟨new, hnew, same⟩ := kept intent hintent
  exact ⟨new, hnew, same.stripeSessionId.trans session, same.userId.trans user,
    same.expectedAmountCents.trans cents⟩

structure Shop.Inv (parser : MetadataParser) (text : MetadataText) (settings : StripeSettings)
    (returnUrl : String) (shop : Shop) : Prop where
  portal : Portal.Inv parser text settings returnUrl shop.portal
  reads : ∀ read ∈ shop.reads, read.Of shop.portal.purchases.db
  dropped : ∀ sessionId ∈ shop.finished, Dropped shop.portal sessionId

theorem Shop.Inv.opening (h : shop.Opening) :
    shop.Inv parser text settings returnUrl where
  portal := .opening h.portal
  reads := by simp [h.reads]
  dropped := by simp [h.finished]

/-- The session of a slot is the slot's own: forgetting it at its record's user and gross clears
    every slot that holds it. -/
theorem not_reusable_forgetSession (inv : Portal.Inv parser text settings returnUrl w)
    (of : read.Of w.purchases.db) :
    ¬ { w with
        cache := w.cache.forgetSession read.userId read.grossCents read.sessionId }.Reusable
        read.sessionId := by
  rintro ⟨slot, hslot, same, -⟩
  obtain ⟨before, kept⟩ := mem_filter.mp hslot
  obtain ⟨sale, hsale, session, key⟩ := inv.cache slot before
  obtain ⟨intent, hintent, ofSession, ofUser, ofCents⟩ := of
  obtain ⟨sold, hsold, soldSession, soldUser, soldCents, -⟩ := (inv.sales sale hsale).recorded
  have one : sold = intent := by
    refine Table.eq_of_clash hsold hintent ?_
    show sold.stripeSessionId = intent.stripeSessionId
    rw [soldSession, session, same, ofSession]
  subst one
  have user : slot.1.1 = read.userId := by
    rw [← key, ← ofUser, soldUser]
    rfl
  have cents : slot.1.2.2 = read.grossCents := by
    rw [← key, ← ofCents, soldCents]
    rfl
  simp [user, cents, same] at kept

/-- A credit is for a session on record. -/
theorem noted_of_credits (inv : shop.Inv parser text settings returnUrl)
    (h : sessionId ∈ shop.credits visit) :
    Noted shop.portal.purchases.db sessionId := by
  unfold Shop.credits at h
  split at h
  · split at h
    · next event purchase found =>
        split at h
        · cases h
          have passed := inv.portal.purchases.passed _ (mem_of_getElem? found) purchase rfl
          obtain ⟨intent, stored, -⟩ := corroborate_ok passed
          obtain ⟨hintent, same⟩ := ZeroRouter.Checkout.checkoutIntent_eq_some.mp stored
          exact ⟨intent, hintent, same⟩
        · cases h
    · cases h
  · cases h

/-- A visit to the portal is a step of the portal, and leaves the status reads or loses them. -/
theorem move_portal (h : shop.move parser text settings returnUrl (.portal action) = some next) :
    step parser text settings returnUrl shop.portal action = some next.portal ∧
      next.reads ⊆ shop.reads ∧ next.finished = shop.finished := by
  cases action with
  | forgetSession => cases h
  | restart =>
      cases h
      exact ⟨rfl, nil_subset _, rfl⟩
  | purchases | createCheckout | lookup | createSession | recordIntent | cacheSession | abandon =>
      simp only [Shop.move, map_eq_some_iff] at h
      obtain ⟨portal, hportal, rfl⟩ := h
      exact ⟨hportal, List.Subset.refl _, rfl⟩

/-- A visit that neither moves the portal nor tells anything. -/
theorem Shop.Inv.quiet (inv : shop.Inv parser text settings returnUrl)
    (portal : next.portal = shop.portal)
    (reads : ∀ read ∈ next.reads, read ∈ shop.reads ∨ read.Of shop.portal.purchases.db)
    (finished : next.finished = shop.finished) : next.Inv parser text settings returnUrl where
  portal := by
    rw [portal]
    exact inv.portal
  reads read hread := by
    rw [portal]
    rcases reads read hread with before | fresh
    · exact inv.reads read before
    · exact fresh
  dropped sessionId h := by
    rw [portal]
    rw [finished] at h
    exact inv.dropped sessionId h

theorem runCheckoutStatus_quiet (shop : Shop) (userId : Uuid) (sessionId : String)
    (readable : Bool) :
    (shop.runCheckoutStatus userId sessionId readable).portal = shop.portal ∧
      (∀ read ∈ (shop.runCheckoutStatus userId sessionId readable).reads,
        read ∈ shop.reads ∨ read.Of shop.portal.purchases.db) ∧
      (shop.runCheckoutStatus userId sessionId readable).finished = shop.finished := by
  unfold Shop.runCheckoutStatus
  split
  · exact ⟨rfl, fun _ h => .inl h, rfl⟩
  split
  · exact ⟨rfl, fun _ h => .inl h, rfl⟩
  split
  · exact ⟨rfl, fun _ h => .inl h, rfl⟩
  next intent found =>
    split
    · exact ⟨rfl, fun _ h => .inl h, rfl⟩
    · refine ⟨rfl, fun read h => ?_, rfl⟩
      rcases mem_cons.mp h with rfl | before
      · have stored := (filter_eq_some_iff.mp found).1
        exact .inr ⟨intent, (ZeroRouter.Checkout.checkoutIntent_eq_some.mp stored).1, rfl, rfl, rfl⟩
      · exact .inl before

theorem Shop.Inv.portalStep (inv : shop.Inv parser text settings returnUrl)
    (timely : Visit.Timely shop (.portal action))
    (h : shop.move parser text settings returnUrl (.portal action) = some next) :
    Shop.Inv parser text settings returnUrl
      { next with finished := (shop.learns (.portal action)).toList ++ shop.finished } := by
  obtain ⟨moved, reads, -⟩ := move_portal h
  have change := step_change moved
  refine ⟨inv.portal.step moved, fun read hread => (inv.reads read (reads hread)).kept
    change.quotes, fun sessionId told => ?_⟩
  rcases mem_append.mp told with credited | before
  · have credited : sessionId ∈ shop.credits (.portal action) := mem_toList.mp credited
    have dropped : Dropped shop.portal sessionId :=
      ⟨noted_of_credits inv credited, timely.answered sessionId credited,
        timely.credited sessionId credited⟩
    exact dropped.step change
  · exact (inv.dropped sessionId before).step change

/-- Stripe says that the session of a read is no longer open. -/
theorem Shop.Inv.forget (inv : shop.Inv parser text settings returnUrl) (mem : read ∈ shop.reads)
    (answered : ¬ shop.portal.Pending read.sessionId) {reads : List StatusRead}
    (fewer : reads ⊆ shop.reads) {statuses : StatusCache}
    {shown : List (String × Except StatusFailure String)} :
    Shop.Inv parser text settings returnUrl
      { portal :=
          { shop.portal with
            cache := shop.portal.cache.forgetSession read.userId read.grossCents read.sessionId }
        reads, statuses, shown, finished := read.sessionId :: shop.finished } := by
  have moved : Portal.step parser text settings returnUrl shop.portal
      (.forgetSession read.userId read.grossCents read.sessionId) =
      some { shop.portal with
        cache := shop.portal.cache.forgetSession read.userId read.grossCents read.sessionId } := rfl
  refine ⟨inv.portal.step moved, fun other hother => inv.reads other (fewer hother),
    fun sessionId told => ?_⟩
  rcases mem_cons.mp told with rfl | before
  · obtain ⟨intent, hintent, same, -⟩ := inv.reads read mem
    exact ⟨⟨intent, hintent, same⟩, answered,
      not_reusable_forgetSession inv.portal (inv.reads read mem)⟩
  · exact (inv.dropped sessionId before).step (step_change moved)

theorem Shop.Inv.step {shop' : Shop} (inv : shop.Inv parser text settings returnUrl)
    (timely : visit.Timely shop) (h : shop.step parser text settings returnUrl visit = some shop') :
    shop'.Inv parser text settings returnUrl := by
  obtain ⟨next, hnext, rfl⟩ := map_eq_some_iff.mp h
  cases visit with
  | portal action => exact inv.portalStep timely hnext
  | checkoutStatus userId sessionId readable =>
      cases hnext
      obtain ⟨portal, reads, -⟩ := runCheckoutStatus_quiet shop userId sessionId readable
      exact inv.quiet portal reads rfl
  | sessionStatus n status =>
      obtain ⟨read, found, rfl⟩ := map_eq_some_iff.mp hnext
      have mem : read ∈ shop.reads := mem_of_getElem? found
      have fewer : shop.reads.eraseIdx n ⊆ shop.reads := (eraseIdx_sublist _ _).subset
      cases status with
      | none => exact inv.quiet rfl (fun _ hread => .inl (fewer hread)) rfl
      | some status =>
          by_cases isOpen : status = "open"
          · have nothing : shop.learns (.sessionStatus n (some status)) = none := if_pos isOpen
            rw [nothing]
            subst isOpen
            exact inv.quiet rfl (fun _ hread => .inl (fewer hread)) rfl
          · have told : shop.learns (.sessionStatus n (some status)) = some read.sessionId := by
              show (if status = "open" then none else shop.reads[n]?.map StatusRead.sessionId) = _
              rw [if_neg isOpen, found]
              rfl
            have answered := timely.answered read.sessionId told
            rw [told]
            unfold Shop.runSessionStatus
            simp only [isOpen, ne_eq, not_false_eq_true, if_true]
            exact inv.forget mem answered fewer
  | abandonStatus n =>
      cases hnext
      have fewer : shop.reads.eraseIdx n ⊆ shop.reads := (eraseIdx_sublist _ _).subset
      exact inv.quiet rfl (fun _ hread => .inl (fewer hread)) rfl

/-! ## Handing out -/

/-- The step answers a request with this session. -/
def HandsOut (w w' : World) (session : CheckoutSession) : Prop :=
  ∃ request, w'.answers = (request, .ok session) :: w.answers

theorem not_handsOut_of_answers (same : w'.answers = w.answers) :
    ¬ HandsOut w w' session := by
  rintro ⟨request, h⟩
  rw [same] at h
  exact absurd h.symm (cons_ne_self _ _)

theorem not_handsOut_of_error {request : CheckoutRequest} {failure : CheckoutFailure}
    (failed : w'.answers = (request, .error failure) :: w.answers) :
    ¬ HandsOut w w' session := by
  rintro ⟨other, h⟩
  rw [failed] at h
  cases h

/-- A session is handed out of the cache, or by the request that made it. -/
theorem handsOut_source (next : step parser text settings returnUrl w action = some w')
    (out : HandsOut w w' session) : w.Reusable session.id ∨ w.Pending session.id := by
  unfold Portal.step at next
  cases action with
  | purchases action =>
      obtain ⟨purchases, -, rfl⟩ := map_eq_some_iff.mp next
      exact absurd out (not_handsOut_of_answers rfl)
  | createCheckout request =>
      cases next
      unfold World.runCreateCheckout at out
      split at out
      · exact absurd out (not_handsOut_of_error rfl)
      · exact absurd out (not_handsOut_of_answers rfl)
  | lookup n =>
      simp only at next
      split at next
      · next checkout found =>
          split at next <;> cases next
          unfold World.runLookup at out
          split at out
          · next reused hreused =>
              obtain ⟨request, hout⟩ := out
              cases hout
              obtain ⟨entry, hentry, rfl⟩ := map_eq_some_iff.mp hreused
              obtain ⟨hlookup, young⟩ := filter_eq_some_iff.mp hentry
              obtain ⟨before, after, split, -⟩ := lookup_eq_some_iff.mp hlookup
              refine .inl ⟨(checkout.params.reuseKey, entry), ?_, rfl, of_decide_eq_true young⟩
              rw [split]
              exact mem_append_right before mem_cons_self
          · exact absurd out (not_handsOut_of_answers rfl)
      · cases next
  | createSession n response =>
      simp only at next
      split at next
      · split at next <;> cases next
        unfold World.runCreateSession at out
        split at out
        · exact absurd out (not_handsOut_of_answers rfl)
        · exact absurd out (not_handsOut_of_error rfl)
      · cases next
  | recordIntent n now fate =>
      simp only at next
      split at next
      · split at next
        · split at next <;> cases next
          unfold World.runRecordIntent at out
          split at out
          · exact absurd out (not_handsOut_of_answers rfl)
          · exact absurd out (not_handsOut_of_error rfl)
          · exact absurd out (not_handsOut_of_error rfl)
        · cases next
      · cases next
  | cacheSession n =>
      simp only at next
      split at next
      · next checkout found =>
          split at next
          · next made stage =>
              cases next
              obtain ⟨request, hout⟩ := out
              cases hout
              refine .inr ⟨checkout, mem_of_getElem? found, ?_⟩
              rw [stage]
              exact rfl
          · cases next
      · cases next
  | forgetSession userId grossCents sessionId =>
      cases next
      exact absurd out (not_handsOut_of_answers rfl)
  | abandon n =>
      cases next
      exact absurd out (not_handsOut_of_answers rfl)
  | restart =>
      cases next
      exact absurd out (not_handsOut_of_answers rfl)

end Invariant

section Claim

variable {parser : MetadataParser} {text : MetadataText} {settings : StripeSettings}
  {returnUrl : String}

/-- Where every session is told finished only after its secret was handed out, and credited no
    sooner than the cache has let go of it, the session a request is answered with was never
    told finished. -/
theorem finished_session_not_handed_out {shop₀ shop shop' : Shop} (opening : shop₀.Opening)
    (run : Transition.Steps (Shop.step parser text settings returnUrl)
      (fun shop visit => visit.Timely shop) shop₀ shop)
    {visit : Visit} (next : shop.step parser text settings returnUrl visit = some shop')
    {session : CheckoutSession} (out : HandsOut shop.portal shop'.portal session) :
    session.id ∉ shop'.finished := by
  have inv : shop.Inv parser text settings returnUrl :=
    run.invariant (.opening opening) fun _ _ _ inv timely step => inv.step timely step
  obtain ⟨after, moved, rfl⟩ := Option.map_eq_some_iff.mp next
  cases visit with
  | portal action =>
      obtain ⟨stepped, -, -⟩ := move_portal moved
      have quiet : shop.learns (.portal action) = none := by
        cases action with
        | purchases action =>
            obtain ⟨purchases, -, same⟩ := Option.map_eq_some_iff.mp stepped
            refine absurd out (not_handsOut_of_answers ?_)
            show after.portal.answers = shop.portal.answers
            rw [← same]
        | createCheckout | lookup | createSession | recordIntent | cacheSession | forgetSession
        | abandon | restart => rfl
      rw [quiet]
      intro finished
      have dropped := inv.dropped session.id finished
      rcases handsOut_source stepped out with reusable | pending
      · exact dropped.reusable reusable
      · exact dropped.pending pending
  | checkoutStatus userId sessionId readable =>
      cases moved
      refine absurd out (not_handsOut_of_answers ?_)
      show (shop.runCheckoutStatus userId sessionId readable).portal.answers = _
      rw [(runCheckoutStatus_quiet shop userId sessionId readable).1]
  | sessionStatus n status =>
      obtain ⟨read, -, rfl⟩ := Option.map_eq_some_iff.mp moved
      refine absurd out (not_handsOut_of_answers ?_)
      cases status with
      | none => rfl
      | some status =>
          by_cases isOpen : status = "open" <;>
            simp [Shop.runSessionStatus, Shop.respond, isOpen]
  | abandonStatus n =>
      cases moved
      exact absurd out (not_handsOut_of_answers rfl)

end Claim

/-! A $5 session that is paid, credited, and asked for again within its ten minutes; and one
that the return page asked about in between. -/

def openShop : Shop where
  portal :=
    { purchases :=
        { db := .fresh ZeroRouter.Checkout.oneBuyer .empty
          clock := 0
          deliveries := []
          delivered := []
          answers := [] }
      checkouts := []
      cache := []
      sales := []
      answers := [] }
  reads := []
  statuses := []
  finished := []
  shown := []

theorem openShop_opening : openShop.Opening where
  portal :=
    ⟨⟨fun _ hrow => absurd hrow not_mem_nil, rfl⟩,
      fun _ hrow => absurd hrow not_mem_nil, rfl, rfl, rfl, rfl⟩
  reads := rfl
  statuses := rfl
  finished := rfl

/-- The event of a paid $5 session. -/
def paidFive : StripeEvent where
  eventType := "checkout.session.completed"
  object := .object
    [("id", .string "cs_1"), ("payment_status", .string "paid"), ("currency", .string "usd"),
      ("metadata", .object
        [("user_id", .string "1"), ("credit_usd", .string "5"), ("fee_usd", .string "0.80"),
          ("gross_usd", .string "5.80")]),
      ("amount_total", .integer 580),
      ("total_details", .object [("amount_tax", .integer 0)])]

def fiveParser : MetadataParser where
  uuid text := if text = "1" then some 1 else none
  decimal text := if text = "5" then some 5 else none

theorem cs_1_isSessionId : "cs_".toList <+: "cs_1".toList := by decide

theorem cs_2_isSessionId : "cs_".toList <+: "cs_2".toList := by decide

def buyFive : List Visit :=
  [.portal (.createCheckout (depositOf none)), .portal (.lookup 0),
    .portal (.createSession 0 (some ⟨"cs_1", "secret_1", cs_1_isSessionId⟩)),
    .portal (.recordIntent 0 0 .commit), .portal (.cacheSession 0)]

def creditFive : List Visit :=
  [.portal (.purchases (.deliver paidFive)), .portal (.purchases (.checkoutIntent 0)),
    .portal (.purchases (.creditPurchase 0 0 .commit)),
    .portal (.purchases (.settleCheckoutIntent 0 0 .commit)),
    .portal (.createCheckout (depositOf none))]

/-- The session a step answers with. -/
def handedOut (w w' : World) : Option CheckoutSession :=
  match w'.answers with
  | (_, .ok session) :: rest => if rest = w.answers then some session else none
  | _ => none

theorem handsOut_of_handedOut {w w' : World} (h : handedOut w w' = some session) :
    HandsOut w w' session := by
  unfold handedOut at h
  split at h
  · next request made rest answered =>
      split at h
      · next same =>
          cases h
          exact ⟨request, by rw [answered, same]⟩
      · cases h
  · cases h

abbrev fiveStep : Shop → Visit → Option Shop :=
  Shop.step fiveParser plainText fiveToThousand "/credits/return"

/-- The next visit hands out `sessionId`, the process having been told of `finished`. -/
def handsOutNext (visit : Visit) (sessionId : String) (finished : List String) (shop : Shop) :
    Bool :=
  (fiveStep shop visit).any fun shop' =>
    (handedOut shop.portal shop'.portal).map CheckoutSession.id = some sessionId ∧
      shop'.finished = finished

theorem handsOutNext_spec {finished : List String}
    (h : handsOutNext visit sessionId finished shop = true) :
    ∃ shop' session, fiveStep shop visit = some shop' ∧
      HandsOut shop.portal shop'.portal session ∧ session.id = sessionId ∧
      shop'.finished = finished := by
  obtain ⟨shop', next, hout⟩ := (any_eq_true _ _).mp h
  obtain ⟨out, told⟩ := of_decide_eq_true hout
  obtain ⟨session, handed, same⟩ := map_eq_some_iff.mp out
  exact ⟨shop', session, next, handsOut_of_handedOut handed, same, told⟩

theorem credited_session_handed_out :
    ¬ ∀ (parser : MetadataParser) (text : MetadataText) (settings : StripeSettings)
      (returnUrl : String) (shop₀ shop shop' : Shop) (visit : Visit) (session : CheckoutSession),
      shop₀.Opening →
      Transition.Steps (Shop.step parser text settings returnUrl) Transition.anyStep shop₀ shop →
      shop.step parser text settings returnUrl visit = some shop' →
      HandsOut shop.portal shop'.portal session → session.id ∉ shop'.finished := by
  intro claim
  have runs : (Transition.runWhile fiveStep Transition.anyStep openShop
      (buyFive ++ creditFive)).any (handsOutNext (.portal (.lookup 0)) "cs_1" ["cs_1"]) = true := by
    decide +kernel
  obtain ⟨shop, run, hnext⟩ := Transition.Steps.exists_of_runWhile runs
  obtain ⟨shop', session, next, out, same, told⟩ := handsOutNext_spec hnext
  have fresh := claim _ _ _ _ _ _ _ _ _ openShop_opening run next out
  rw [told, same] at fresh
  exact fresh List.mem_cons_self

/-- Between the payment and the credit the return page asked. -/
def askedFive : List Visit :=
  buyFive ++ [.checkoutStatus 1 "cs_1" true, .sessionStatus 0 (some "complete")] ++ creditFive ++
    [.portal (.lookup 0), .portal (.createSession 0 (some ⟨"cs_2", "secret_2", cs_2_isSessionId⟩)),
      .portal (.recordIntent 0 0 .commit)]

theorem finished_session_not_handed_out_asked :
    ∃ shop shop' session,
      Transition.Steps fiveStep (fun shop visit => visit.Timely shop) openShop shop ∧
        fiveStep shop (.portal (.cacheSession 0)) = some shop' ∧
        HandsOut shop.portal shop'.portal session ∧ session.id = "cs_2" ∧
        shop'.finished = ["cs_1", "cs_1"] ∧ session.id ∉ shop'.finished := by
  have runs : (Transition.runWhile fiveStep (fun shop visit => visit.Timely shop) openShop
      askedFive).any (handsOutNext (.portal (.cacheSession 0)) "cs_2" ["cs_1", "cs_1"]) =
      true := by
    decide +kernel
  obtain ⟨shop, run, hnext⟩ := Transition.Steps.exists_of_runWhile runs
  obtain ⟨shop', session, next, out, same, told⟩ := handsOutNext_spec hnext
  exact ⟨shop, shop', session, run, next, out, same, told,
    finished_session_not_handed_out openShop_opening run next out⟩

end ZeroRouter.Portal
