import ZeroRouter.Billing.Standing
import ZeroRouter.Proofs.DepositFee

/-!
# What stays true of a standing

What an operation keeps is `Later`: rows stay, tombstones only grow, a held account
stays held.  What is always true is `Sound`: every row is anchored on what Stripe has
under its ids, a refund takes back the credit of its intent and only once, and a
tombstone that has met a credit has had its effect.

A credit breaks the last of these for the tombstones that were waiting for it, until it has
come to each; `Sound` leaves a list of them out.
-/

namespace ZeroRouter

open List Relational

variable {event : ReversalEvent} {row : CreditLedger} {objectId : String} {creditedUsd : Decimal}
  {paymentIntentId : String} {isDispute : Bool} {currency : Option String}

/-! ## Covering a credit -/

/-- An amount in whole cents rounds to its cents. -/
theorem floor_of_usdToCents {amountUsd : Decimal} {cents : Int}
    (h : usdToCents amountUsd = some (some cents)) : ⌊amountUsd * 100 + 1 / 2⌋ = cents := by
  obtain ⟨integral, -, -⟩ := usdToCents_eq_some.mp h
  rw [integral, Int.floor_eq_iff]
  constructor <;> norm_num

/-- An event's amount covers a credit. -/
def ReversalEvent.covers (event : ReversalEvent) (creditedUsd : Decimal) : Prop :=
  event.currency = some "usd" ∧
    ∃ cents ∈ event.reversedCents, ⌊creditedUsd * 100 + 1 / 2⌋ ≤ cents

instance (event : ReversalEvent) (creditedUsd : Decimal) : Decidable (event.covers creditedUsd) :=
  inferInstanceAs (Decidable (_ ∧ ∃ cents ∈ event.reversedCents, _))

/-- On whole cents the handler and the credit's transaction judge alike. -/
theorem coversTheCredit_eq (whole : WholeCents creditedUsd) :
    event.coversTheCredit creditedUsd = some (decide (event.covers creditedUsd)) := by
  obtain ⟨cents, hcents⟩ := whole
  have judged : event.covers creditedUsd ↔
      event.currency = some checkoutCurrency ∧
        ∃ reversed ∈ event.reversedCents, cents ≤ reversed := by
    unfold ReversalEvent.covers
    rw [floor_of_usdToCents hcents]
    rfl
  unfold ReversalEvent.coversTheCredit
  rw [hcents, Option.map_some]
  refine congrArg some (Bool.eq_iff_iff.mpr ?_)
  rw [decide_eq_true_iff, judged]
  cases event.reversedCents <;> cases event.currency <;> simp

namespace Billing

/-! ## What an operation keeps -/

/-- Frozen, or thawed by an operator since. -/
def Standing.held (s : Standing) (unfrozen : List Uuid) (userId : Uuid) : Prop :=
  (∃ reason, s.account userId = some (some reason)) ∨ userId ∈ unfrozen

/-- An amount that may be missing is no smaller than another. -/
def NoLess (cents reported : Option Int) : Prop := ∀ c ∈ reported, ∃ c' ∈ cents, c ≤ c'

theorem NoLess.refl (cents : Option Int) : NoLess cents cents := fun c hc => ⟨c, hc, le_rfl⟩

theorem NoLess.trans {a b c : Option Int} (hab : NoLess a b) (hbc : NoLess b c) : NoLess a c := by
  intro x hx
  obtain ⟨y, hy, hxy⟩ := hbc x hx
  obtain ⟨z, hz, hyz⟩ := hab y hy
  exact ⟨z, hz, hxy.trans hyz⟩

/-- `GREATEST` is one of the two, and no smaller than either. -/
theorem greatestCents_eq (a b : Option Int) :
    (greatestCents a b = a ∨ greatestCents a b = b) ∧
      NoLess (greatestCents a b) a ∧ NoLess (greatestCents a b) b := by
  rcases a with _ | a <;> rcases b with _ | b
  · exact ⟨.inl rfl, .refl _, .refl _⟩
  · exact ⟨.inr rfl, (fun _ hc => nomatch hc), .refl _⟩
  · exact ⟨.inl rfl, .refl _, fun _ hc => nomatch hc⟩
  · refine ⟨?_, ?_, ?_⟩
    · rcases max_choice a b with left | right <;> simp [greatestCents, *]
    · intro c hc
      cases hc
      exact ⟨max a b, rfl, le_max_left a b⟩
    · intro c hc
      cases hc
      exact ⟨max a b, rfl, le_max_right a b⟩

/-- A later standing. -/
structure Later (unfrozen unfrozen' : List Uuid) (s s' : Standing) : Prop where
  rows : ∀ row ∈ s.rows, row ∈ s'.rows
  tombstones : ∀ tombstone ∈ s.tombstones, ∃ tombstone' ∈ s'.tombstones,
    tombstone'.objectId = tombstone.objectId ∧
      NoLess tombstone'.reversedCents tombstone.reversedCents
  known : ∀ userId, (s.account userId).isSome = true → (s'.account userId).isSome = true
  held : ∀ userId, s.held unfrozen userId → s'.held unfrozen' userId

section Later

variable {s s' s'' : Standing} {u u' u'' : List Uuid} {now : Timestamp} {userId : Uuid}

theorem Later.refl (u : List Uuid) (s : Standing) : Later u u s s :=
  ⟨fun _ h => h, fun t ht => ⟨t, ht, rfl, .refl _⟩, fun _ h => h, fun _ h => h⟩

theorem Later.trans (first : Later u u' s s') (second : Later u' u'' s' s'') :
    Later u u'' s s'' := by
  refine ⟨fun row h => second.rows row (first.rows row h), fun t ht => ?_,
    fun user h => second.known user (first.known user h),
    fun user h => second.held user (first.held user h)⟩
  obtain ⟨t', ht', same, grows⟩ := first.tombstones t ht
  obtain ⟨t'', ht'', same', grows'⟩ := second.tombstones t' ht'
  exact ⟨t'', ht'', same'.trans same, grows'.trans grows⟩

theorem later_enter (row : CreditLedger) : Later u u s (s.enter row) := by
  unfold Standing.enter
  split
  · exact ⟨fun _ h => mem_append_left _ h, (Later.refl u s).tombstones, fun _ h => h,
      fun _ h => h⟩
  · exact .refl u s

/-- A change of one account keeps the others. -/
theorem later_account {g : Option FrozenReason → Option FrozenReason}
    (held : ∀ reason, (g (some reason)).isSome = true ∨ userId ∈ u') (grows : ∀ x ∈ u, x ∈ u') :
    Later u u' s { s with account := Function.update s.account userId ((s.account userId).map g) } := by
  refine ⟨fun _ h => h, (Later.refl u s).tombstones, ?_, ?_⟩
  · intro other known
    by_cases same : other = userId
    · subst same
      simpa [Function.update_self] using known
    · simpa [Function.update_of_ne same] using known
  · rintro other (⟨reason, frozen⟩ | thawed)
    · by_cases same : other = userId
      · subst same
        rcases held reason with still | thawed
        · obtain ⟨reason', hreason⟩ := Option.isSome_iff_exists.mp still
          exact .inl ⟨reason', by simp [Function.update_self, frozen, hreason]⟩
        · exact .inr thawed
      · exact .inl ⟨reason, by simp [Function.update_of_ne same, frozen]⟩
    · exact .inr (grows other thawed)

theorem later_freeze (reason : FrozenReason) : Later u u s (s.freeze userId reason) :=
  later_account (fun _ => .inl rfl) fun _ h => h

theorem later_unfreeze : Later u (userId :: u) s (s.unfreeze userId) :=
  later_account (fun _ => .inr mem_cons_self) fun _ h => mem_cons_of_mem _ h

theorem later_observe (event : ReversalEvent) : Later u u s (s.observe now event) := by
  refine ⟨fun _ h => h, fun t ht => ?_, fun _ h => h, fun _ h => h⟩
  unfold Standing.observe
  split
  · refine ⟨_, mem_map_of_mem ht, ?_⟩
    unfold Table.rewrite
    split
    · exact ⟨rfl, (greatestCents_eq event.reversedCents t.reversedCents).2.2⟩
    · exact ⟨rfl, .refl _⟩
  · exact ⟨t, mem_append_left _ ht, rfl, .refl _⟩

theorem later_stamp (p : StripeObservedReversal → Prop) [DecidablePred p] :
    Later u u s (s.stamp now p) := by
  refine ⟨fun _ h => h, fun t ht => ⟨_, mem_map_of_mem ht, ?_⟩, fun _ h => h, fun _ h => h⟩
  unfold Table.rewrite
  split <;> exact ⟨rfl, .refl _⟩

theorem later_dispute (tombstone : StripeObservedReversal) :
    Later u u s (s.dispute userId tombstone) := by
  unfold Standing.dispute
  split
  · exact later_freeze _
  · exact .refl u s

theorem later_takeBack (paymentIntentId : String) (creditedUsd : Decimal)
    (tombstone : StripeObservedReversal) :
    Later u u s (s.takeBack userId paymentIntentId creditedUsd tombstone) := by
  unfold Standing.takeBack
  split
  · exact later_enter _
  · exact .refl u s

theorem later_meet (paymentIntentId : String) (creditedUsd : Decimal)
    (tombstone : StripeObservedReversal) :
    Later u u s (s.meet now userId paymentIntentId creditedUsd tombstone) := by
  have taken : Later u u s ((s.dispute userId tombstone).takeBack userId paymentIntentId
      creditedUsd tombstone) := (later_dispute tombstone).trans (later_takeBack _ _ tombstone)
  unfold Standing.meet
  dsimp only
  split
  · exact taken.trans (later_stamp _)
  · exact taken

theorem later_meetAll (paymentIntentId : String) (creditedUsd : Decimal) :
    Later u u s (s.meetAll now userId paymentIntentId creditedUsd) := by
  unfold Standing.meetAll
  generalize s.waiting paymentIntentId = tombstones
  induction tombstones generalizing s with
  | nil => exact .refl u s
  | cons first rest ih => exact (later_meet _ _ first).trans ih

theorem later_credit (row : CreditLedger) (paymentIntent : Option String) :
    Later u u s (s.credit now row paymentIntent) := by
  cases paymentIntent with
  | none => exact later_enter row
  | some paymentIntentId => exact (later_enter row).trans (later_meetAll _ _)

end Later

/-! ## What is always true -/

section Sound

variable (stripe : StripeObjects)

def IsIntent (paymentIntentId : String) : Prop :=
  ∃ session, stripe.object paymentIntentId = .paymentIntent session

/-- An event says of its object what Stripe has under its id. -/
def Authentic (event : ReversalEvent) : Prop :=
  stripe.object event.objectId = .reversal event.paymentIntent event.isDispute event.currency

/-- A row's ids are of the objects its type says they are. -/
def Anchored (row : CreditLedger) : Prop :=
  match row.entryType with
  | .purchase => ∃ session, row.stripeSessionId = some session ∧
      stripe.object session = .session row.stripePaymentIntentId ∧
      ∀ paymentIntentId ∈ row.stripePaymentIntentId,
        stripe.object paymentIntentId = .paymentIntent (some session)
  | .autopay => row.stripePaymentIntentId = none ∧
      ∃ paymentIntentId, row.stripeSessionId = some paymentIntentId ∧
        stripe.object paymentIntentId = .paymentIntent none
  | .refund => ∃ objectId paymentIntentId isDispute currency,
      row.stripeSessionId = some objectId ∧ row.stripePaymentIntentId = some paymentIntentId ∧
        stripe.object objectId = .reversal paymentIntentId isDispute currency
  | _ => False

/-- What anchors the credit of an intent. -/
def anchorOf (paymentIntentId : String) : String :=
  match stripe.object paymentIntentId with
  | .paymentIntent (some session) => session
  | _ => paymentIntentId

variable {stripe}

theorem anchor_of_credits (anchored : Anchored stripe row) (credits : row.credits paymentIntentId) :
    row.stripeSessionId = some (anchorOf stripe paymentIntentId) := by
  obtain ⟨purchase | autopay, named⟩ := credits
  · simp only [Anchored, purchase] at anchored
    obtain ⟨session, anchor, object, intents⟩ := anchored
    rcases named with intent | self
    · have belongs := intents paymentIntentId intent
      rw [anchor]
      simp [anchorOf, belongs]
    · obtain rfl : session = paymentIntentId := Option.some.inj (anchor.symm.trans self)
      rw [anchor]
      simp [anchorOf, object]
  · simp only [Anchored, autopay] at anchored
    obtain ⟨noIntent, session, anchor, object⟩ := anchored
    rcases named with intent | self
    · rw [noIntent] at intent
      cases intent
    · obtain rfl : session = paymentIntentId := Option.some.inj (anchor.symm.trans self)
      rw [anchor]
      simp [anchorOf, object]

/-- Only the refund of an intent is anchored on a reversal of it. -/
theorem refunds_of_anchor (anchored : Anchored stripe row)
    (object : stripe.object objectId = .reversal paymentIntentId isDispute currency)
    (anchor : row.stripeSessionId = some objectId) : row.refunds paymentIntentId := by
  unfold Anchored at anchored
  split at anchored
  · obtain ⟨session, anchor', object', -⟩ := anchored
    obtain rfl : session = objectId := Option.some.inj (anchor'.symm.trans anchor)
    rw [object] at object'
    cases object'
  · obtain ⟨-, session, anchor', object'⟩ := anchored
    obtain rfl : session = objectId := Option.some.inj (anchor'.symm.trans anchor)
    rw [object] at object'
    cases object'
  next refund =>
    obtain ⟨objectId', paymentIntentId', _, _, anchor', intent, object'⟩ := anchored
    obtain rfl : objectId' = objectId := Option.some.inj (anchor'.symm.trans anchor)
    rw [object] at object'
    cases object'
    exact ⟨refund, intent⟩
  · exact anchored.elim

/-- The intent's credit was taken back. -/
def Standing.refunded (s : Standing) (paymentIntentId : String) : Prop :=
  ∃ row ∈ s.rows, row.refunds paymentIntentId

/-- An event was recorded as a tombstone. -/
structure RecordedAs (event : ReversalEvent) (tombstone : StripeObservedReversal) : Prop where
  objectId : event.objectId = tombstone.objectId
  paymentIntent : event.paymentIntent = tombstone.paymentIntentId
  isDispute : event.isDispute = tombstone.isDispute
  currency : event.currency = tombstone.currency
  reversedCents : event.reversedCents = tombstone.reversedCents

theorem RecordedAs.covers {tombstone : StripeObservedReversal}
    (recorded : RecordedAs event tombstone) :
    event.covers creditedUsd ↔ tombstone.covers creditedUsd := by
  unfold ReversalEvent.covers StripeObservedReversal.covers
  rw [recorded.currency, recorded.reversedCents]

/-- A tombstone has had its effect on the credit it was for. -/
def Met (unfrozen : List Uuid) (s : Standing) (tombstone : StripeObservedReversal) : Prop :=
  ∀ credit ∈ s.rows, credit.credits tombstone.paymentIntentId →
    (tombstone.covers credit.amountUsd → s.refunded tombstone.paymentIntentId) ∧
      (tombstone.isDispute = true → s.held unfrozen credit.userId)

/-- A refund has its reason: a credit, and an event that covers it. -/
def Taken (delivered : List ReversalEvent) (s : Standing) (row : CreditLedger)
    (paymentIntentId : String) : Prop :=
  ∃ credit ∈ s.rows, credit.credits paymentIntentId ∧ row.userId = credit.userId ∧
    row.amountUsd = -credit.amountUsd ∧
    ∃ event ∈ delivered, event.paymentIntent = paymentIntentId ∧ event.covers credit.amountUsd

/-- A dispute of a user's credit was delivered. -/
def Disputed (delivered : List ReversalEvent) (s : Standing) (userId : Uuid) : Prop :=
  ∃ event ∈ delivered, event.isDispute = true ∧
    ∃ credit ∈ s.rows, credit.credits event.paymentIntent ∧ credit.userId = userId

variable (stripe) in
/-- The invariant, but for the tombstones of the objects `left`. -/
structure Sound (opening : Standing) (delivered : List ReversalEvent) (unfrozen : List Uuid)
    (left : List String) (s : Standing) : Prop where
  anchored : ∀ row ∈ s.rows, Anchored stripe row
  whole : ∀ row ∈ s.rows, row.entryType ≠ .refund → WholeCents row.amountUsd
  known : ∀ row ∈ s.rows, (s.account row.userId).isSome = true
  anchors : (s.rows.map CreditLedger.stripeSessionId).Nodup
  once : ∀ paymentIntentId, s.rows.countP (fun row => row.refunds paymentIntentId) ≤ 1
  taken : ∀ row ∈ s.rows, ∀ paymentIntentId, row.refunds paymentIntentId →
    Taken delivered s row paymentIntentId
  distinct : (s.tombstones.map StripeObservedReversal.objectId).Nodup
  recorded : ∀ tombstone ∈ s.tombstones, ∃ event ∈ delivered, RecordedAs event tombstone
  early : ∀ tombstone ∈ s.tombstones, IsIntent stripe tombstone.paymentIntentId →
    tombstone.appliedAt ≠ none → ∃ credit ∈ s.rows, credit.credits tombstone.paymentIntentId
  met : ∀ tombstone ∈ s.tombstones, IsIntent stripe tombstone.paymentIntentId →
    tombstone.objectId ∉ left → Met unfrozen s tombstone
  frozen : ∀ userId, s.account userId = some (some .dispute) →
    opening.account userId = some (some .dispute) ∨ Disputed delivered s userId

section Keeps

variable {opening s s' : Standing} {delivered : List ReversalEvent} {u u' : List Uuid}
  {left : List String} {now : Timestamp} {userId : Uuid} {paymentIntentId : String}

theorem Later.refunded (later : Later u u' s s') (h : s.refunded paymentIntentId) :
    s'.refunded paymentIntentId := by
  obtain ⟨row, hrow, refunds⟩ := h
  exact ⟨row, later.rows row hrow, refunds⟩

theorem Later.taken (later : Later u u' s s') (h : Taken delivered s row paymentIntentId) :
    Taken delivered s' row paymentIntentId := by
  obtain ⟨credit, hcredit, rest⟩ := h
  exact ⟨credit, later.rows credit hcredit, rest⟩

theorem Later.disputed (later : Later u u' s s') (h : Disputed delivered s userId) :
    Disputed delivered s' userId := by
  obtain ⟨event, hevent, dispute, credit, hcredit, rest⟩ := h
  exact ⟨event, hevent, dispute, credit, later.rows credit hcredit, rest⟩

/-- An intent has one credit. -/
theorem Sound.unique (sound : Sound stripe opening delivered u left s) {a b : CreditLedger}
    (ha : a ∈ s.rows) (hb : b ∈ s.rows) (credits : a.credits paymentIntentId)
    (credits' : b.credits paymentIntentId) : a = b := by
  apply inj_on_of_nodup_map sound.anchors ha hb
  rw [anchor_of_credits (sound.anchored a ha) credits,
    anchor_of_credits (sound.anchored b hb) credits']

/-- `reversed` asks for the object or the intent; the object's refund is the intent's. -/
theorem Sound.reversed_iff (sound : Sound stripe opening delivered u left s)
    (object : stripe.object objectId = .reversal paymentIntentId isDispute currency) :
    s.reversed objectId paymentIntentId ↔ s.refunded paymentIntentId := by
  constructor
  · rintro ⟨row, hrow, anchor | refunds⟩
    · exact ⟨row, hrow, refunds_of_anchor (sound.anchored row hrow) object anchor⟩
    · exact ⟨row, hrow, refunds⟩
  · rintro ⟨row, hrow, refunds⟩
    exact ⟨row, hrow, .inr refunds⟩

/-- A report of an event. -/
theorem Sound.deliver (sound : Sound stripe opening delivered u left s) (event : ReversalEvent) :
    Sound stripe opening (event :: delivered) u left s where
  anchored := sound.anchored
  whole := sound.whole
  known := sound.known
  anchors := sound.anchors
  once := sound.once
  taken row hrow paymentIntentId refunds := by
    obtain ⟨credit, hcredit, credits, user, amount, reason, hreason, rest⟩ :=
      sound.taken row hrow paymentIntentId refunds
    exact ⟨credit, hcredit, credits, user, amount, reason, mem_cons_of_mem _ hreason, rest⟩
  distinct := sound.distinct
  recorded t ht := by
    obtain ⟨reason, hreason, recorded⟩ := sound.recorded t ht
    exact ⟨reason, mem_cons_of_mem _ hreason, recorded⟩
  early := sound.early
  met := sound.met
  frozen userId h := by
    rcases sound.frozen userId h with before | ⟨reason, hreason, rest⟩
    · exact .inl before
    · exact .inr ⟨reason, mem_cons_of_mem _ hreason, rest⟩

/-- A change of accounts only. -/
theorem Sound.account (sound : Sound stripe opening delivered u left s) (later : Later u u' s s')
    (rows : s'.rows = s.rows) (tombstones : s'.tombstones = s.tombstones)
    (frozen : ∀ userId, s'.account userId = some (some .dispute) →
      s.account userId = some (some .dispute) ∨ Disputed delivered s userId) :
    Sound stripe opening delivered u' left s' where
  anchored := rows ▸ sound.anchored
  whole := rows ▸ sound.whole
  known row hrow := later.known row.userId (sound.known row (rows ▸ hrow))
  anchors := rows ▸ sound.anchors
  once := rows ▸ sound.once
  taken row hrow paymentIntentId refunds :=
    later.taken (sound.taken row (rows ▸ hrow) paymentIntentId refunds)
  distinct := tombstones ▸ sound.distinct
  recorded := tombstones ▸ sound.recorded
  early t ht := by
    rw [rows]
    exact sound.early t (tombstones ▸ ht)
  met t ht intent notLeft credit hcredit credits := by
    have met := sound.met t (tombstones ▸ ht) intent notLeft credit (rows ▸ hcredit) credits
    exact ⟨fun covers => later.refunded (met.1 covers), fun dispute => later.held _ (met.2 dispute)⟩
  frozen userId h := by
    rcases frozen userId h with before | disputed
    · exact (sound.frozen userId before).imp id later.disputed
    · exact .inr (later.disputed disputed)

/-- A refund of a credit that an event covers. -/
theorem Sound.refund (sound : Sound stripe opening delivered u left s) {credit : CreditLedger}
    (note : String) (hcredit : credit ∈ s.rows) (credits : credit.credits event.paymentIntent)
    (hevent : event ∈ delivered) (authentic : Authentic stripe event)
    (covers : event.covers credit.amountUsd)
    (fresh : ¬ s.reversed event.objectId event.paymentIntent) :
    Sound stripe opening delivered u left (s.enter
      (refundEntry credit.userId credit.amountUsd event.objectId event.paymentIntent note 0)) := by
  have later : Later u u s (s.enter
      (refundEntry credit.userId credit.amountUsd event.objectId event.paymentIntent note 0)) :=
    later_enter _
  unfold Standing.enter at later ⊢
  rw [if_pos (.inr (.inr rfl))] at later ⊢
  have mem : ∀ row ∈ s.rows ++ [unsnapped (refundEntry credit.userId credit.amountUsd
        event.objectId event.paymentIntent note 0)],
      row ∈ s.rows ∨ row = refundEntry credit.userId credit.amountUsd event.objectId
        event.paymentIntent note 0 := by
    intro row hrow
    rcases mem_append.mp hrow with old | new
    · exact .inl old
    · exact .inr (mem_singleton.mp new)
  have noCredit : ∀ paymentIntentId, ¬ (refundEntry credit.userId credit.amountUsd event.objectId
      event.paymentIntent note 0).credits paymentIntentId := by
    rintro paymentIntentId ⟨purchase | autopay, -⟩
    · cases purchase
    · cases autopay
  constructor
  · intro row hrow
    rcases mem row hrow with old | rfl
    · exact sound.anchored row old
    · exact ⟨_, _, _, _, rfl, rfl, authentic⟩
  · intro row hrow notRefund
    rcases mem row hrow with old | rfl
    · exact sound.whole row old notRefund
    · exact absurd rfl notRefund
  · intro row hrow
    rcases mem row hrow with old | rfl
    · exact sound.known row old
    · exact sound.known credit hcredit
  · rw [map_append, nodup_append]
    refine ⟨sound.anchors, nodup_singleton _, ?_⟩
    rintro anchor hanchor _ hnew rfl
    obtain ⟨row, hrow, rfl⟩ := mem_map.mp hanchor
    exact fresh ⟨row, hrow, .inl (mem_singleton.mp hnew)⟩
  · intro paymentIntentId
    rw [countP_append]
    by_cases same : event.paymentIntent = paymentIntentId
    · have none : s.rows.countP (fun row => row.refunds paymentIntentId) = 0 := by
        rw [countP_eq_zero]
        intro row hrow refunds
        exact fresh ⟨row, hrow, .inr (same ▸ of_decide_eq_true refunds)⟩
      rw [none, Nat.zero_add]
      exact countP_le_length
    · have none : [unsnapped (refundEntry credit.userId credit.amountUsd event.objectId
          event.paymentIntent note 0)].countP (fun row => row.refunds paymentIntentId) = 0 := by
        rw [countP_eq_zero]
        intro row hrow refunds
        rw [mem_singleton.mp hrow] at refunds
        exact same (Option.some.inj (of_decide_eq_true refunds).2)
      rw [none]
      exact sound.once paymentIntentId
  · intro row hrow paymentIntentId refunds
    rcases mem row hrow with old | rfl
    · exact later.taken (sound.taken row old paymentIntentId refunds)
    · obtain rfl : event.paymentIntent = paymentIntentId := Option.some.inj refunds.2
      exact later.taken ⟨credit, hcredit, credits, rfl, rfl, event, hevent, rfl, covers⟩
  · exact sound.distinct
  · exact sound.recorded
  · intro t ht intent applied
    obtain ⟨earlier, hearlier, rest⟩ := sound.early t ht intent applied
    exact ⟨earlier, mem_append_left _ hearlier, rest⟩
  · intro t ht intent notLeft other hother credits'
    rcases mem other hother with old | rfl
    · have met := sound.met t ht intent notLeft other old credits'
      exact ⟨fun covers => later.refunded (met.1 covers),
        fun dispute => later.held _ (met.2 dispute)⟩
    · exact absurd credits' (noCredit _)
  · intro user h
    exact (sound.frozen user h).imp id later.disputed

/-- An event of an intent without a credit is remembered. -/
theorem Sound.observe (sound : Sound stripe opening delivered u left s)
    (hevent : event ∈ delivered) (none : ∀ row ∈ s.rows, ¬ row.credits event.paymentIntent) :
    Sound stripe opening delivered u left (s.observe now event) := by
  have mem : ∀ t ∈ (s.observe now event).tombstones,
      t = event.tombstone now ∨ ∃ old ∈ s.tombstones, t = old ∨
        old.absorbs event ∧
          t = { old with reversedCents := greatestCents event.reversedCents old.reversedCents } := by
    intro t ht
    unfold Standing.observe at ht
    split at ht
    · obtain ⟨old, hold, rfl⟩ := mem_map.mp ht
      refine .inr ⟨old, hold, ?_⟩
      unfold Table.rewrite
      split
      next absorbs => exact .inr ⟨absorbs, rfl⟩
      · exact .inl rfl
    · rcases mem_append.mp ht with old | new
      · exact .inr ⟨t, old, .inl rfl⟩
      · exact .inl (mem_singleton.mp new)
  refine { sound with distinct := ?_, recorded := ?_, early := ?_, met := ?_ }
  · unfold Standing.observe
    split
    · have same : StripeObservedReversal.objectId ∘ Table.rewrite
          (fun row : StripeObservedReversal => row.absorbs event) (fun row =>
            { row with reversedCents := greatestCents event.reversedCents row.reversedCents }) =
          StripeObservedReversal.objectId := by
        funext row
        simp only [Function.comp_apply, Table.rewrite]
        split <;> rfl
      rw [map_map, same]
      exact sound.distinct
    next new =>
      rw [map_append, nodup_append]
      refine ⟨sound.distinct, nodup_singleton _, ?_⟩
      rintro objectId hold _ hnew rfl
      obtain ⟨row, hrow, rfl⟩ := mem_map.mp hold
      exact new ⟨row, hrow, mem_singleton.mp hnew⟩
  · intro t ht
    rcases mem t ht with rfl | ⟨old, hold, rfl | ⟨absorbs, rfl⟩⟩
    · exact ⟨event, hevent, rfl, rfl, rfl, rfl, rfl⟩
    · exact sound.recorded t hold
    · obtain ⟨objectId, -, intent, dispute, currency⟩ := absorbs
      rcases (greatestCents_eq event.reversedCents old.reversedCents).1 with new | kept
      · exact ⟨event, hevent, objectId.symm, intent.symm, dispute.symm, currency.symm, new.symm⟩
      · obtain ⟨reason, hreason, recorded⟩ := sound.recorded old hold
        exact ⟨reason, hreason, recorded.objectId, recorded.paymentIntent, recorded.isDispute,
          recorded.currency, recorded.reversedCents.trans kept.symm⟩
  · intro t ht intent applied
    rcases mem t ht with rfl | ⟨old, hold, rfl | ⟨-, rfl⟩⟩
    · exact absurd rfl applied
    · exact sound.early t hold intent applied
    · exact sound.early old hold intent applied
  · intro t ht intent notLeft
    rcases mem t ht with rfl | ⟨old, hold, rfl | ⟨absorbs, rfl⟩⟩
    · exact fun credit hcredit credits => absurd credits (none credit hcredit)
    · exact sound.met t hold intent notLeft
    · intro credit hcredit credits
      exact absurd (absorbs.2.2.1 ▸ credits) (none credit hcredit)

/-- Only what has met its credit is stamped. -/
theorem Sound.stamp (sound : Sound stripe opening delivered u left s)
    {p : StripeObservedReversal → Prop} [DecidablePred p]
    (credited : ∀ tombstone ∈ s.tombstones, p tombstone →
      ∃ credit ∈ s.rows, credit.credits tombstone.paymentIntentId) :
    Sound stripe opening delivered u left (s.stamp now p) := by
  have mem : ∀ t ∈ (s.stamp now p).tombstones, ∃ old ∈ s.tombstones, t = old ∨
      p old ∧ t = { old with appliedAt := some now } := by
    intro t ht
    obtain ⟨old, hold, rfl⟩ := mem_map.mp ht
    refine ⟨old, hold, ?_⟩
    unfold Table.rewrite
    split
    next stamped => exact .inr ⟨stamped, rfl⟩
    · exact .inl rfl
  refine { sound with distinct := ?_, recorded := ?_, early := ?_, met := ?_ }
  · have same : StripeObservedReversal.objectId ∘ Table.rewrite p (fun row =>
        { row with appliedAt := some now }) = StripeObservedReversal.objectId := by
      funext row
      simp only [Function.comp_apply, Table.rewrite]
      split <;> rfl
    unfold Standing.stamp
    rw [map_map, same]
    exact sound.distinct
  · intro t ht
    obtain ⟨old, hold, rfl | ⟨-, rfl⟩⟩ := mem t ht
    · exact sound.recorded t hold
    · obtain ⟨reason, hreason, recorded⟩ := sound.recorded old hold
      exact ⟨reason, hreason, recorded.objectId, recorded.paymentIntent, recorded.isDispute,
        recorded.currency, recorded.reversedCents⟩
  · intro t ht intent applied
    obtain ⟨old, hold, rfl | ⟨stamped, rfl⟩⟩ := mem t ht
    · exact sound.early t hold intent applied
    · exact credited old hold stamped
  · intro t ht intent notLeft
    obtain ⟨old, hold, rfl | ⟨-, rfl⟩⟩ := mem t ht
    · exact sound.met t hold intent notLeft
    · exact sound.met old hold intent notLeft

/-- A tombstone whose effect is there is no longer left out. -/
theorem Sound.discharge (sound : Sound stripe opening delivered u (objectId :: left) s)
    (met : ∀ tombstone ∈ s.tombstones, tombstone.objectId = objectId → Met u s tombstone) :
    Sound stripe opening delivered u left s := by
  refine { sound with met := ?_ }
  intro t ht intent notLeft
  by_cases same : t.objectId = objectId
  · exact met t ht same
  · exact sound.met t ht intent (by simp [same, notLeft])

end Keeps

end Sound

end Billing

end ZeroRouter
