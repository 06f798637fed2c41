import ZeroRouter.Proofs.Standing

/-!
# A credit meets what was observed of it

`apply_observed_reversals` keeps `Sound`: one tombstone after another is no longer left
out.
-/

namespace ZeroRouter.Billing

open List Relational

variable {stripe : StripeObjects} {opening s : Standing} {delivered : List ReversalEvent}
  {u : List Uuid} {left : List String} {now : Timestamp} {userId : Uuid}
  {paymentIntentId : String} {tombstone : StripeObservedReversal} {row : CreditLedger}

variable (stripe) in
/-- A credit as it is entered. -/
structure Creditable (row : CreditLedger) : Prop where
  anchored : Anchored stripe row
  isCredit : row.entryType = .purchase ∨ row.entryType = .autopay
  whole : WholeCents row.amountUsd
  unsnapped : unsnapped row = row

theorem Sound.enterCredit (sound : Sound stripe opening delivered u [] s)
    (creditable : Creditable stripe row) (enterable : Enterable s row)
    (leaves : ∀ tombstone ∈ s.tombstones, IsIntent stripe tombstone.paymentIntentId →
      row.credits tombstone.paymentIntentId → tombstone.objectId ∈ left) :
    Sound stripe opening delivered u left (s.enter row) := by
  have later : Later u u s (s.enter row) := later_enter row
  have isStripe : isStripe row := creditable.isCredit.elim .inl fun autopay => .inr (.inl autopay)
  have notRefund : ∀ paymentIntentId, ¬ row.refunds paymentIntentId := by
    rintro paymentIntentId ⟨refund, -⟩
    rcases creditable.isCredit with purchase | autopay
    · rw [purchase] at refund
      cases refund
    · rw [autopay] at refund
      cases refund
  unfold Standing.enter at later ⊢
  rw [if_pos isStripe, creditable.unsnapped] at later ⊢
  have mem : ∀ other ∈ s.rows ++ [row], other ∈ s.rows ∨ other = row := by
    intro other hother
    exact (mem_append.mp hother).imp id mem_singleton.mp
  constructor
  · intro other hother
    rcases mem other hother with old | rfl
    · exact sound.anchored other old
    · exact creditable.anchored
  · intro other hother kind
    rcases mem other hother with old | rfl
    · exact sound.whole other old kind
    · exact creditable.whole
  · intro other hother
    rcases mem other hother with old | rfl
    · exact sound.known other old
    · exact enterable.user
  · rw [map_append, nodup_append]
    refine ⟨sound.anchors, nodup_singleton _, ?_⟩
    rintro anchor hanchor _ hnew rfl
    obtain ⟨other, hother, rfl⟩ := mem_map.mp hanchor
    exact enterable.anchor other hother (mem_singleton.mp hnew)
  · intro paymentIntentId
    rw [countP_append]
    have none : [row].countP (fun row => row.refunds paymentIntentId) = 0 := by
      simp [notRefund paymentIntentId]
    rw [none]
    exact sound.once paymentIntentId
  · intro other hother paymentIntentId refunds
    rcases mem other hother with old | rfl
    · exact later.taken (sound.taken other old paymentIntentId refunds)
    · exact absurd refunds (notRefund paymentIntentId)
  · exact sound.distinct
  · exact sound.recorded
  · intro t ht intent applied
    obtain ⟨earlier, hearlier, rest⟩ := sound.early t ht intent applied
    exact ⟨earlier, mem_append_left _ hearlier, rest⟩
  · intro t ht intent notLeft credit hcredit credits
    rcases mem credit hcredit with old | rfl
    · have met := sound.met t ht intent not_mem_nil credit old credits
      exact ⟨fun covers => later.refunded (met.1 covers),
        fun dispute => later.held _ (met.2 dispute)⟩
    · exact absurd (leaves t ht intent credits) notLeft
  · intro user h
    exact (sound.frozen user h).imp id later.disputed

/-- What a tombstone recorded is still there, whether or not it was stamped since. -/
def Remembers (s : Standing) (tombstone : StripeObservedReversal) : Prop :=
  (∃ row ∈ s.tombstones, row.objectId = tombstone.objectId) ∧
    ∀ row ∈ s.tombstones, row.objectId = tombstone.objectId →
      { row with appliedAt := tombstone.appliedAt } = tombstone

theorem Remembers.stamp (remembers : Remembers s tombstone) (p : StripeObservedReversal → Prop)
    [DecidablePred p] :
    Remembers (s.stamp now p) tombstone := by
  obtain ⟨⟨row, hrow, same⟩, all⟩ := remembers
  constructor
  · refine ⟨_, mem_map_of_mem hrow, ?_⟩
    unfold Table.rewrite
    split <;> exact same
  · intro row' hrow' same'
    obtain ⟨old, hold, rfl⟩ := mem_map.mp hrow'
    unfold Table.rewrite at same' ⊢
    split at same'
    next stamped =>
      rw [if_pos stamped]
      exact all old hold same'
    next not =>
      rw [if_neg not]
      exact all old hold same'

/-- The event a tombstone was recorded from. -/
theorem Sound.reason (sound : Sound stripe opening delivered u left s)
    (remembers : Remembers s tombstone) :
    ∃ event ∈ delivered, RecordedAs event tombstone := by
  obtain ⟨⟨row, hrow, same⟩, all⟩ := remembers
  obtain ⟨event, hevent, recorded⟩ := sound.recorded row hrow
  rw [← all row hrow same]
  exact ⟨event, hevent, recorded.objectId, recorded.paymentIntent, recorded.isDispute,
    recorded.currency, recorded.reversedCents⟩

/-- A freeze with its reason. -/
theorem Sound.freeze (sound : Sound stripe opening delivered u left s) {reason : FrozenReason}
    (disputed : reason = .dispute → Disputed delivered s userId) :
    Sound stripe opening delivered u left (s.freeze userId reason) := by
  refine sound.account (later_freeze _) rfl rfl fun other h => ?_
  by_cases here : other = userId
  · subst here
    cases account : s.account other with
    | none => simp [Standing.freeze, account] at h
    | some frozen =>
        cases frozen with
        | none =>
            simp only [Standing.freeze, Function.update_self, account, Option.map_some,
              Option.none_or, Option.some.injEq] at h
            exact .inr (disputed h)
        | some before =>
            simp only [Standing.freeze, Function.update_self, account, Option.map_some,
              Option.some_or] at h
            exact .inl h
  · exact .inl (by simpa [Standing.freeze, Function.update_of_ne here] using h)

theorem Sound.dispute {credit : CreditLedger} (sound : Sound stripe opening delivered u left s)
    (remembers : Remembers s tombstone) (hcredit : credit ∈ s.rows)
    (credits : credit.credits tombstone.paymentIntentId) :
    Sound stripe opening delivered u left (s.dispute credit.userId tombstone) ∧
      (tombstone.isDispute = true → (s.dispute credit.userId tombstone).held u credit.userId) := by
  obtain ⟨event, hevent, recorded⟩ := sound.reason remembers
  unfold Standing.dispute
  split
  next dispute =>
    refine ⟨sound.freeze fun _ => ⟨event, hevent, recorded.isDispute.trans dispute, credit, hcredit,
      recorded.paymentIntent ▸ credits, rfl⟩, fun _ => ?_⟩
    obtain ⟨frozen, known⟩ := Option.isSome_iff_exists.mp (sound.known credit hcredit)
    exact .inl ⟨frozen.getD .dispute, by cases frozen <;> simp [Standing.freeze, known]⟩
  next refund => exact ⟨sound, fun dispute => absurd dispute refund⟩

theorem Sound.takeBack {credit : CreditLedger} (sound : Sound stripe opening delivered u left s)
    (authentic : ∀ event ∈ delivered, Authentic stripe event) (remembers : Remembers s tombstone)
    (hcredit : credit ∈ s.rows) (credits : credit.credits tombstone.paymentIntentId) :
    Sound stripe opening delivered u left
        (s.takeBack credit.userId tombstone.paymentIntentId credit.amountUsd tombstone) ∧
      (tombstone.covers credit.amountUsd →
        (s.takeBack credit.userId tombstone.paymentIntentId credit.amountUsd tombstone).refunded
          tombstone.paymentIntentId) := by
  obtain ⟨event, hevent, recorded⟩ := sound.reason remembers
  have object := authentic event hevent
  unfold Authentic at object
  rw [recorded.objectId, recorded.paymentIntent] at object
  unfold Standing.takeBack
  split
  next covers =>
    obtain ⟨covers, fresh⟩ := covers
    constructor
    · have refund : Sound stripe opening delivered u left (s.enter (refundEntry credit.userId
          credit.amountUsd event.objectId event.paymentIntent (reversalNote tombstone) 0)) := by
        apply sound.refund _ hcredit _ hevent (authentic event hevent) (recorded.covers.mpr covers)
        · rw [recorded.objectId, recorded.paymentIntent]
          exact fresh
        · rw [recorded.paymentIntent]
          exact credits
      rwa [recorded.objectId, recorded.paymentIntent] at refund
    · intro _
      unfold Standing.enter
      rw [if_pos (.inr (.inr rfl))]
      exact ⟨_, mem_append_right _ mem_cons_self, rfl, rfl⟩
  next not =>
    refine ⟨sound, fun covers => (sound.reversed_iff object).mp ?_⟩
    by_contra fresh
    exact not ⟨covers, fresh⟩

/-- One tombstone meets the credit: it freezes, it takes back, it is stamped. -/
theorem Sound.meet {credit : CreditLedger}
    (sound : Sound stripe opening delivered u (tombstone.objectId :: left) s)
    (authentic : ∀ event ∈ delivered, Authentic stripe event) (remembers : Remembers s tombstone)
    (hcredit : credit ∈ s.rows) (credits : credit.credits tombstone.paymentIntentId) :
    Sound stripe opening delivered u left
      (s.meet now credit.userId tombstone.paymentIntentId credit.amountUsd tombstone) := by
  obtain ⟨soundFrozen, heldFrozen⟩ := sound.dispute remembers hcredit credits
  have tombstones : (s.dispute credit.userId tombstone).tombstones = s.tombstones := by
    unfold Standing.dispute
    split <;> rfl
  have hfrozen : credit ∈ (s.dispute credit.userId tombstone).rows :=
    (later_dispute tombstone : Later u u s _).rows credit hcredit
  have remembersFrozen : Remembers (s.dispute credit.userId tombstone) tombstone := by
    unfold Remembers
    rw [tombstones]
    exact remembers
  obtain ⟨soundTaken, takenBack⟩ :=
    soundFrozen.takeBack authentic remembersFrozen hfrozen credits
  have later : Later u u (s.dispute credit.userId tombstone)
      ((s.dispute credit.userId tombstone).takeBack credit.userId tombstone.paymentIntentId
        credit.amountUsd tombstone) := later_takeBack _ _ _
  have tombstonesTaken : ((s.dispute credit.userId tombstone).takeBack credit.userId
      tombstone.paymentIntentId credit.amountUsd tombstone).tombstones = s.tombstones := by
    rw [← tombstones]
    unfold Standing.takeBack Standing.enter
    split_ifs <;> rfl
  unfold Standing.meet
  dsimp only
  generalize (s.dispute credit.userId tombstone).takeBack credit.userId tombstone.paymentIntentId
    credit.amountUsd tombstone = taken at *
  have isTombstone : ∀ row ∈ taken.tombstones, row.objectId = tombstone.objectId →
      { row with appliedAt := tombstone.appliedAt } = tombstone := by
    rw [tombstonesTaken]
    exact remembers.2
  have done : Sound stripe opening delivered u left taken := by
    refine soundTaken.discharge fun row hrow same other hother credits' => ?_
    have recorded := isTombstone row hrow same
    have intent : row.paymentIntentId = tombstone.paymentIntentId :=
      (congrArg StripeObservedReversal.paymentIntentId recorded :)
    rw [intent] at credits' ⊢
    obtain rfl := soundTaken.unique hother (later.rows credit hfrozen) credits' credits
    refine ⟨fun covers => takenBack ?_, fun dispute => later.held _ (heldFrozen ?_)⟩
    · rw [← recorded]
      exact covers
    · rw [← recorded]
      exact dispute
  split
  · refine done.stamp fun row hrow same => ?_
    have intent : row.paymentIntentId = tombstone.paymentIntentId :=
      (congrArg StripeObservedReversal.paymentIntentId (isTombstone row hrow same) :)
    exact ⟨credit, later.rows credit hfrozen, intent ▸ credits⟩
  · exact done

theorem Remembers.meet (remembers : Remembers s tombstone) (creditedUsd : Decimal)
    (other : StripeObservedReversal) :
    Remembers (s.meet now userId paymentIntentId creditedUsd other) tombstone := by
  have tombstones : ((s.dispute userId other).takeBack userId paymentIntentId creditedUsd
      other).tombstones = s.tombstones := by
    unfold Standing.takeBack Standing.enter Standing.dispute
    split_ifs <;> rfl
  have taken : Remembers ((s.dispute userId other).takeBack userId paymentIntentId creditedUsd
      other) tombstone := by
    unfold Remembers
    rw [tombstones]
    exact remembers
  unfold Standing.meet
  dsimp only
  split
  · exact taken.stamp _
  · exact taken

/-- What was waiting for a credit meets it, one after another. -/
theorem Sound.meetAll {credit : CreditLedger}
    (authentic : ∀ event ∈ delivered, Authentic stripe event)
    (sound : Sound stripe opening delivered u
      ((s.waiting paymentIntentId).map StripeObservedReversal.objectId) s)
    (hcredit : credit ∈ s.rows) (credits : credit.credits paymentIntentId) :
    Sound stripe opening delivered u []
      (s.meetAll now credit.userId paymentIntentId credit.amountUsd) := by
  have waits : ∀ tombstone ∈ s.waiting paymentIntentId,
      tombstone.paymentIntentId = paymentIntentId ∧ Remembers s tombstone := by
    intro tombstone ht
    rw [Standing.waiting, mem_insertionSort, mem_filter] at ht
    refine ⟨(of_decide_eq_true ht.2).1, ⟨tombstone, ht.1, rfl⟩, fun row hrow same => ?_⟩
    rw [inj_on_of_nodup_map sound.distinct hrow ht.1 same]
  unfold Standing.meetAll
  generalize s.waiting paymentIntentId = tombstones at sound waits
  induction tombstones generalizing s with
  | nil => exact sound
  | cons first rest ih =>
      obtain ⟨intent, remembers⟩ := waits first mem_cons_self
      have met : Sound stripe opening delivered u (rest.map StripeObservedReversal.objectId)
          (s.meet now credit.userId first.paymentIntentId credit.amountUsd first) :=
        sound.meet authentic remembers hcredit (intent.symm ▸ credits)
      rw [intent] at met
      refine ih ((later_meet paymentIntentId credit.amountUsd first : Later u u s _).rows credit
        hcredit) met fun tombstone ht => ?_
      obtain ⟨intent', remembers'⟩ := waits tombstone (mem_cons_of_mem _ ht)
      exact ⟨intent', remembers'.meet _ _⟩

/-- The credit's transaction. -/
theorem Sound.credit (sound : Sound stripe opening delivered u [] s)
    (authentic : ∀ event ∈ delivered, Authentic stripe event) (creditable : Creditable stripe row)
    (enterable : Enterable s row) {paymentIntent : Option String}
    (names : ∀ paymentIntentId, IsIntent stripe paymentIntentId ∧ row.credits paymentIntentId ↔
      paymentIntent = some paymentIntentId) :
    Sound stripe opening delivered u [] (s.credit now row paymentIntent) := by
  have fresh : ∀ paymentIntentId, row.credits paymentIntentId →
      ∀ earlier ∈ s.rows, ¬ earlier.credits paymentIntentId := by
    intro paymentIntentId credits earlier hearlier credits'
    apply enterable.anchor earlier hearlier
    rw [anchor_of_credits creditable.anchored credits,
      anchor_of_credits (sound.anchored earlier hearlier) credits']
  have mem : row ∈ (s.enter row).rows := by
    have isStripe : isStripe row := creditable.isCredit.elim .inl fun autopay => .inr (.inl autopay)
    unfold Standing.enter
    rw [if_pos isStripe, creditable.unsnapped]
    exact mem_append_right _ mem_cons_self
  cases paymentIntent with
  | none =>
      refine sound.enterCredit creditable enterable fun t ht intent named => ?_
      cases (names _).mp ⟨intent, named⟩
  | some paymentIntentId =>
      obtain ⟨intent, credits⟩ := (names paymentIntentId).mpr rfl
      refine Sound.meetAll authentic ?_ mem credits
      refine sound.enterCredit creditable enterable fun t ht intent' named => ?_
      obtain rfl : paymentIntentId = t.paymentIntentId :=
        Option.some.inj ((names _).mp ⟨intent', named⟩)
      apply mem_map_of_mem
      rw [Standing.waiting, mem_insertionSort, mem_filter]
      refine ⟨?_, decide_eq_true ⟨rfl, ?_⟩⟩
      · unfold Standing.enter
        split <;> exact ht
      · by_contra applied
        obtain ⟨earlier, hearlier, credited⟩ := sound.early t ht intent applied
        exact fresh _ named earlier hearlier credited

end ZeroRouter.Billing
