import ZeroRouter.Proofs.Encumbrance
import ZeroRouter.Proofs.Charging

/-!
# Prepaid balances are never overdrawn

Admission lets a request hold no more than the balance has left, settlement takes
no more than was held, and everything else lets go.  So a user's balance covers
what the user's reservations hold, after every step.
-/

namespace ZeroRouter

open Relational

/-- The user's admissions are gated on credit, other writers only credit the
    user, and the user's requests commit before their reservations expire. -/
def Prepaid (userId : Uuid) (w : World) (a : Action) : Prop :=
  (match a with
    | .beginUsageSession _ _ request _ =>
        request.key.userId = userId → request.requireCredits = true
    | .post posting => posting.userId = userId → 0 ≤ posting.amountUsd
    | _ => True) ∧
  w.isPrompt userId a

instance (userId : Uuid) (w : World) (a : Action) : Decidable (Prepaid userId w a) := by
  unfold Prepaid
  induction a using Action.casesOn <;> infer_instance

/-- The balance covers what is held. -/
def Covered (userId : Uuid) (w : World) : Prop :=
  ∀ user ∈ w.db.users, user.id = userId →
    w.db.userActiveReservedCost w.clock userId ≤ user.creditBalanceUsd

section Step

variable {w w' : World} {a : Action} {userId : Uuid}

theorem Prepaid.credits {now : Timestamp} {requestId : Uuid} {request : AdmissionRequest}
    {fate : Fate} (h : Prepaid userId w (.beginUsageSession now requestId request fate))
    (user : request.key.userId = userId) : request.requireCredits = true := h.1 user

theorem Prepaid.creditsOnly {posting : Posting} (h : Prepaid userId w (.post posting))
    (user : posting.userId = userId) : 0 ≤ posting.amountUsd := h.1 user

/-- A step that moves nobody's balance and admits nobody. -/
theorem Covered.kept (inv : Inv w) (covered : Covered userId w) (prompt : w.isPrompt userId a)
    (h : Change w a w') (same : w'.admitted = w.admitted) (users : w'.db.users = w.db.users) :
    Covered userId w' := by
  intro user huser hid
  rw [users] at huser
  rw [userActiveReservedCost_step inv h]
  calc w'.db.encumbered (w.db.owns userId) w'.clock
      ≤ w.db.encumbered (w.db.owns userId) w.clock := encumbered_step _ h same (fun _ => id) prompt
    _ ≤ user.creditBalanceUsd := covered user huser hid

/-- An admission is granted only out of what the balance has left. -/
theorem Covered.admitted (inv : Inv w) (covered : Covered userId w) (prepaid : Prepaid userId w a)
    (h : Change w a w') {admission : Admission} {swept : Db} {keyState : KeyState} {user : User}
    {table : Table usageReservationsTable}
    (admitted : Admitted w a w' admission swept keyState user table) : Covered userId w' := by
  intro holder hholder hid
  rw [admitted.db] at hholder
  have allowed := admitted.allowed
  have held := (encumbered_admitted (w.db.owns userId) admitted).2
  rw [userActiveReservedCost_step inv h]
  refine held.trans ?_
  by_cases owner : admission.request.key.userId = userId
  · have same : holder = user :=
      Table.eq_of_clash hholder allowed.userMem ((hid.trans owner.symm).trans allowed.userId.symm)
    obtain ⟨fate, rfl⟩ := admitted.action
    have room := (Db.admissionGate_none allowed.gates).credits (prepaid.credits owner)
    rw [← admitted.plan, owner] at room
    have read : swept.userActiveReservedCost admission.now userId
        = swept.encumbered (w.db.owns userId) admission.now := by
      refine sumWhere_congr (fun row _ => ?_) fun _ _ _ => rfl
      rw [admitted.sweep.owns]
    rw [read] at room
    have owned : w.db.owns userId admission.request.key.id := owner ▸ allowed.owned
    have earlier := Db.encumbered_antitone (w.db.owns userId) swept admitted.timely
    rw [if_pos owned, same]
    exact (add_le_add earlier (le_refl _)).trans room
  · have stranger : ¬ w.db.owns userId admission.request.key.id :=
      fun owned => owner (Db.owns_unique allowed.owned owned)
    rw [if_neg stranger, add_zero]
    exact (encumbered_swept _ admitted.sweep w.clock).trans (covered holder hholder hid)

/-- A settle takes no more than the row it consumes held. -/
theorem Covered.settled (inv : Inv w) (covered : Covered userId w) (prompt : w.isPrompt userId a)
    {call : World.SettleCall} (called : w.settleCall a = some call)
    {reservation : UsageReservation} {event : UsageEvent} {db : Db}
    (effect : Settled w.db call.now call.reservationId call.apiKeyId call.intent reservation
      event db) (h : Change w a { w with db }) : Covered userId { w with db } := by
  rcases effect.money with ⟨-, users, -⟩ | ⟨payer, -, -, -, -, -, users, -⟩
  · exact covered.kept inv prompt h rfl users
  · intro user huser hid
    obtain ⟨before, hbefore, rfl⟩ := (mem_users_of_moved users).mp huser
    have balance := covered before hbefore hid
    rw [userActiveReservedCost_step inv h]
    change _ ≤ before.creditBalanceUsd + _
    by_cases payer : before.id = call.intent.userId
    · rw [if_pos payer]
      -- The row the settle consumes is the user's, and it still held its credit.
      obtain ⟨admission, hadm, -, hkey, huser, -⟩ := inv.settleCall called
      have owned : w.db.owns userId reservation.apiKeyId := by
        rw [effect.settlable.2.1, ← hkey, ← hid.symm.trans (payer.trans huser) |>.symm]
        exact inv.keys admission hadm
      have unreleased := effect.settlable.2.2
      have live := prompt reservation effect.reservationMem owned unreleased
        (World.commits_of_settleCall called effect.settlable)
      have split := encumbered_settled (w.db.owns userId) effect w.clock
      rw [if_pos ⟨owned, unreleased, live.symm⟩] at split
      have debit : min event.costUsd reservation.reservedCostUsd ≤ reservation.reservedCostUsd :=
        min_le_right _ _
      have before' : w.db.encumbered (w.db.owns userId) w.clock ≤ before.creditBalanceUsd := balance
      change db.encumbered (w.db.owns userId) w.clock ≤ _
      linarith
    · rw [if_neg payer, add_zero]
      exact (encumbered_step _ h rfl (fun _ => id) prompt).trans balance

/-- Another writer's movement, as long as it leaves what is held. -/
theorem Covered.posted (inv : Inv w) (covered : Covered userId w) {posting : Posting} {db : Db}
    (moved : w.db.moveBalance posting.userId posting.creditReversal .rowNotFound
      posting.amountUsd (fun balanceAfter =>
        { userId := posting.userId
          entryType := posting.entryType
          amountUsd := posting.amountUsd
          balanceAfterUsd := balanceAfter
          stripeSessionId := posting.stripeSessionId
          stripePaymentIntentId := posting.stripePaymentIntentId
          requestId := none
          note := posting.note }) = .ok db)
    (leaves : posting.userId = userId → ∀ user ∈ w.db.users, user.id = userId →
      w.db.userActiveReservedCost w.clock userId ≤ user.creditBalanceUsd + posting.amountUsd) :
    Covered userId { w with db } := by
  have change : Change w (.post posting) { w with db } := .posted posting rfl db moved
  have prompt : w.isPrompt userId (.post posting) := fun _ _ _ _ commits => commits.elim
  obtain ⟨user, users, ledger, -, -, -, husers, -, rfl⟩ := Db.moveBalance_ok moved
  intro holder hholder hid
  obtain ⟨before, hbefore, rfl⟩ := (mem_users_of_moved husers).mp hholder
  have kept := encumbered_step (w.db.owns userId) change rfl (fun _ => id) prompt
  rw [userActiveReservedCost_step inv change]
  refine kept.trans ?_
  change w.db.userActiveReservedCost w.clock userId ≤ before.creditBalanceUsd + _
  by_cases payee : before.id = posting.userId
  · rw [if_pos payee]
    exact leaves (payee.symm.trans hid) before hbefore hid
  · rw [if_neg payee, add_zero]
    exact covered before hbefore hid

theorem Covered.step (inv : Inv w) (covered : Covered userId w) (prepaid : Prepaid userId w a)
    (h : Change w a w') : Covered userId w' := by
  rcases admitted_cases h with same | ⟨_, _, _, _, _, admitted⟩
  · have change := h
    cases h with
    | admitted => exact absurd same (List.cons_ne_self _ _)
    | settled call called timely reservation event db effect =>
        exact covered.settled inv prepaid.2 called effect change
    | posted posting action db moved =>
        subst action
        refine covered.posted inv moved ?_
        intro payee user huser hid
        exact (covered user huser hid).trans
          (le_add_of_nonneg_right (prepaid.creditsOnly payee))
    | metered _ _ _ _ _ _ _ _ _ db inserted =>
        obtain ⟨events, month, day, total, -, -, -, -, -, rfl⟩ := Db.insertUsageEvent_ok inserted
        exact covered.kept inv prepaid.2 change rfl rfl
    | _ => exact covered.kept inv prepaid.2 change rfl rfl
  · exact covered.admitted inv prepaid h admitted

/-- A covered balance is not negative, and the debit of a request that still holds its
    reservation leaves it so. -/
theorem Covered.solvent (covered : Covered userId w) {user : User} (huser : user ∈ w.db.users)
    (hid : user.id = userId) :
    w.db.userActiveReservedCost w.clock userId ≤ user.creditBalanceUsd ∧
      0 ≤ user.creditBalanceUsd ∧
      ∀ row ∈ w.db.usageReservations, w.db.owns userId row.apiKeyId → row.encumbers w.clock →
        ∀ costUsd, 0 ≤ user.creditBalanceUsd - min costUsd row.reservedCostUsd := by
  have balance := covered user huser hid
  refine ⟨balance, ?_, ?_⟩
  · exact (Db.encumbered_nonneg (w.db.owns userId) w.db w.clock).trans balance
  · intro row hrow owned encumbers costUsd
    have nonneg : ∀ other ∈ w.db.usageReservations.rows,
        w.db.owns userId other.apiKeyId ∧ other.encumbers w.clock → 0 ≤ other.reservedCostUsd :=
      fun other hother _ => (w.db.usageReservations.checked other hother).costIsNonnegative
    have one : row.reservedCostUsd ≤ w.db.userActiveReservedCost w.clock userId := by
      have alone := sumWhere_sublist_le (List.singleton_sublist.mpr hrow) nonneg
      rw [sumWhere_cons, if_pos ⟨owned, encumbers⟩, sumWhere_nil, add_zero] at alone
      exact alone
    have debit : min costUsd row.reservedCostUsd ≤ row.reservedCostUsd := min_le_right _ _
    linarith

/-- Before the first request nothing is held. -/
theorem Covered.opening (opening : w.Opening)
    (solvent : ∀ user ∈ w.db.users, user.id = userId → 0 ≤ user.creditBalanceUsd) :
    Covered userId w := by
  intro user huser hid
  have nothing : w.db.userActiveReservedCost w.clock userId = 0 := by
    unfold Db.userActiveReservedCost
    rw [opening.usageReservations]
    rfl
  rw [nothing]
  exact solvent user huser hid

end Step

/-- A user who starts solvent, is only credited by others, is admitted against
    credit and commits in time: after every step the balance covers everything
    the user's reservations hold, so it is not negative, and whatever a request
    that still holds its reservation turns out to cost, its debit leaves the
    balance nonnegative. -/
theorem prepaid_balance_covers {w₀ w : World} {userId : Uuid} (opening : w₀.Opening)
    (solvent : ∀ user ∈ w₀.db.users, user.id = userId → 0 ≤ user.creditBalanceUsd)
    (run : Reaches (Prepaid userId) w₀ w) :
    ∀ user ∈ w.db.users, user.id = userId →
      w.db.userActiveReservedCost w.clock userId ≤ user.creditBalanceUsd ∧
      0 ≤ user.creditBalanceUsd ∧
      ∀ row ∈ w.db.usageReservations, w.db.owns userId row.apiKeyId → row.encumbers w.clock →
        ∀ costUsd, 0 ≤ user.creditBalanceUsd - min costUsd row.reservedCostUsd := by
  have covered : Covered userId w := by
    refine (run.invariant (I := fun w => Inv w ∧ Covered userId w)
      ⟨.opening opening, .opening opening solvent⟩ fun _ _ _ h prepaid next => ?_).2
    have change := step_change next
    exact ⟨h.1.step change, h.2.step h.1 prepaid change⟩
  intro user huser hid
  exact covered.solvent huser hid

/-- Two requests in flight, one of them metered at more than it reserved. -/
def costlyRun : List Action :=
  [.beginUsageSession 0 7 (houseRequest 5) .commit, .beginUsageSession 0 8 (houseRequest 7) .commit,
    .persistIntent 0 7 (houseRecord 6), .tick (reservationTtl + 1),
    .settle (reservationTtl + 1) 7 (houseRecord 6) .commit]

theorem prepaid_balance_covers_costly :
    ∃ w : World, ∀ user ∈ w.db.users, user.id = 1 →
      user.creditBalanceUsd = 95 ∧ 0 ≤ user.creditBalanceUsd := by
  have runs : (Transition.runWhile step (Prepaid 1) (.fresh onePrepaidUser oneKey 0)
      costlyRun).any (fun w => w.db.users.rows.map User.creditBalanceUsd = [95]) = true := by
    decide +kernel
  obtain ⟨w, run, hw⟩ := Transition.Steps.exists_of_runWhile runs
  have solvent : ∀ user ∈ (World.fresh onePrepaidUser oneKey 0).db.users, user.id = 1 →
      0 ≤ user.creditBalanceUsd := by decide +kernel
  refine ⟨w, fun user huser hid => ⟨?_, ?_⟩⟩
  · have mem : user.creditBalanceUsd ∈ w.db.users.rows.map User.creditBalanceUsd :=
      List.mem_map_of_mem huser
    rw [of_decide_eq_true hw] at mem
    exact List.mem_singleton.mp mem
  · exact (prepaid_balance_covers (World.opening_fresh _ _ _) solvent run user huser hid).2.1

end ZeroRouter
