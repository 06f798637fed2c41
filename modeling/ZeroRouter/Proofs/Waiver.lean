import ZeroRouter.Proofs.Encumbrance
import ZeroRouter.Proofs.Telescoping

/-!
# Waived BYOK reservations

Admission holds nothing for a BYOK request that the month's allowance is sure to
cover, counting what is consumed and what requests in flight have committed.
Nothing keeps that share of the allowance for it.  A request that was not waived
consumes the same allowance when it settles first, and a waived request that
expired without an intent is no longer counted; the waived one is then charged a
fee its empty reservation cannot be debited for.

Every waiver is kept in a run where the allowance has room for the outstanding
waived requests each time one of those two things happens.
-/

namespace ZeroRouter

open Relational

variable {row reservation : UsageReservation} {now : Timestamp} {event : UsageEvent}

/-- `COALESCE(byok_catalog_basis_usd, 0)`. -/
def UsageReservation.byokBasis (row : UsageReservation) : Decimal :=
  row.byokCatalogBasisUsd.getD 0

namespace World

/-- Admission set the request's reservation to zero. -/
def isWaived (w : World) (requestId : Uuid) : Prop :=
  ∃ a ∈ w.admitted, a.requestId = requestId ∧ a.plan.waived = true

instance (w : World) (requestId : Uuid) : Decidable (w.isWaived requestId) :=
  inferInstanceAs (Decidable (∃ a ∈ w.admitted, _))

/-- The bases of the user's waived requests that may still settle: unreleased,
    expired or not. -/
def waivedBasis (w : World) (userId : Uuid) : Decimal :=
  w.heldBy userId (·.releasedAt = none) (·.plan.waived = true) UsageReservation.byokBasis

/-- The allowance the user has consumed in a month. -/
def consumed (w : World) (userId : Uuid) (month : Timestamp) : Decimal :=
  w.db.userMonthlyByokCatalog month userId

/-- Nothing outstanding was waived, or the allowance covers all of it with `amount`
    on top of what is consumed. -/
def hasRoom (w : World) (userId : Uuid) (month : Timestamp) (amount : Decimal) : Prop :=
  w.waivedBasis userId = 0 ∨
    w.consumed userId month + amount + w.waivedBasis userId ≤ monthlyAllowance

instance (w : World) (userId : Uuid) (month : Timestamp) (amount : Decimal) :
    Decidable (w.hasRoom userId month amount) := inferInstanceAs (Decidable (_ ∨ _))

end World

/-- The user's requests are admitted and settled within one month, each BYOK settle
    at a catalog cost no larger than the basis it committed; a waived request that
    settles without one cost nothing. -/
def WithinBasis (userId : Uuid) (month : Timestamp) (w : World) (a : Action) : Prop :=
  (match a with
    | .beginUsageSession now _ request _ =>
        request.lane = .reserved → request.key.userId = userId → usageEventUtcMonth now = month
    | _ => True) ∧
  ∀ call ∈ w.settleCall a, call.intent.userId = userId →
    usageEventUtcMonth call.now = month ∧
      ∀ row ∈ w.db.usageReservations, row.isSettlable call.reservationId call.apiKeyId →
        (∀ catalog ∈ call.intent.byokCatalogUsd, ∃ basis ∈ row.byokCatalogBasisUsd,
          catalog ≤ basis) ∧
        (call.intent.byokCatalogUsd = none → w.isWaived row.id → call.intent.costUsd = 0)

instance (userId : Uuid) (month : Timestamp) (w : World) (a : Action) :
    Decidable (WithinBasis userId month w a) := by
  unfold WithinBasis
  have calls : Decidable (∀ call ∈ w.settleCall a, call.intent.userId = userId →
      usageEventUtcMonth call.now = month ∧
        ∀ row ∈ w.db.usageReservations.rows,
          row.isSettlable call.reservationId call.apiKeyId →
          (∀ catalog ∈ call.intent.byokCatalogUsd, ∃ basis ∈ row.byokCatalogBasisUsd,
            catalog ≤ basis) ∧
          (call.intent.byokCatalogUsd = none → w.isWaived row.id → call.intent.costUsd = 0)) :=
    inferInstance
  induction a using Action.casesOn <;> exact instDecidableAnd

/-- The allowance has room for the outstanding waived requests whenever a request
    that was not waived settles a catalog cost, and whenever another is waived. -/
def WaiversCovered (userId : Uuid) (month : Timestamp) (w : World) (a : Action) : Prop :=
  (match a with
    | .beginUsageSession now _ request _ => request.key.userId = userId →
        ∀ swept ∈ (w.db.sweepExpired now).toOption,
          (swept.admissionPlan now request).waived = true →
            { w with db := swept }.hasRoom userId month (request.byok.catalogBasis.getD 0)
    | _ => True) ∧
  ∀ call ∈ w.settleCall a, call.intent.userId = userId →
    ∀ row ∈ w.db.usageReservations, row.isSettlable call.reservationId call.apiKeyId →
      ¬ w.isWaived row.id →
        ∀ catalog ∈ call.intent.byokCatalogUsd, w.hasRoom userId month catalog

instance (userId : Uuid) (month : Timestamp) (w : World) (a : Action) :
    Decidable (WaiversCovered userId month w a) := by
  unfold WaiversCovered
  have calls : Decidable (∀ call ∈ w.settleCall a, call.intent.userId = userId →
      ∀ row ∈ w.db.usageReservations.rows, row.isSettlable call.reservationId call.apiKeyId →
        ¬ w.isWaived row.id →
          ∀ catalog ∈ call.intent.byokCatalogUsd, w.hasRoom userId month catalog) :=
    inferInstance
  induction a using Action.casesOn <;> exact instDecidableAnd

/-! ## What is consumed -/

section Step

variable {w w' : World} {a : Action} {userId : Uuid} {month : Timestamp} {swept : Db}
  {call : World.SettleCall} {admission : Admission}

theorem byokBasis_nonneg (t : Table usageReservationsTable) (hrow : row ∈ t) :
    0 ≤ row.byokBasis := by
  unfold UsageReservation.byokBasis
  cases hbasis : row.byokCatalogBasisUsd with
  | none => exact le_refl _
  | some basis => exact (t.checked row hrow).byokCatalogBasisIsNonnegative basis hbasis

theorem byokBasis_of_mem {basis : Decimal} (h : basis ∈ row.byokCatalogBasisUsd) :
    row.byokBasis = basis := by
  rw [Option.mem_def] at h
  rw [UsageReservation.byokBasis, h, Option.getD_some]

theorem waivedBasis_nonneg (w : World) : 0 ≤ w.waivedBasis userId :=
  sumWhere_nonneg fun _ hrow _ => byokBasis_nonneg _ hrow

/-- A settle, an admission and an allowance window of one month read one total. -/
theorem consumed_read (w : World) (inMonth : usageEventUtcMonth now = month) :
    w.db.userMonthlyByokCatalog now userId = w.consumed userId month := by
  have start : usageEventUtcMonth month = usageEventUtcMonth now := by
    rw [← inMonth]
    exact Civil.utcMonth.idem now
  unfold World.consumed Db.userMonthlyByokCatalog
  rw [start]

/-- Allowance is consumed by a settle, of the catalog cost it meters, and by nothing
    else. -/
theorem consumed_step (inv : Inv w) (tallied : w.db.Tallied) (h : Change w a w') :
    w'.consumed userId month = w.consumed userId month ∨
      ∃ call reservation event, w.settleCall a = some call ∧
        Settled w.db call.now call.reservationId call.apiKeyId call.intent reservation event
          w'.db ∧
        w'.consumed userId month = w.consumed userId month +
          if w.db.owns userId event.apiKeyId ∧ usageEventUtcMonth month ≤ event.ts then
            event.byokCatalog else 0 := by
  have read := tallied.userMonthlyByokCatalog month userId
  have read' := (tallied.step h).userMonthlyByokCatalog month userId
  unfold World.consumed
  rw [read, read']
  rcases metering_step h with ⟨same, -, -, -⟩ | ⟨event, inserted, -, -, -, keys, -, origin⟩
  · refine .inl ?_
    rw [same]
    refine sumWhere_ext fun event hevent => ?_
    by_cases house : event.byokCatalogUsd = none
    · simp [UsageEvent.byokCatalog, house]
    · have iff := owns_step_iff h (inv.byok_owned hevent house) userId
      exact if_congr (and_congr_left fun _ => iff) rfl rfl
  · have owns : w'.db.owns = w.db.owns := Db.owns_of_apiKeys keys
    rw [(Table.insert_ok inserted).1, sumWhere_append, sumWhere_cons, sumWhere_nil, add_zero]
    simp only [owns]
    cases origin with
    | free session mem free requestId apiKeyId costless house =>
        have nothing : event.byokCatalog = 0 := by
          simp [UsageEvent.byokCatalog, house]
        rw [nothing, ite_self, add_zero]
        exact .inl rfl
    | settled call called timely reservation effect =>
        exact .inr ⟨call, reservation, event, called, effect, rfl⟩

/-! ## What is waived -/

/-- Only an admission adds to what is waived. -/
theorem waivedBasis_step (inv : Inv w) (h : Change w a w') (same : w'.admitted = w.admitted) :
    w'.waivedBasis userId ≤ w.waivedBasis userId := by
  refine heldBy_step inv h same (fun row hrow _ => byokBasis_nonneg _ hrow) ?_
  intro old new moved unreleased
  refine ⟨moved.unreleased unreleased, ?_⟩
  unfold UsageReservation.byokBasis
  rw [moved.columns.byokCatalogBasisUsd]

theorem waivedBasis_swept (sweep : Swept now w.db swept) :
    { w with db := swept }.waivedBasis userId ≤ w.waivedBasis userId := by
  refine heldBy_swept sweep (fun row hrow _ => byokBasis_nonneg _ hrow) ?_
  intro old new parked unreleased
  rw [parked.releasedAt] at unreleased
  refine ⟨unreleased, ?_⟩
  unfold UsageReservation.byokBasis
  rw [parked.columns.byokCatalogBasisUsd]

/-- A waived row that may still settle is part of what is outstanding. -/
theorem byokBasis_le_waivedBasis (hrow : row ∈ w.db.usageReservations)
    (owned : w.db.owns userId row.apiKeyId) (unreleased : row.releasedAt = none)
    (waived : w.isWaived row.id) : row.byokBasis ≤ w.waivedBasis userId := by
  have alone := sumWhere_sublist_le
    (p := fun row => (w.db.owns userId row.apiKeyId ∧ row.releasedAt = none) ∧
      ∃ a ∈ w.admitted, a.requestId = row.id ∧ a.plan.waived = true)
    (f := UsageReservation.byokBasis) (List.singleton_sublist.mpr hrow)
    fun other hother _ => byokBasis_nonneg _ hother
  rw [sumWhere_cons, if_pos ⟨⟨owned, unreleased⟩, waived⟩, sumWhere_nil, add_zero] at alone
  exact alone

/-- Room is kept by a step that lets go of what it consumes. -/
theorem World.hasRoom.kept {amount amount' : Decimal} (room : w.hasRoom userId month amount)
    (fewer : w'.waivedBasis userId ≤ w.waivedBasis userId)
    (total : w'.consumed userId month + amount' + w'.waivedBasis userId ≤
      w.consumed userId month + amount + w.waivedBasis userId) :
    w'.hasRoom userId month amount' := by
  rcases room with nothing | room
  · rw [nothing] at fewer
    exact .inl (le_antisymm fewer (waivedBasis_nonneg w'))
  · exact .inr (total.trans room)

/-- And by a step that consumes nothing. -/
theorem World.hasRoom.idle (room : w.hasRoom userId month 0)
    (fewer : w'.waivedBasis userId ≤ w.waivedBasis userId)
    (same : w'.consumed userId month = w.consumed userId month) : w'.hasRoom userId month 0 := by
  refine room.kept fewer ?_
  rw [same]
  exact add_le_add (le_refl _) fewer

/-- A waived row that settles is no longer outstanding. -/
theorem waivedBasis_settled (same : w'.admitted = w.admitted) {reservationId apiKeyId : Uuid}
    {intent : SettlementIntent}
    (effect : Settled w.db now reservationId apiKeyId intent reservation event w'.db)
    (owned : w.db.owns userId apiKeyId) (waived : w.isWaived reservation.id) :
    w.waivedBasis userId = reservation.byokBasis + w'.waivedBasis userId := by
  have split : w.heldBy userId (·.releasedAt = none) (·.plan.waived = true)
      UsageReservation.byokBasis = _ := heldBy_settled effect
  have hown : w.db.owns userId reservation.apiKeyId := effect.settlable.2.1 ▸ owned
  have after : { w with db := w'.db }.heldBy userId (·.releasedAt = none)
      (·.plan.waived = true) UsageReservation.byokBasis = w'.waivedBasis userId := by
    unfold World.waivedBasis World.heldBy
    rw [same]
  rw [if_pos ⟨⟨hown, effect.settlable.2.2⟩, waived⟩, after] at split
  exact split

/-- Every waived request that settled was free, and the allowance covers those that
    may still settle. -/
structure Waivers (userId : Uuid) (month : Timestamp) (w : World) : Prop where
  room : w.hasRoom userId month 0
  free : ∀ admission ∈ w.admitted, admission.request.key.userId = userId →
    admission.plan.waived = true → ∀ event ∈ w.db.usageEvents,
      event.requestId = admission.requestId → event.costUsd = 0

/-- What a settle consumes was set aside for it, or fits next to what is. -/
theorem Waivers.room_settled (inv : Inv w) (waivers : Waivers userId month w)
    (within : WithinBasis userId month w a) (covered : WaiversCovered userId month w a)
    (h : Change w a w') (same : w'.admitted = w.admitted) (called : w.settleCall a = some call)
    (effect : Settled w.db call.now call.reservationId call.apiKeyId call.intent reservation
      event w'.db)
    (grown : w'.consumed userId month = w.consumed userId month +
      if w.db.owns userId event.apiKeyId ∧ usageEventUtcMonth month ≤ event.ts then
        event.byokCatalog else 0) : w'.hasRoom userId month 0 := by
  have fewer : w'.waivedBasis userId ≤ w.waivedBasis userId := waivedBasis_step inv h same
  by_cases owned : w.db.owns userId event.apiKeyId
  swap
  · rw [if_neg fun counts => owned counts.1, add_zero] at grown
    exact waivers.room.idle fewer grown
  rw [effect.eventApiKeyId] at owned
  have user := inv.settle_owner called owned
  have settles := (within.2 call called user).2 reservation effect.reservationMem effect.settlable
  rcases Db.priceSettlement_ok effect.priced with ⟨-, house, -⟩ | ⟨catalog, byok, priced, -⟩
  · have nothing : event.byokCatalog = 0 := by
      simp [UsageEvent.byokCatalog, house]
    rw [nothing, ite_self, add_zero] at grown
    exact waivers.room.idle fewer grown
  · have amount : event.byokCatalog = catalog := by
      simp [UsageEvent.byokCatalog, priced]
    have total : w'.consumed userId month ≤ w.consumed userId month + catalog := by
      have nonneg : 0 ≤ catalog :=
        (Table.insert_ok effect.events).2.1.byokCatalogIsNonnegative catalog priced
      rw [grown, amount]
      refine add_le_add (le_refl _) ?_
      split
      · exact le_refl _
      · exact nonneg
    by_cases waived : w.isWaived reservation.id
    · -- Its basis was outstanding, and is no longer.
      obtain ⟨basis, hbasis, hle⟩ := settles.1 catalog byok
      have split := waivedBasis_settled same effect owned waived
      rw [byokBasis_of_mem hbasis] at split
      refine waivers.room.kept fewer ?_
      linarith
    · have room := covered.2 call called user reservation effect.reservationMem effect.settlable
        waived catalog byok
      refine room.kept fewer ?_
      linarith

/-- An admission that is waived fits next to what was waived before it. -/
theorem Waivers.room_admitted (inv : Inv w) (tallied : w.db.Tallied)
    (waivers : Waivers userId month w) (within : WithinBasis userId month w a)
    (covered : WaiversCovered userId month w a) (h : Change w a w') {keyState : KeyState}
    {user : User} {table : Table usageReservationsTable}
    (admitted : Admitted w a w' admission swept keyState user table) :
    w'.hasRoom userId month 0 := by
  obtain ⟨fate, action⟩ := admitted.action
  subst action
  have kept : w'.consumed userId month = w.consumed userId month := by
    rcases consumed_step inv tallied h with same | ⟨call, -, -, called, -⟩
    · exact same
    · cases called
  have sweptKept : { w with db := swept }.consumed userId month = w.consumed userId month := by
    unfold World.consumed
    rw [admitted.sweep.rest]
    rfl
  have fewer : { w with db := swept }.waivedBasis userId ≤ w.waivedBasis userId :=
    waivedBasis_swept admitted.sweep
  have grown : w'.heldBy userId (·.releasedAt = none) (·.plan.waived = true)
      UsageReservation.byokBasis = _ := heldBy_admitted inv admitted
  change w'.waivedBasis userId = { w with db := swept }.waivedBasis userId + _ at grown
  by_cases counts : w.db.owns userId admission.request.key.id ∧ admission.plan.waived = true
  swap
  · rw [if_neg fun held => counts ⟨held.1.1, held.2⟩, add_zero] at grown
    rw [← grown] at fewer
    exact waivers.room.idle fewer kept
  obtain ⟨owned, waived⟩ := counts
  rw [if_pos ⟨⟨owned, rfl⟩, waived⟩] at grown
  have owner : admission.request.key.userId = userId :=
    Db.owns_unique admitted.allowed.owned owned
  have inMonth := within.1 admitted.lane owner
  rw [admitted.plan] at waived
  obtain ⟨basis, hbasis, -, fits⟩ := reservesNoByokFee_eq_true.mp waived
  have value : admission.row.byokBasis = basis := byokBasis_of_mem hbasis
  have nonneg : 0 ≤ basis := by
    rw [← value]
    exact byokBasis_nonneg table admitted.row_mem
  rw [value] at grown
  have sweep : w.db.sweepExpired admission.now = .ok swept := by
    have sweptFor := admitted.allowed.sweep
    rw [admitted.lane] at sweptFor
    exact sweptFor
  have room := covered.1 owner swept (by rw [sweep]; rfl) waived
  rw [hbasis] at room
  change { w with db := swept }.hasRoom userId month basis at room
  rcases room with nothing | room
  · -- Nothing else is outstanding: the gate itself left room for the whole basis.
    rw [nothing, zero_add] at grown
    have committed :
        0 ≤ (swept.reservedUsage admission.now admission.request.key).userCommittedByokCatalog :=
      sumWhere_nonneg fun row hrow _ => byokBasis_nonneg swept.usageReservations hrow
    have read : swept.userMonthlyByokCatalog admission.now admission.request.key.userId =
        w.consumed userId month := by
      rw [owner, ← sweptKept]
      exact consumed_read { w with db := swept } inMonth
    rw [read] at fits
    rcases le_max_iff.mp fits with fits | fits
    · refine .inr ?_
      rw [kept, grown]
      linarith
    · refine .inl ?_
      rw [grown]
      exact le_antisymm fits nonneg
  · refine .inr ?_
    rw [kept, grown]
    rw [sweptKept] at room
    linarith

/-- A metering row of a waived request says it was charged nothing. -/
theorem Waivers.free_settled (inv : Inv w) (waivers : Waivers userId month w)
    (within : WithinBasis userId month w a) (called : w.settleCall a = some call) {db : Db}
    (effect : Settled w.db call.now call.reservationId call.apiKeyId call.intent
      reservation event db) (hadm : admission ∈ w.admitted)
    (owner : admission.request.key.userId = userId) (waived : admission.plan.waived = true)
    (hid : event.requestId = admission.requestId) : event.costUsd = 0 := by
  obtain ⟨other, hother, hcall, hkey, huser, -⟩ := inv.settleCall called
  have same : other = admission :=
    inv.unique other hother admission hadm ((hcall.trans effect.eventRequestId.symm).trans hid)
  subst same
  have user : call.intent.userId = userId := huser.trans owner
  obtain ⟨inMonth, settles⟩ := within.2 call called user
  have settles := settles reservation effect.reservationMem effect.settlable
  have isWaived : w.isWaived reservation.id :=
    ⟨other, hadm, hcall.trans effect.settlable.1.symm, waived⟩
  rcases Db.priceSettlement_ok effect.priced with ⟨house, -, charged⟩ | ⟨catalog, byok, -, charged⟩
  · rw [charged]
    exact settles.2 house isWaived
  obtain ⟨basis, hbasis, hle⟩ := settles.1 catalog byok
  have owned : w.db.owns userId reservation.apiKeyId := by
    rw [effect.settlable.2.1, ← hkey, ← owner]
    exact inv.keys other hadm
  have part := byokBasis_le_waivedBasis effect.reservationMem owned effect.settlable.2.2 isWaived
  have value : reservation.byokBasis = basis := byokBasis_of_mem hbasis
  rw [value] at part
  have fits : catalog ≤ remainingAllowance (w.consumed userId month) := by
    rcases waivers.room with nothing | room
    · rw [nothing] at part
      exact le_max_of_le_right (hle.trans part)
    · rw [add_zero] at room
      exact Allowance.le_remaining room (hle.trans part)
  have fee : billableAboveAllowance catalog (w.consumed userId month) = 0 :=
    Allowance.billable_eq_zero fits
  rw [user, consumed_read w inMonth, fee, zero_mul] at charged
  refine le_antisymm (charged ▸ min_le_left _ _) ?_
  exact (Table.insert_ok effect.events).2.1.costIsNonnegative

theorem Waivers.step (inv : Inv w) (tallied : w.db.Tallied) (waivers : Waivers userId month w)
    (within : WithinBasis userId month w a) (covered : WaiversCovered userId month w a)
    (h : Change w a w') : Waivers userId month w' := by
  constructor
  · rcases admitted_cases h with same | ⟨_, _, _, _, _, admitted⟩
    · rcases consumed_step inv tallied h with
        kept | ⟨call, reservation, event, called, effect, grown⟩
      · have fewer : w'.waivedBasis userId ≤ w.waivedBasis userId :=
          waivedBasis_step inv h same
        exact waivers.room.idle fewer kept
      · exact waivers.room_settled inv within covered h same called effect grown
    · exact waivers.room_admitted inv tallied within covered h admitted
  · intro admission hadm owner waived event hevent hid
    rcases admitted_origin h hadm with before | ⟨fresh, -⟩
    · rcases event_origin h hevent with hold | new
      · exact waivers.free admission before owner waived event hold hid
      · cases new with
        | settled call called _ reservation effect =>
            exact waivers.free_settled inv within called effect before owner waived hid
        | free session mem free requestId =>
            exact absurd (hid.symm.trans requestId) (inv.free_ne mem free before)
    · -- Nothing was metered under an id that is fresh.
      rcases event_origin h hevent with hold | new
      · rcases inv.events event hold with ⟨other, hother, same, -⟩ | ⟨-, -, s, hs, -, same⟩
        · exact absurd (same.trans hid) (fresh.1 other hother)
        · exact absurd (same.trans hid) (fresh.2 s hs)
      · cases new with
        | settled call called _ reservation effect =>
            obtain ⟨other, hother, same, -⟩ := inv.settleCall called
            exact absurd ((same.trans effect.eventRequestId.symm).trans hid) (fresh.1 other hother)
        | free session mem _ requestId =>
            exact absurd (requestId.symm.trans hid) (fresh.2 session mem)

theorem Waivers.opening (h : w.Opening) : Waivers userId month w where
  room := by
    refine .inl ?_
    unfold World.waivedBasis World.heldBy
    rw [h.usageReservations]
    rfl
  free := by simp [h.admitted]

end Step

/-- Where the allowance always has room for the outstanding waived requests, each
    of them settles at a fee of exactly zero, so its debit is its whole fee,
    whatever else of the user's settles first. -/
theorem waived_requests_free {w₀ w : World} {userId : Uuid} {month : Timestamp}
    (opening : w₀.Opening)
    (run : Reaches (fun w a => WithinBasis userId month w a ∧ WaiversCovered userId month w a)
      w₀ w) :
    ∀ admission ∈ w.admitted, admission.request.key.userId = userId →
      admission.plan.waived = true → ∀ event ∈ w.db.usageEvents,
        event.requestId = admission.requestId →
          event.costUsd = 0 ∧ min event.costUsd admission.plan.reservedCostUsd = event.costUsd := by
  have waivers : Waivers userId month w := by
    refine (run.invariant
      (I := fun w => Inv w ∧ w.db.Tallied ∧ Waivers userId month w)
      ⟨.opening opening, .opening opening, .opening opening⟩
      fun _ _ _ h meets next => ?_).2.2
    have change := step_change next
    exact ⟨h.1.step change, h.2.1.step change, h.2.2.step h.1 h.2.1 meets.1 meets.2 change⟩
  intro admission hadm owner waived event hevent hid
  have free := waivers.free admission hadm owner waived event hevent hid
  refine ⟨free, ?_⟩
  rw [free, AdmissionPlan.reservedCostUsd, if_pos waived]
  exact min_self 0

/-- Two waived requests and one that is not, which settles first. -/
def coveredRun : List Action :=
  [.beginUsageSession 0 7 (byokRequest 3000 150) .commit,
    .beginUsageSession 0 8 (byokRequest 1500 75) .commit,
    .beginUsageSession 0 9 (byokRequest 4000 5) .commit,
    .settle 0 9 (byokRecord 500) .commit, .settle 0 7 (byokRecord 3000) .commit,
    .settle 0 8 (byokRecord 1500) .commit]

theorem waived_requests_free_covered :
    ∃ w : World, w.db.usageEvents.rows.map UsageEvent.requestId = [9, 7, 8] ∧
      (w.admitted.map fun a => a.plan.waived) = [false, true, true] ∧
      ∀ admission ∈ w.admitted, admission.request.key.userId = 1 →
        admission.plan.waived = true → ∀ event ∈ w.db.usageEvents,
          event.requestId = admission.requestId →
            event.costUsd = 0 ∧ min event.costUsd admission.plan.reservedCostUsd = event.costUsd := by
  have runs : (Transition.runWhile step
      (fun w a => WithinBasis 1 0 w a ∧ WaiversCovered 1 0 w a)
      (.fresh onePrepaidUser oneKey 0) coveredRun).any (fun w =>
        w.db.usageEvents.rows.map UsageEvent.requestId = [9, 7, 8] ∧
        (w.admitted.map fun a => a.plan.waived) = [false, true, true]) = true := by
    decide +kernel
  obtain ⟨w, run, hw⟩ := Transition.Steps.exists_of_runWhile runs
  obtain ⟨settled, waived⟩ := of_decide_eq_true hw
  exact ⟨w, settled, waived, waived_requests_free (World.opening_fresh _ _ _) run⟩

/-! A request that was not waived overtakes one that was.  At admission the waived
$3,000 fitted in the allowance; the other's $4,000 then consumes it first. -/

def oneFundedUser : Table usersTable where
  rows := [{ id := 1, creditBalanceUsd := 1000, frozenAt := none, frozenReason := none }]
  checked := by decide
  distinct := by decide

def oneUncappedKey : Table apiKeysTable where
  rows :=
    [{ id := 10, userId := 1, spendCapUsd := 1000, velocityCapTokensPerMin := 100000
       disabled := false, expiresAt := none, creditLimitUsd := none, creditLimitWindow := none }]
  checked := by decide +kernel
  distinct := by decide

def overtakenRun : List Action :=
  [.beginUsageSession 0 7 (byokRequest 3000 150) .commit,
    .beginUsageSession 0 8 (byokRequest 4000 200) .commit,
    .settle 0 8 (byokRecord 4000) .commit, .settle 0 7 (byokRecord 3000) .commit]

theorem waived_request_charged_overtaken :
    ∃ w, Reaches (WithinBasis 1 0) (.fresh oneFundedUser oneUncappedKey 0) w ∧
      ∃ admission ∈ w.admitted, admission.request.key.userId = 1 ∧
        admission.plan.waived = true ∧ ∃ event ∈ w.db.usageEvents,
          event.requestId = admission.requestId ∧ event.costUsd = 100 ∧
            min event.costUsd admission.plan.reservedCostUsd = 0 := by
  have runs : (Transition.runWhile step (WithinBasis 1 0) (.fresh oneFundedUser oneUncappedKey 0)
      overtakenRun).any (fun w =>
        ∃ admission ∈ w.admitted, admission.request.key.userId = 1 ∧
          admission.plan.waived = true ∧ ∃ event ∈ w.db.usageEvents.rows,
            event.requestId = admission.requestId ∧ event.costUsd = 100 ∧
              min event.costUsd admission.plan.reservedCostUsd = 0) = true := by
    decide +kernel
  obtain ⟨w, run, hw⟩ := Transition.Steps.exists_of_runWhile runs
  exact ⟨w, run, of_decide_eq_true hw⟩

end ZeroRouter
