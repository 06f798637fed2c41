import ZeroRouter.Proofs.Invariant
import ZeroRouter.Proofs.Retention

/-!
# The free lane gives away only what costs nothing

A schedule that is zero prices every usage at zero, and a route is admitted to the free
lane only where its tier sells at such a schedule and its rungs are bought at one.  A
request whose record costs nothing leaves every balance where it was, on either lane.
-/

namespace ZeroRouter

open Option Ordered Relational

variable {schedule : RateSchedule} {usage : OpenAiUsage} {rates : ModelRates} {route : CatalogRoute}
  {model : String} {inventory : DeclaredInventory} {walk : List ProviderCandidate} {db db' : Db}
  {now : Timestamp} {session : UsageSession}

/-! ## Zero schedules -/

/-- A table whose every effective rate is zero. -/
structure ModelRates.Zero (rates : ModelRates) : Prop where
  input : rates.inputPerMtok = some 0
  output : rates.outputPerMtok = some 0
  cached : rates.effectiveCachedInputPerMtok = some 0
  write : rates.effectiveCacheWritePerMtok = some 0

theorem ModelRates.areZero_iff : rates.areZero = true ↔ rates.Zero := by
  unfold areZero requiredRatesAreZero
  simp only [Bool.and_eq_true, decide_eq_true_eq]
  constructor
  · rintro ⟨⟨⟨hinput, houtput⟩, hcached⟩, hwrite⟩
    exact ⟨hinput, houtput, hcached, hwrite⟩
  · intro h
    exact ⟨⟨⟨h.input, h.output⟩, h.cached⟩, h.write⟩

/-- The dearest of rates that are all zero is zero. -/
theorem RateSchedule.dearestOf_zero {pick : ModelRates → Option Decimal}
    (h : ∀ table ∈ schedule.tables, pick table = some 0) : schedule.dearestOf pick = some 0 := by
  have hbase : schedule.base ∈ schedule.tables := List.mem_cons_self
  obtain ⟨top, htop, -⟩ := le_dearestOf hbase (h _ hbase)
  rw [htop]
  rcases foldl_max_eq_some htop with hnone | hmem
  · cases hnone
  · obtain ⟨table, htable, hpick⟩ := List.mem_filterMap.mp hmem
    rw [h table htable] at hpick
    exact hpick.symm

/-- A schedule of valid tables is zero exactly when each of its tables is. -/
theorem RateSchedule.Valid.areZero_iff (valid : schedule.Valid) :
    schedule.areZero = true ↔ ∀ table ∈ schedule.tables, table.Zero := by
  unfold RateSchedule.areZero
  rw [ModelRates.areZero_iff]
  constructor
  · intro h table htable
    have hvalid := valid table htable
    obtain ⟨hinput, houtput, hcached, hwrite⟩ := schedule.le_worstCase htable
    -- A billable rate no higher than zero is zero.
    have zero : ∀ {rate top : Option Decimal}, (∃ r, rate = some r) → Billable rate →
        (∀ r, rate = some r → ∃ t, top = some t ∧ r ≤ t) → top = some 0 → rate = some 0 := by
      intro rate top ⟨r, hr⟩ billable under htop
      obtain ⟨t, ht, hle⟩ := under r hr
      rw [htop, some.injEq] at ht
      have := (billable r hr).1
      rw [hr, some.injEq]
      linarith
    exact ⟨zero hvalid.input hvalid.billableInput hinput h.input,
      zero hvalid.output hvalid.billableOutput houtput h.output,
      zero hvalid.effectiveCached hvalid.billableEffectiveCached hcached h.cached,
      zero hvalid.effectiveWrite hvalid.billableEffectiveWrite hwrite h.write⟩
  · intro h
    unfold RateSchedule.worstCase
    by_cases hflat : schedule.conditional.isEmpty = true
    · rw [if_pos hflat]
      exact h _ List.mem_cons_self
    · rw [if_neg hflat]
      have hcached := schedule.dearestOf_zero fun table htable => (h table htable).cached
      have hwrite := schedule.dearestOf_zero fun table htable => (h table htable).write
      refine ⟨schedule.dearestOf_zero fun table htable => (h table htable).input,
        schedule.dearestOf_zero fun table htable => (h table htable).output, ?_, ?_⟩
      · simp [ModelRates.effectiveCachedInputPerMtok, hcached]
      · simp [ModelRates.effectiveCacheWritePerMtok, hwrite]

/-- A zero table prices every usage at zero. -/
theorem usageCost_of_zero (valid : rates.Valid) (zero : rates.Zero) (counted : usage.Counted) :
    usageCost rates usage = some 0 := by
  obtain ⟨cost, hcost⟩ := usageCost_total valid counted
  obtain ⟨-, hsum⟩ := usageCost_eq_some hcost
  have hinput : rates.inputRate = 0 := by simp [ModelRates.inputRate, zero.input]
  have houtput : rates.outputRate = 0 := by simp [ModelRates.outputRate, zero.output]
  have hcached : rates.cachedRate = 0 := by simp [ModelRates.cachedRate, zero.cached]
  have hwrite : rates.writeRate = 0 := by simp [ModelRates.writeRate, zero.write]
  rw [hinput, houtput, hcached, hwrite] at hsum
  have : cost = 0 := by linarith
  rw [hcost, this]

theorem RateSchedule.Valid.usageCost_zero (valid : schedule.Valid)
    (zero : schedule.areZero = true) (counted : usage.Counted) (promptTokens : Nat) :
    usageCost (schedule.atPromptTokens promptTokens) usage = some 0 :=
  usageCost_of_zero (valid.atPromptTokens promptTokens)
    (valid.areZero_iff.mp zero _ (schedule.atPromptTokens_mem promptTokens)) counted

/-- What costs no more than nothing costs nothing. -/
theorem usageCost_zero_of_atMost {other : ModelRates} (valid : rates.Valid)
    (h : rates.AtMost other) (counted : usage.Counted) (hother : usageCost other usage = some 0) :
    usageCost rates usage = some 0 := by
  obtain ⟨cost, hcost⟩ := usageCost_total valid counted
  have hle := usageCost_mono h hcost hother
  have hnonneg := usageCost_nonneg hcost
  rw [hcost, some.injEq]
  linarith

/-! ## Routes of a loaded catalog -/

namespace TierCatalog

variable {inventory : DeclaredInventory} {catalog : TierCatalog} {unifiedIdsEnabled : Bool}

/-- A name resolves to candidates of one served definition, at what it sells at. -/
theorem resolveModel_serves (h : resolveModel catalog unifiedIdsEnabled model = some route) :
    ∃ definition, catalog.Serves definition ∧ route.sellRates = definition.rates ∧
      route.candidates ⊆ definition.candidates := by
  rcases resolveModel_cases h with hresolve | hunified
  · unfold resolve at hresolve
    cases htier : (catalog.tiers.get? model).filter fun tier => !tier.candidates.isEmpty with
    | some definition =>
        rw [htier, some.injEq] at hresolve
        subst hresolve
        obtain ⟨hget, -⟩ := filter_eq_some_iff.mp htier
        exact ⟨definition, .inl ⟨model, hget⟩, rfl, List.Subset.refl _⟩
    | none =>
        rw [htier] at hresolve
        obtain ⟨definition, hvalue, hfound⟩ := List.exists_of_findSome?_eq_some hresolve
        obtain ⟨own, hown, rfl⟩ := map_eq_some_iff.mp hfound
        obtain ⟨tier, hget⟩ := SortedMap.mem_values_iff.mp hvalue
        refine ⟨definition, .inl ⟨tier, hget⟩, rfl, ?_⟩
        intro candidate hcandidate
        rw [List.mem_singleton.mp hcandidate]
        exact List.mem_of_find?_eq_some hown
  · obtain ⟨unified, hget, rfl⟩ := map_eq_some_iff.mp hunified
    exact ⟨unified.definition, .inr ⟨model, unified, hget, rfl⟩, rfl, List.Subset.refl _⟩

end TierCatalog

/-- A schedule a route is sold at, or one of its candidates bought at. -/
def CatalogRoute.Prices (route : CatalogRoute) (schedule : RateSchedule) : Prop :=
  schedule = route.sellRates ∨ ∃ own ∈ route.candidates, schedule = own.rates

/-- The route admits the free lane over a walk of its candidates. -/
structure GivenAway (inventory : DeclaredInventory) (route : CatalogRoute)
    (walk : List ProviderCandidate) : Prop where
  dispatches : ∀ candidate ∈ walk, candidate.definition ∈ route.resolved.candidates
  admissible : freeLaneAdmissible route.resolved walk (isFree inventory) = true

theorem GivenAway.sellsFree (h : GivenAway inventory route walk) :
    route.sellRates.areZero = true := by
  have := h.admissible
  unfold freeLaneAdmissible at this
  simp only [Bool.and_eq_true] at this
  exact this.1.1

/-- A route given away is sold, and every candidate of it bought, for nothing. -/
theorem GivenAway.usageCost_zero {catalog : TierCatalog} (loaded : catalog.Loaded inventory)
    (synthesized : catalog.unified = catalog.groups.filterMap TierCatalog.unify)
    {unifiedIdsEnabled : Bool} {requested : CatalogRoute}
    (hrequested : resolveModel catalog unifiedIdsEnabled model = some requested)
    (narrows : route.Narrows requested) (h : GivenAway inventory route walk)
    (hprices : route.Prices schedule) (counted : usage.Counted) (promptTokens : Nat) :
    usageCost (schedule.atPromptTokens promptTokens) usage = some 0 := by
  obtain ⟨definition, served, hsells, hsubset⟩ := TierCatalog.resolveModel_serves hrequested
  obtain ⟨hvalid, hunder⟩ := loaded.atMost_served synthesized served
  have hsold : usageCost (definition.rates.atPromptTokens promptTokens) usage = some 0 := by
    apply hvalid.usageCost_zero _ counted
    rw [← hsells, ← narrows.sellRates]
    exact h.sellsFree
  rcases hprices with rfl | ⟨own, hown, rfl⟩
  · rw [narrows.sellRates, hsells]
    exact hsold
  · obtain ⟨hbasis, hmargin⟩ := hunder own (hsubset (narrows.candidates.subset hown))
    exact usageCost_zero_of_atMost (hbasis.atPromptTokens promptTokens) (hmargin promptTokens)
      counted hsold

/-- Metering a usage that the catalog prices at zero records a zero cost. -/
theorem SettleCall.record_zero (call : SettleCall)
    (h : usageCost (call.sellRates.atPromptTokens call.usage.promptTokens) call.usage = some 0) :
    ∃ record, call.record = some record ∧ record.costUsd = 0 ∧ record.usage = call.usage := by
  have hfee : applyFee 0 call.features.byokRate = some 0 := by
    simp [applyFee, checkedMul, decimalMax]
  unfold SettleCall.record
  rw [h]
  simp only [bind_eq_bind, bind_some, hfee, pure_def]
  exact ⟨_, rfl, rfl, rfl⟩

/-! ## A request that costs nothing -/

/-- The statements made for one request, by it, by the sweeps or by an operator. -/
def Action.Names (requestId : Uuid) : Action → Prop
  | .beginUsageSession _ id _ _ | .markDispatched _ id | .persistIntent _ id _
  | .persistForeignIntent _ id _ _ | .settle _ id _ _ | .observeFreeUsage _ id _
  | .recordSettleFailure _ id _ | .discard id _ | .release _ id _ _ _ => id = requestId
  | .replay _ owed _ => owed.reservationId = requestId
  | _ => False

/-- Whatever else happens, what is stored or settled for the request costs nothing. -/
def Action.AtZero (requestId : Uuid) : Action → Prop
  | .persistIntent _ id record | .settle _ id record _ => id = requestId → record.costUsd = 0
  | _ => True

/-- A payload a recovery pass would settle for nothing. -/
def SettlementPayload.Zero (payload : SettlementPayload) : Prop :=
  ∀ intent, payload.readIntent = .ok intent → intent.toRecord.costUsd = 0

/-- What the system holds of the request costs nothing, and the ledger never names it. -/
structure Gratis (requestId : Uuid) (w : World) : Prop where
  rows : ∀ row ∈ w.db.usageReservations, row.id = requestId →
    ∀ payload, row.settlementIntent = some payload → payload.Zero
  batch : ∀ owed ∈ w.batch, owed.reservationId = requestId → owed.payload.Zero
  ledger : ∀ row ∈ w.db.creditLedger, row.requestId ≠ some requestId

section Gratis

variable {w w' : World} {a : Action} {requestId : Uuid}

/-- Nothing is held of a request that has not begun. -/
theorem Gratis.of_fresh (inv : Inv w) (fresh : w.isFresh requestId) : Gratis requestId w := by
  refine ⟨?_, ?_, ?_⟩
  · intro row hrow hid
    obtain ⟨admission, hadmission, columns⟩ := inv.rows row hrow
    exact absurd (columns.id.symm.trans hid) (fresh.1 admission hadmission)
  · intro owed howed hid
    obtain ⟨admission, hadmission, hsame, -⟩ := inv.batch owed howed
    exact absurd (hsame.trans hid) (fresh.1 admission hadmission)
  · intro row hrow hid
    obtain ⟨admission, hadmission, event, -, hsame, -⟩ := inv.ledger row hrow requestId hid
    exact fresh.1 admission hadmission hsame

/-- Every settle made for the request settles a record that costs nothing. -/
theorem Gratis.settleCall (gratis : Gratis requestId w) (atZero : a.AtZero requestId)
    {call : World.SettleCall} (called : w.settleCall a = some call)
    (hid : call.reservationId = requestId) : call.intent.toRecord.costUsd = 0 := by
  cases a with
  | settle now id record fate =>
      obtain ⟨⟨session, reservation⟩, held, rfl⟩ := map_eq_some_iff.mp called
      exact atZero hid
  | replay now owed fate =>
      simp only [World.settleCall] at called
      split at called
      · next hbatch =>
          split at called
          · next intent hread =>
              cases called
              exact gratis.batch owed hbatch hid intent hread
          · cases called
      · cases called
  | _ => cases called

/-- A settle priced at nothing debits nothing. -/
theorem Settled.unmoved {reservationId apiKeyId : Uuid} {intent : SettlementIntent}
    {reservation : UsageReservation} {event : UsageEvent}
    (effect : Settled db now reservationId apiKeyId intent reservation event db')
    (hcost : intent.toRecord.costUsd = 0) :
    db'.users = db.users ∧ db'.creditLedger = db.creditLedger := by
  have hevent : event.costUsd ≤ 0 := by
    rcases Db.priceSettlement_ok effect.priced with ⟨-, -, h⟩ | ⟨catalog, -, -, h⟩
    · rw [h, hcost]
    · rw [h, hcost]
      exact min_le_right _ _
  rcases effect.money with ⟨-, husers, hledger⟩ | ⟨user, -, -, -, hpositive, -⟩
  · exact ⟨husers, hledger⟩
  · exact absurd hpositive (not_lt.mpr ((min_le_left _ _).trans hevent))

theorem Gratis.rows_step (gratis : Gratis requestId w) (atZero : a.AtZero requestId)
    (h : Change w a w') :
    ∀ row ∈ w'.db.usageReservations, row.id = requestId →
      ∀ payload, row.settlementIntent = some payload → payload.Zero := by
  intro row hrow hid payload hpayload
  rcases reservation_origin h hrow with ⟨old, hold, moved⟩ | ⟨admission, -, -, rfl⟩
  · have oldId : old.id = requestId := moved.columns.id.symm.trans hid
    rcases moved.settlementIntent with same | ⟨written, source, hwritten⟩
    · exact gratis.rows old hold oldId payload (same ▸ hpayload)
    · have hw : written = payload := Option.some.inj (hwritten.symm.trans hpayload)
      subst hw
      cases a with
      | persistIntent now id record =>
          obtain ⟨session, reservation, -, hsame, -, rfl⟩ := source
          intro intent hread
          cases hread
          exact atZero (hsame.symm.trans oldId)
      | persistForeignIntent now id apiKeyId foreign =>
          obtain ⟨-, -, rfl, unread⟩ := source
          intro intent hread
          rw [hread] at unread
          cases unread
      | _ => cases source
  · cases hpayload

theorem Gratis.batch_step (gratis : Gratis requestId w) (h : Change w a w') :
    ∀ owed ∈ w'.batch, owed.reservationId = requestId → owed.payload.Zero := by
  intro owed howed hid
  cases h with
  | batched batch read =>
      rcases read owed howed with hold | ⟨row, hrow, hread⟩
      · exact gratis.batch owed hold hid
      · obtain ⟨payload, hpayload, rfl⟩ := map_eq_some_iff.mp hread
        exact gratis.rows row hrow hid payload hpayload
  | _ => exact gratis.batch owed howed hid

theorem Gratis.ledger_step (gratis : Gratis requestId w) (atZero : a.AtZero requestId)
    (h : Change w a w') : ∀ row ∈ w'.db.creditLedger, row.requestId ≠ some requestId := by
  intro row hrow hid
  rcases ledger_origin h hrow hid with
    older | ⟨call, reservation, event, called, effect, -, hcall, -⟩
  · exact gratis.ledger row older hid
  · have := (effect.unmoved (gratis.settleCall atZero called hcall.symm)).2
    rw [this] at hrow
    exact gratis.ledger row hrow hid

theorem Gratis.step (gratis : Gratis requestId w) (atZero : a.AtZero requestId)
    (h : Change w a w') : Gratis requestId w' :=
  ⟨gratis.rows_step atZero h, gratis.batch_step h, gratis.ledger_step atZero h⟩

/-- Through a whole run, whichever lane the request takes. -/
theorem Gratis.reaches (start : Gratis requestId w)
    (run : Reaches (fun _ a => a.AtZero requestId) w w') : Gratis requestId w' :=
  run.invariant start fun _ _ _ gratis atZero next => gratis.step atZero (step_change next)

/-- No statement made for the request moves a balance. -/
theorem Gratis.unmoved (gratis : Gratis requestId w) (atZero : a.AtZero requestId)
    (names : a.Names requestId) (h : Change w a w') :
    w'.db.users = w.db.users ∧ w'.db.creditLedger = w.db.creditLedger := by
  cases h with
  | stay | ticked | batched | opened | admitted | parked | persisted | released | discarded
  | keyAdded | keyDisabled => exact ⟨rfl, rfl⟩
  | posted posting action db moved =>
      subst action
      cases names
  | settled call called timely reservation event db effect =>
      have hid : call.reservationId = requestId := by
        cases a with
        | settle now id record fate =>
            obtain ⟨held, -, rfl⟩ := map_eq_some_iff.mp called
            exact names
        | replay now owed fate =>
            simp only [World.settleCall] at called
            split at called
            · split at called
              · cases called
                exact names
              · cases called
            · cases called
        | _ => cases called
      exact effect.unmoved (gratis.settleCall atZero called hid)
  | metered session mem free event timely _ apiKeyId costless house db inserted =>
      obtain ⟨events, month, day, total, -, -, -, -, -, rfl⟩ := Db.insertUsageEvent_ok inserted
      exact ⟨rfl, rfl⟩

end Gratis

/-- A session of the free lane in any reachable state: nothing is reserved for it,
    nothing debited, and nothing it records costs anything. -/
structure NeverCharged (w : World) (session : UsageSession) : Prop where
  reservations : ∀ row ∈ w.db.usageReservations, row.id ≠ session.requestId
  ledger : ∀ row ∈ w.db.creditLedger, row.requestId ≠ some session.requestId
  events : ∀ event ∈ w.db.usageEvents, event.requestId = session.requestId → event.costUsd = 0

theorem Inv.neverCharged {w : World} (inv : Inv w) (hmem : session ∈ w.sessions)
    (free : session.reservation = none) : NeverCharged w session := by
  refine ⟨?_, ?_, ?_⟩
  · intro row hrow hid
    obtain ⟨admission, hadmission, columns⟩ := inv.rows row hrow
    exact inv.free_ne hmem free hadmission (columns.id.symm.trans hid)
  · intro row hrow hid
    obtain ⟨admission, hadmission, event, -, hsame, -⟩ :=
      inv.ledger row hrow session.requestId hid
    exact inv.free_ne hmem free hadmission hsame
  · intro event hevent hid
    rcases inv.events event hevent with ⟨admission, hadmission, hsame, -⟩ | ⟨costless, -⟩
    · exact absurd (hsame.trans hid) (inv.free_ne hmem free hadmission)
    · exact costless

/-- What an admission to the free lane leaves behind: a session and no row. -/
theorem Db.beginUsageSession_free {requestId : Uuid} {request : AdmissionRequest}
    (lane : request.lane = .free)
    (h : db.beginUsageSession now requestId request = .ok (.allowed session, db')) :
    session.reservation = none ∧ db' = db := by
  obtain ⟨swept, keyState, user, allowed, hdb⟩ := Db.beginUsageSession_allowed h
  have hswept := allowed.sweep
  rw [lane] at hswept hdb
  cases hswept
  refine ⟨?_, hdb⟩
  rw [allowed.session]
  simp [newSession, lane]

/-! ## The lanes compared -/

/-- What the free lane promises. -/
structure FreeLaneHolds (inventory : DeclaredInventory) (catalog : TierCatalog) : Prop where
  /-- The lane is taken only over a route given away. -/
  admits : ∀ services key request effects admitted, services.inventory = inventory →
    inference services key request catalog = (effects, .ok admitted) → admitted.lane = .free →
      ∃ model requested,
        resolveModel catalog services.unifiedIdsEnabled model = some requested ∧
          admitted.route.Narrows requested ∧
          GivenAway inventory admitted.route admitted.candidates
  /-- A schedule in use is zero exactly when every band's effective rates are. -/
  zero_iff : ∀ unifiedIdsEnabled model route,
    resolveModel catalog unifiedIdsEnabled model = some route → ∀ schedule, route.Prices schedule →
      (schedule.areZero = true ↔ ∀ table ∈ schedule.tables, table.Zero)
  /-- On a route given away, every schedule prices every usage of every size at zero. -/
  prices : ∀ unifiedIdsEnabled model requested route walk,
    resolveModel catalog unifiedIdsEnabled model = some requested → route.Narrows requested →
    GivenAway inventory route walk →
      ∀ usage : OpenAiUsage, usage.Counted → ∀ promptTokens,
        (∀ schedule, route.Prices schedule →
          usageCost (schedule.atPromptTokens promptTokens) usage = some 0) ∧
        ∀ candidate ∈ walk,
          usageCost (candidate.definition.rates.atPromptTokens promptTokens) usage = some 0
  /-- What the metered path would record there costs nothing. -/
  records : ∀ unifiedIdsEnabled model requested route walk,
    resolveModel catalog unifiedIdsEnabled model = some requested → route.Narrows requested →
    GivenAway inventory route walk →
      ∀ call : SettleCall, call.sellRates = route.sellRates → call.usage.Counted →
        ∃ record, call.record = some record ∧ record.costUsd = 0
  /-- Admission to the free lane opens a session and writes nothing. -/
  opens : ∀ (db db' : Db) now requestId request session, request.lane = .free →
    db.beginUsageSession now requestId request = .ok (.allowed session, db') →
      session.reservation = none ∧ db' = db
  /-- In every state reached, a free session was never charged. -/
  sessions : ∀ w₀ w : World, w₀.Opening → Reaches (fun _ _ => True) w₀ w →
    ∀ session ∈ w.sessions, session.reservation = none → NeverCharged w session
  /-- A request whose records cost nothing moves no balance, whichever lane it takes and
      whatever runs beside it. -/
  either : ∀ w₀ w w' w'' : World, ∀ requestId action,
    w₀.Opening → Reaches (fun _ _ => True) w₀ w → w.isFresh requestId →
    Reaches (fun _ a => a.AtZero requestId) w w' → step w' action = some w'' →
    action.AtZero requestId → action.Names requestId →
      w''.db.users = w'.db.users ∧ w''.db.creditLedger = w'.db.creditLedger

/-- The free lane admits only what metering would settle at zero. -/
theorem free_lane_settles_at_zero {inventory : DeclaredInventory} {isDate : String → Bool}
    {file : TierFile} {catalog : TierCatalog}
    (h : loadTierCatalog inventory isDate file = .ok catalog) : FreeLaneHolds inventory catalog := by
  obtain ⟨loaded, synthesized⟩ := loadTierCatalog_ok h
  refine ⟨?_, ?_, ?_, ?_, ?_, ?_, ?_⟩
  · intro services key request effects admitted hinventory hadmitted hlane
    subst hinventory
    obtain ⟨suffix, sizing, built, came⟩ := inference_ok hadmitted
    obtain ⟨requested, hrequested, hroute⟩ := routeRequest_ok came.routed
    obtain ⟨model, hmodel⟩ := resolveRequested_ok hrequested
    refine ⟨model, requested, hmodel, hroute.narrows, ?_, ?_⟩
    · intro candidate hcandidate
      obtain ⟨own, hown, hdefinition⟩ := came.definition hcandidate
      rw [← hdefinition]
      exact List.mem_map_of_mem hown
    · by_contra hpriced
      have hmetered := came.metered
      rw [hlane, meteringLane, if_neg hpriced] at hmetered
      cases hmetered
  · intro unifiedIdsEnabled model route hroute schedule hprices
    obtain ⟨definition, served, hsells, hsubset⟩ := TierCatalog.resolveModel_serves hroute
    obtain ⟨hvalid, hcandidates⟩ := loaded.atMost_served synthesized served
    rcases hprices with rfl | ⟨own, hown, rfl⟩
    · rw [hsells]
      exact hvalid.areZero_iff
    · exact (hcandidates own (hsubset hown)).1.areZero_iff
  · intro unifiedIdsEnabled model requested route walk hrequested narrows given usage counted
      promptTokens
    have hprices := fun schedule (hschedule : route.Prices schedule) =>
      given.usageCost_zero loaded synthesized hrequested narrows hschedule counted promptTokens
    refine ⟨hprices, ?_⟩
    intro candidate hcandidate
    obtain ⟨own, hown, hdefinition⟩ := List.mem_map.mp (given.dispatches candidate hcandidate)
    rw [← hdefinition]
    exact hprices own.rates (.inr ⟨own, hown, rfl⟩)
  · intro unifiedIdsEnabled model requested route walk hrequested narrows given call hsells counted
    have hcost : usageCost (call.sellRates.atPromptTokens call.usage.promptTokens) call.usage =
        some 0 := by
      rw [hsells]
      exact given.usageCost_zero loaded synthesized hrequested narrows (.inl rfl) counted _
    obtain ⟨record, hrecord, hcost, -⟩ := call.record_zero hcost
    exact ⟨record, hrecord, hcost⟩
  · intro db db' now requestId request session lane hbegin
    exact Db.beginUsageSession_free lane hbegin
  · intro w₀ w opening run session hsession free
    exact (Inv.reaches opening run).neverCharged hsession free
  · intro w₀ w w' w'' requestId action opening run fresh served next atZero names
    have gratis := (Gratis.of_fresh (Inv.reaches opening run) fresh).reaches served
    exact gratis.unmoved atZero names (step_change next)

theorem twins_give_away_the_local :
    (Twins.admitted .zdrOnly "local/llama").map (·.lane) = some .free ∧
      (Twins.admitted .zdrOnly "bedrock/haiku").map (·.lane) = some .reserved ∧
      FreeLaneHolds Twins.inventory Twins.catalog :=
  ⟨by decide +kernel, by decide +kernel, free_lane_settles_at_zero Twins.loads⟩

end ZeroRouter
