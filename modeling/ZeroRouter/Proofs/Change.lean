import ZeroRouter.Proofs.Operations

/-!
# Everything one step can do

`step_change` inverts `step` once: each constructor of `Change` is one effect on
the state, with the guards that were passed.  Every invariant below is a case
analysis of `Change`, and no other proof looks inside `step`.
-/

namespace ZeroRouter

open Option Relational List

variable {w : World} {a : Action} {result : Except SqlError Db} {fate : Fate} {requestId : Uuid}
  {call : World.SettleCall}

/-- The intent writes an action makes. -/
def World.persists (w : World) : Action → Uuid → Uuid → SettlementPayload → Prop
  | .persistIntent _ requestId record, id, apiKeyId, payload =>
      ∃ session reservation, w.reserved? requestId = some (session, reservation) ∧
        id = requestId ∧ apiKeyId = session.apiKeyId ∧
        payload = .readable (.new session reservation record)
  | .persistForeignIntent _ requestId foreignKey foreign, id, apiKeyId, payload =>
      id = requestId ∧ apiKeyId = foreignKey ∧ payload = foreign ∧
        foreign.readIntent.isOk = false
  | _, _, _, _ => False

/-- The effect of one step. -/
inductive Change (w : World) (a : Action) : World → Prop where
  | stay : Change w a w
  | ticked (clock : Timestamp) (action : a = .tick clock) (later : w.clock ≤ clock) :
      Change w a { w with clock }
  | batched (batch : List OwedSettlement)
      (read : ∀ owed ∈ batch, owed ∈ w.batch ∨
        ∃ row ∈ w.db.usageReservations, row.owedSettlement? = some owed) :
      Change w a { w with batch }
  | opened (session : UsageSession) (fresh : w.isFresh session.requestId)
      (free : session.reservation = none) :
      Change w a { w with sessions := session :: w.sessions }
  | admitted (now : Timestamp) (requestId : Uuid) (request : AdmissionRequest) (fate : Fate)
      (action : a = .beginUsageSession now requestId request fate) (timely : now ≤ w.clock)
      (fresh : w.isFresh requestId) (lane : request.lane = .reserved)
      (swept : Db) (keyState : KeyState) (user : User)
      (allowed : Allowed w.db now requestId request
        (newSession requestId request (swept.admissionPlan now request)) swept keyState user)
      (table : Table usageReservationsTable)
      (inserted : swept.usageReservations.insert
        (newReservation requestId now request (swept.admissionPlan now request)) = .ok table) :
      Change w a
        { w with
          db := { w.db with usageReservations := table }
          sessions :=
            if fate = .commit then
              newSession requestId request (swept.admissionPlan now request) :: w.sessions
            else w.sessions
          admitted :=
            { requestId, now, request, plan := swept.admissionPlan now request } :: w.admitted }
  | parked (table : Table usageReservationsTable)
      (rows : List.Forall₂ Parked w.db.usageReservations.rows table.rows) :
      Change w a { w with db := { w.db with usageReservations := table } }
  | persisted (requestId apiKeyId : Uuid) (payload : SettlementPayload)
      (source : w.persists a requestId apiKeyId payload)
      (table : Table usageReservationsTable)
      (rows : List.Forall₂ (Persisted requestId apiKeyId payload)
        w.db.usageReservations.rows table.rows) :
      Change w a { w with db := { w.db with usageReservations := table } }
  | released (requestId : Uuid) (exists_ : ∃ row ∈ w.db.usageReservations, row.id = requestId)
      (table : Table usageReservationsTable)
      (rows : List.Forall₂ (ReleasedBy requestId) w.db.usageReservations.rows table.rows) :
      Change w a { w with db := { w.db with usageReservations := table } }
  | settled (call : World.SettleCall) (called : w.settleCall a = some call)
      (timely : call.now ≤ w.clock) (reservation : UsageReservation) (event : UsageEvent) (db : Db)
      (effect : Settled w.db call.now call.reservationId call.apiKeyId call.intent reservation
        event db) :
      Change w a { w with db }
  | metered (session : UsageSession) (mem : session ∈ w.sessions)
      (free : session.reservation = none) (event : UsageEvent) (timely : event.ts ≤ w.clock)
      (requestId : event.requestId = session.requestId)
      (apiKeyId : event.apiKeyId = session.apiKeyId) (costless : event.costUsd = 0)
      (house : event.byokCatalogUsd = none) (db : Db)
      (inserted : w.db.insertUsageEvent event = .ok db) :
      Change w a { w with db }
  | discarded (reservationId apiKeyId : Uuid) :
      Change w a { w with db := w.db.discardSettledReservation reservationId apiKeyId }
  | posted (posting : Posting) (action : a = .post posting) (db : Db)
      (moved : w.db.moveBalance posting.userId posting.creditReversal .rowNotFound
        posting.amountUsd (fun balanceAfter =>
          { userId := posting.userId
            entryType := posting.entryType
            amountUsd := posting.amountUsd
            balanceAfterUsd := balanceAfter
            stripeSessionId := posting.stripeSessionId
            stripePaymentIntentId := posting.stripePaymentIntentId
            requestId := none
            note := posting.note }) = .ok db) :
      Change w a { w with db }
  | keyAdded (key : ApiKey) (action : a = .addKey key) (apiKeys : Table apiKeysTable)
      (inserted : w.db.apiKeys.insert key = .ok apiKeys) :
      Change w a { w with db := { w.db with apiKeys } }
  | keyDisabled (id : Uuid) (apiKeys : Table apiKeysTable)
      (updated : w.db.apiKeys.updateWhere (fun key => key.id = id)
        (fun key => { key with disabled := true }) = .ok apiKeys) :
      Change w a { w with db := { w.db with apiKeys } }

/-- A refused statement stays; a granted one changes what it says it changes. -/
theorem Change.of_run (granted : ∀ db, result = .ok db → Change w a { w with db }) :
    Change w a (w.run result) := by
  cases result with
  | error e => exact .stay
  | ok db => exact granted db rfl

theorem Change.of_transact (granted : ∀ db, result = .ok db → Change w a { w with db }) :
    Change w a (w.transact fate result) := by
  unfold World.transact
  split
  · exact .of_run granted
  · exact .stay

/-- The value a mapped result came from. -/
theorem exists_of_map_snd_eq_ok {α : Type} {result : Except SqlError (α × Db)} {db : Db}
    (h : result.map Prod.snd = .ok db) : ∃ value, result = .ok (value, db) := by
  cases result with
  | error e => cases h
  | ok pair => exact ⟨pair.1, by cases h; rfl⟩

theorem World.reserved?_some {session : UsageSession} {reservation : Reservation}
    (h : w.reserved? requestId = some (session, reservation)) :
    session ∈ w.sessions ∧ session.requestId = requestId ∧
      session.reservation = some reservation := by
  unfold World.reserved? World.session? at h
  obtain ⟨found, hfound, h⟩ := bind_eq_some_iff.mp h
  obtain ⟨held, hheld, hpair⟩ := map_eq_some_iff.mp h
  obtain ⟨rfl, rfl⟩ := Prod.mk.inj hpair
  have hid := find?_some hfound
  exact ⟨mem_of_find?_eq_some hfound, by simpa using hid, hheld⟩

/-- An admission is refused, opens a free session, or commits a reservation. -/
theorem Change.of_beginUsageSession {now : Timestamp} {request : AdmissionRequest}
    (timely : now ≤ w.clock) (fresh : w.isFresh requestId) :
    Change w (.beginUsageSession now requestId request fate) (w.runBeginUsageSession now requestId request fate) := by
  unfold World.runBeginUsageSession
  split
  · next session db hbegin =>
      split
      · obtain ⟨swept, keyState, user, allowed, hlane⟩ := Db.beginUsageSession_allowed hbegin
        have hsession := allowed.session
        subst hsession
        cases lane : request.lane with
        | free =>
            rw [lane] at hlane
            have hswept : swept = w.db := by
              have := allowed.sweep
              rw [lane] at this
              exact (Except.ok.inj this).symm
            subst hlane hswept
            by_cases seen : fate = .commit
            · simpa [seen] using Change.opened (w := w) (a := .beginUsageSession now requestId request fate)
                (newSession requestId request (w.db.admissionPlan now request)) fresh
                (by simp [newSession, lane])
            · simpa [seen] using Change.stay
        | reserved =>
            rw [lane] at hlane
            obtain ⟨table, inserted, hdb⟩ := hlane
            have hsweep := allowed.sweep
            rw [lane] at hsweep
            have rest : swept = { w.db with usageReservations := swept.usageReservations } :=
              (Db.sweepExpired_ok hsweep).rest
            have hdb' : db = { w.db with usageReservations := table } := by
              rw [hdb, rest]
            subst hdb'
            have horacle : ((w.db.sweptFor .reserved now).toOption.getD w.db) = swept := by
              rw [hsweep]
              rfl
            simp only [horacle, if_true]
            exact .admitted now requestId request fate rfl timely fresh lane swept keyState user
              allowed table inserted
      · exact .stay
  · exact .stay

/-- A call of `settle_once` settles or leaves everything as it was. -/
theorem Change.of_settle (called : w.settleCall a = some call) (timely : call.now ≤ w.clock) :
    Change w a (w.runSettle call) := by
  refine .of_transact fun db hdb => ?_
  obtain ⟨outcome, hsettle⟩ := exists_of_map_snd_eq_ok hdb
  rcases Db.settleOnce_ok hsettle with ⟨-, rfl⟩ | ⟨-, reservation, event, effect⟩
  · exact .stay
  · exact .settled call called timely reservation event db effect

theorem World.settleCall_now (called : w.settleCall a = some call) :
    a.now? = some call.now := by
  cases a with
  | settle now requestId record fate =>
      obtain ⟨pair, -, rfl⟩ := map_eq_some_iff.mp called
      rfl
  | replay now owed fate =>
      simp only [World.settleCall] at called
      split at called
      · split at called
        · cases called
          rfl
        · cases called
      · cases called
  | _ => cases called

/-- Every step makes one of the listed changes. -/
theorem step_change {w' : World} (h : step w a = some w') : Change w a w' := by
  unfold step at h
  split at h
  case isFalse => cases h
  next timely =>
  cases a with
  | tick clock =>
      simp only at h
      split at h
      · next later =>
          cases h
          exact .ticked clock rfl later
      · cases h
  | beginUsageSession now requestId request fate =>
      simp only at h
      split at h
      · next fresh =>
          cases h
          exact .of_beginUsageSession (timely now rfl) fresh
      · cases h
  | markDispatched now requestId =>
      obtain ⟨⟨session, reservation⟩, -, rfl⟩ := map_eq_some_iff.mp h
      refine .of_run fun db hdb => ?_
      obtain ⟨table, rfl, rows⟩ := Db.markDispatched_ok hdb
      exact .parked table rows
  | persistIntent now requestId record =>
      obtain ⟨⟨session, reservation⟩, held, rfl⟩ := map_eq_some_iff.mp h
      refine .of_run fun db hdb => ?_
      obtain ⟨table, rfl, rows⟩ := Db.persistIntent_ok hdb
      have source : w.persists (.persistIntent now requestId record) requestId session.apiKeyId
          (.readable (.new session reservation record)) :=
        ⟨session, reservation, held, rfl, rfl, rfl⟩
      exact .persisted _ _ _ source table rows
  | persistForeignIntent now requestId apiKeyId payload =>
      simp only at h
      split at h
      · cases h
      · next foreign =>
          cases h
          refine .of_run fun db hdb => ?_
          obtain ⟨table, rfl, rows⟩ := Db.persistIntent_ok hdb
          have source : w.persists (.persistForeignIntent now requestId apiKeyId payload)
              requestId apiKeyId payload := ⟨rfl, rfl, rfl, by simpa using foreign⟩
          exact .persisted _ _ _ source table rows
  | settle now requestId record fate =>
      obtain ⟨call, called, rfl⟩ := map_eq_some_iff.mp h
      exact .of_settle called (timely call.now (World.settleCall_now called))
  | observeFreeUsage now requestId record =>
      obtain ⟨session, held, h⟩ := bind_eq_some_iff.mp h
      split at h
      · next free =>
          cases h
          refine .of_run fun db hdb => ?_
          obtain ⟨event, inserted, hid, hkey, hts, hcost, hhouse⟩ := Db.observeFreeUsage_ok hdb
          have found := find?_some held
          exact .metered session (mem_of_find?_eq_some held) free event
            (hts ▸ timely now rfl) (hid.trans (of_decide_eq_true found).symm) hkey hcost hhouse db
            inserted
      · cases h
  | recordSettleFailure now requestId error =>
      cases h
      refine .of_run fun db hdb => ?_
      obtain ⟨quarantined, hrecord⟩ := exists_of_map_snd_eq_ok hdb
      obtain ⟨table, rfl, rows⟩ := Db.recordSettleFailure_ok hrecord
      exact .parked table rows
  | readOwed now limit =>
      cases h
      refine .batched _ fun owed howed => ?_
      rcases mem_append.mp howed with hread | hheld
      · obtain ⟨row, hrow, hsome⟩ := mem_filterMap.mp hread
        have hdue := (mem_insertionSort _).mp (mem_of_mem_take hrow)
        exact .inr ⟨row, (mem_filter.mp hdue).1, hsome⟩
      · exact .inl hheld
  | readQuarantined requestId =>
      simp only at h
      split at h
      · next owed hread =>
          split at h
          · cases h
            refine .batched _ fun other hother => ?_
            rcases mem_cons.mp hother with rfl | hheld
            · obtain ⟨row, hfind, hmap⟩ := bind_eq_some_iff.mp hread
              obtain ⟨owed', howed, hpair⟩ := map_eq_some_iff.mp hmap
              obtain ⟨rfl, -⟩ := Prod.mk.inj hpair
              exact .inr ⟨row, (Table.find_some hfind).1, howed⟩
            · exact .inl hheld
          · cases h
      · cases h
  | replay now owed fate =>
      simp only at h
      split at h
      · split at h
        · obtain ⟨call, called, rfl⟩ := map_eq_some_iff.mp h
          exact .of_settle called (timely call.now (World.settleCall_now called))
        · cases h
          refine .of_run fun db hdb => ?_
          obtain ⟨table, rfl, rows⟩ := Db.quarantineSettlement_ok hdb
          exact .parked table rows
      · cases h
  | discard reservationId apiKeyId =>
      cases h
      exact .discarded reservationId apiKeyId
  | release now requestId note forgive fate =>
      cases h
      refine .of_transact fun db hdb => ?_
      obtain ⟨outcome, hrelease⟩ := exists_of_map_snd_eq_ok hdb
      rcases Db.releaseQuarantinedReservation_ok hrelease with ⟨-, rfl⟩ | ⟨held, table, rfl, rows⟩
      · exact .stay
      · exact .released requestId held table rows
  | post posting =>
      cases h
      exact .of_run fun db hdb => .posted posting rfl db hdb
  | addKey key =>
      cases h
      refine .of_run fun db hdb => ?_
      simp only [bind_eq_ok, ensure_eq_ok, liftViolation_eq_ok] at hdb
      obtain ⟨-, -, apiKeys, inserted, hdb⟩ := hdb
      cases hdb
      exact .keyAdded key rfl apiKeys inserted
  | disableKey id =>
      cases h
      refine .of_run fun db hdb => ?_
      simp only [bind_eq_ok, liftViolation_eq_ok] at hdb
      obtain ⟨apiKeys, updated, hdb⟩ := hdb
      cases hdb
      exact .keyDisabled id apiKeys updated

end ZeroRouter
