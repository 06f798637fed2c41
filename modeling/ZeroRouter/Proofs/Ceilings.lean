import ZeroRouter.Proofs.Encumbrance
import ZeroRouter.Proofs.Charging
import Mathlib.Tactic.Linarith
import Mathlib.Tactic.NormNum

/-!
# Spend ceilings

What some keys have been charged since a window began, plus what their
reservations hold, is raised only by an admission, and an admission is granted
only below the ceiling.  The user's ceiling is read from the keys that are live,
while the usage it bounds is summed over all keys, so adding and disabling keys
gains nothing.
-/

namespace ZeroRouter

open Relational

variable {keyState : KeyState} {key : ApiKey} {s t : Timestamp} {admission : Admission} {swept : Db}
  {user : User} {table : Table usageReservationsTable}

/-! ## Windows -/

/-- An instant is not before the start of a window; a window without a start is a
    lifetime. -/
def since (start : Option Timestamp) (ts : Timestamp) : Prop := ∀ s ∈ start, s ≤ ts

instance (start : Option Timestamp) (ts : Timestamp) : Decidable (since start ts) :=
  inferInstanceAs (Decidable (∀ s ∈ start, _))

/-- When a key's credit-limit window began, in UTC. -/
def creditLimitStart (now : Timestamp) : Option CreditLimitWindow → Option Timestamp
  | none => none
  | some .daily => some (dayStart (usageEventUtcDay now))
  | some .weekly => some (dayStart (Civil.mondayOf (Civil.dayOf now)))
  | some .monthly => some (usageEventUtcMonth now)

theorem since_month (h : s ≤ t) (ts : Timestamp) (later : since (some (usageEventUtcMonth t)) ts) :
    since (some (usageEventUtcMonth s)) ts := by
  intro start hstart
  cases hstart
  exact (Civil.utcMonth.mono h).trans (later _ rfl)

/-- Windows only move forward. -/
theorem since_creditLimit (h : s ≤ t) (window : Option CreditLimitWindow) (ts : Timestamp)
    (later : since (creditLimitStart t window) ts) :
    since (creditLimitStart s window) ts := by
  cases window with
  | none => exact later
  | some cadence =>
      cases cadence with
      | daily =>
          intro start hstart
          cases hstart
          exact (Civil.utcDay.mono h).trans (later _ rfl)
      | weekly =>
          intro start hstart
          cases hstart
          have earlier : dayStart (Civil.mondayOf (Civil.dayOf s)) ≤
              dayStart (Civil.mondayOf (Civil.dayOf t)) := by
            unfold dayStart
            rw [← Civil.utcWeek_start, ← Civil.utcWeek_start]
            exact Civil.utcWeek.mono h
          exact earlier.trans (later _ rfl)
      | monthly => exact since_month h ts later

/-! ## Commitments -/

section Commitments

/-- What some keys were charged since a window began. -/
def Db.spent (db : Db) (keys : Uuid → Prop) [DecidablePred keys] (start : Option Timestamp) :
    Decimal :=
  sumWhere (fun event => keys event.apiKeyId ∧ since start event.ts) UsageEvent.costUsd
    db.usageEvents.rows

/-- The settles of the user's requests charge no more than was reserved. -/
def World.settlesWithinReservation (w : World) (userId : Uuid) (a : Action) : Prop :=
  ∀ call ∈ w.settleCall a, ∀ row ∈ w.db.usageReservations, w.db.owns userId row.apiKeyId →
    row.isSettlable call.reservationId call.apiKeyId →
    ∀ priced ∈ (w.db.priceSettlement call.now call.intent.userId call.intent.toRecord).toOption,
      priced.1 ≤ row.reservedCostUsd

instance (w : World) (userId : Uuid) (a : Action) :
    Decidable (w.settlesWithinReservation userId a) :=
  inferInstanceAs (Decidable (∀ call ∈ w.settleCall a, ∀ row ∈ w.db.usageReservations.rows, _))

variable {w w' : World} {a : Action} {userId : Uuid} {start start' : Option Timestamp}
  (keys : Uuid → Prop) [DecidablePred keys]

/-- A later window has been charged no more. -/
theorem Db.spent_antitone (db : Db) (narrows : ∀ ts, since start' ts → since start ts) :
    db.spent keys start' ≤ db.spent keys start := by
  refine sumWhere_le_sumWhere ?_ (fun _ _ _ => le_refl _) ?_
  · rintro event - ⟨hkey, inWindow⟩
    exact ⟨hkey, narrows _ inWindow⟩
  · intro event hevent _
    exact (db.usageEvents.checked event hevent).costIsNonnegative

/-- One more metering row adds its charge, where its key and instant count. -/
theorem Db.spent_metered {db db' : Db} {event : UsageEvent} (start : Option Timestamp)
    (inserted : db.usageEvents.insert event = .ok db'.usageEvents) :
    db'.spent keys start =
      db.spent keys start + if keys event.apiKeyId ∧ since start event.ts then event.costUsd else 0 := by
  unfold Db.spent
  rw [(Table.insert_ok inserted).1, sumWhere_append, sumWhere_cons, sumWhere_nil, add_zero]

/-- What is charged and what is held, together, is raised by no step that admits
    nobody: a settle only moves an amount from one side to the other. -/
theorem committed_step (h : Change w a w') (same : w'.admitted = w.admitted)
    (scope : ∀ apiKeyId, keys apiKeyId → w.db.owns userId apiKeyId)
    (narrows : ∀ ts, since start' ts → since start ts)
    (prompt : w.isPrompt userId a) (within : w.settlesWithinReservation userId a) :
    w'.db.spent keys start' + w'.db.encumbered keys w'.clock ≤
      w.db.spent keys start + w.db.encumbered keys w.clock := by
  have held := encumbered_step keys h same scope prompt
  have change := h
  cases h with
  | admitted => exact absurd same (List.cons_ne_self _ _)
  | settled call called timely reservation event db effect =>
      have charged := Db.spent_metered keys start' effect.events
      have window := Db.spent_antitone keys w.db narrows
      change db.spent keys start' + db.encumbered keys w.clock ≤ _
      rw [charged]
      by_cases hkey : keys event.apiKeyId
      · have hkey' : keys reservation.apiKeyId := by
          rw [effect.settlable.2.1, ← effect.eventApiKeyId]
          exact hkey
        have owned := scope _ hkey'
        have unreleased := effect.settlable.2.2
        have live := prompt reservation effect.reservationMem owned unreleased
          (World.commits_of_settleCall called effect.settlable)
        have split := encumbered_settled keys effect w.clock
        rw [if_pos ⟨hkey', unreleased, live.symm⟩] at split
        have priced : (event.costUsd, event.byokCatalogUsd) ∈
            (w.db.priceSettlement call.now call.intent.userId call.intent.toRecord).toOption := by
          rw [effect.priced]
          rfl
        have cost : event.costUsd ≤ reservation.reservedCostUsd :=
          within call called reservation effect.reservationMem owned effect.settlable _ priced
        have nonneg : 0 ≤ event.costUsd :=
          (Table.insert_ok effect.events).2.1.costIsNonnegative
        split
        · linarith
        · linarith
      · rw [if_neg fun counts => hkey counts.1, add_zero]
        exact add_le_add window held
  | metered session mem free event timely requestId apiKeyId costless house db inserted =>
      obtain ⟨events, month, day, total, hevents, -, -, -, -, hdb⟩ :=
        Db.insertUsageEvent_ok inserted
      have appended : w.db.usageEvents.insert event = .ok db.usageEvents := by
        rw [hdb]
        exact hevents
      have charged := Db.spent_metered keys start' appended
      rw [costless, ite_self, add_zero] at charged
      refine add_le_add ?_ held
      rw [charged]
      exact Db.spent_antitone keys w.db narrows
  | posted posting action db moved =>
      obtain ⟨user, users, ledger, -, -, -, -, -, rfl⟩ := Db.moveBalance_ok moved
      exact add_le_add (Db.spent_antitone keys w.db narrows) held
  | _ => exact add_le_add (Db.spent_antitone keys w.db narrows) held

/-- What is charged and held under some keys stays within a ceiling, if every
    admission under one of them was granted within it. -/
theorem committed_within (h : Change w a w') {cap : Decimal}
    (start : Timestamp → Option Timestamp)
    (forward : ∀ s t, s ≤ t → ∀ ts, since (start t) ts → since (start s) ts)
    (scope : ∀ apiKeyId, keys apiKeyId → w.db.owns userId apiKeyId)
    (prompt : w.isPrompt userId a) (within : w.settlesWithinReservation userId a)
    (before : w.db.spent keys (start w.clock) + w.db.encumbered keys w.clock ≤ cap)
    (granted : ∀ admission swept keyState user table,
      Admitted w a w' admission swept keyState user table → keys admission.request.key.id →
      w.db.spent keys (start admission.now) + swept.encumbered keys admission.now +
        admission.plan.reservedCostUsd ≤ cap) :
    w'.db.spent keys (start w'.clock) + w'.db.encumbered keys w'.clock ≤ cap := by
  rcases admitted_cases h with same | ⟨admission, swept, keyState, user, table, admitted⟩
  · have narrows := forward w.clock w'.clock (clock_step h)
    exact (committed_step keys h same scope narrows prompt within).trans before
  · have events : w'.db.spent keys (start w'.clock) = w.db.spent keys (start w.clock) := by
      rw [admitted.db, admitted.clock]
      rfl
    obtain ⟨nonneg, held⟩ := encumbered_admitted keys admitted
    rw [events]
    by_cases hkey : keys admission.request.key.id
    · have room := granted admission swept keyState user table admitted hkey
      have earlier := Db.encumbered_antitone keys swept admitted.timely
      have window := Db.spent_antitone keys w.db (forward _ _ admitted.timely)
      rw [if_pos hkey] at held
      linarith
    · have let_go := encumbered_swept keys admitted.sweep w.clock
      rw [if_neg hkey, add_zero] at held
      linarith

end Commitments

/-! ## What the gates read -/

section Reads

variable {db : Db} {now : Timestamp} {key : AuthenticatedKey}

theorem Db.Tallied.userMonthlySpend (tallied : db.Tallied) (window : Option SpendWindow) :
    (db.settledUsage now key window).userMonthlySpend =
      db.spent (db.owns key.userId) (some (usageEventUtcMonth now)) := by
  refine (monthTotal_from (P := db.owns key.userId) tallied.monthSpend rfl rfl now).trans ?_
  refine sumWhere_congr (fun event _ => ?_) fun _ _ _ => rfl
  simp [since]

theorem Db.Tallied.monthlySpend (tallied : db.Tallied) (owned : db.owns key.userId key.id)
    (window : Option SpendWindow) :
    (db.settledUsage now key window).monthlySpend =
      db.spent (· = key.id) (some (usageEventUtcMonth now)) := by
  have scan := monthTotal_from (P := (· = key.id)) tallied.monthSpend rfl rfl now
  have read : (db.settledUsage now key window).monthlySpend =
      sumWhere (fun row => row.apiKeyId = key.id ∧ usageEventUtcMonth now ≤ row.month)
        UsageKeyMonthSpend.spendUsd db.usageKeyMonthSpend.rows := by
    refine sumWhere_congr (fun row _ => ?_) fun _ _ _ => rfl
    constructor
    · rintro ⟨⟨-, inMonth⟩, hkey⟩
      exact ⟨hkey, inMonth⟩
    · rintro ⟨hkey, inMonth⟩
      exact ⟨⟨hkey ▸ owned, inMonth⟩, hkey⟩
  refine (read.trans scan).trans (sumWhere_congr (fun event _ => ?_) fun _ _ _ => rfl)
  simp [since]

theorem Db.activeReservedCost_eq (owned : db.owns key.userId key.id) :
    (db.reservedUsage now key).activeReservedCost = db.encumbered (· = key.id) now := by
  refine sumWhere_congr (fun row _ => ?_) fun _ _ _ => rfl
  constructor
  · rintro ⟨⟨-, encumbers⟩, hkey⟩
    exact ⟨hkey, encumbers⟩
  · rintro ⟨hkey, encumbers⟩
    exact ⟨⟨hkey ▸ owned, encumbers⟩, hkey⟩

/-- Whichever counter a cadence reads, it answers for the key's own window. -/
theorem Db.Tallied.windowSpend (tallied : db.Tallied) (owned : db.owns key.userId key.id)
    {limit : Decimal} (limited : keyState.creditLimitUsd = some limit) :
    (db.settledUsage now key keyState.spendWindow).windowSpend keyState.creditLimitWindow =
      db.spent (· = key.id) (creditLimitStart now keyState.creditLimitWindow) := by
  unfold KeyState.spendWindow
  rw [limited, Option.map_some]
  cases hwindow : keyState.creditLimitWindow with
  | none =>
      have scan := tallied.totalSpend fun apiKeyId => apiKeyId = key.id ∧ True
      refine Eq.trans ?_ (scan.trans ?_)
      · exact sumWhere_congr (fun row _ => by simp [ZeroRouter.totalSpend]) fun _ _ _ => rfl
      · refine sumWhere_congr (fun event _ => ?_) fun _ _ _ => rfl
        simp [since, creditLimitStart, ZeroRouter.totalSpend]
  | some cadence =>
      cases cadence with
      | daily =>
          have scan := dayTotal_from (P := (· = key.id)) tallied.daySpend (usageEventUtcDay now)
          refine Eq.trans ?_ (scan.trans ?_)
          · exact sumWhere_congr (fun row _ => by simp [windowDayStart]) fun _ _ _ => rfl
          · refine sumWhere_congr (fun event _ => ?_) fun _ _ _ => rfl
            simp [since, creditLimitStart]
      | weekly =>
          have scan := dayTotal_from (P := (· = key.id)) tallied.daySpend
            (Civil.mondayOf (Civil.dayOf now))
          refine Eq.trans ?_ (scan.trans ?_)
          · exact sumWhere_congr (fun row _ => by simp [windowDayStart]) fun _ _ _ => rfl
          · refine sumWhere_congr (fun event _ => ?_) fun _ _ _ => rfl
            simp [since, creditLimitStart]
      | monthly => exact tallied.monthlySpend owned _

/-- The user's ceiling is the cap of one of the user's live keys. -/
theorem Db.keyState_userSpendCap (h : db.keyState now key = some keyState) :
    ∃ live ∈ db.apiKeys, live.isLiveSibling key.userId ∧
      keyState.userSpendCapUsd = live.spendCapUsd := by
  obtain ⟨presenting, found, rfl⟩ := Option.map_eq_some_iff.mp h
  obtain ⟨hmem, -, live, -⟩ := Table.find_some found
  dsimp only
  generalize hcaps : (db.apiKeys.rows.filter fun row => row.isLiveSibling key.userId).map
    ApiKey.spendCapUsd = caps
  cases hmax : caps.max? with
  | none => exact ⟨presenting, hmem, live, rfl⟩
  | some largest =>
      have mem : largest ∈ caps := List.max?_mem hmax
      rw [← hcaps] at mem
      obtain ⟨sibling, hsibling, hcap⟩ := List.mem_map.mp mem
      obtain ⟨hrow, hlive⟩ := List.mem_filter.mp hsibling
      exact ⟨sibling, hrow, of_decide_eq_true hlive, hcap.symm⟩

end Reads

/-! ## The step -/

/-- The caps of a key, which no step changes. -/
structure SameCaps (old new : ApiKey) : Prop where
  id : old.id = new.id
  userId : old.userId = new.userId
  spendCapUsd : old.spendCapUsd = new.spendCapUsd
  creditLimitUsd : old.creditLimitUsd = new.creditLimitUsd
  creditLimitWindow : old.creditLimitWindow = new.creditLimitWindow

section Step

variable {w w' : World} {a : Action} {userId : Uuid} {ceiling : Decimal}

/-- A key after a step stood before it with the same caps, or is new. -/
theorem apiKeys_step (h : Change w a w') (hkey : key ∈ w'.db.apiKeys) :
    (∃ old ∈ w.db.apiKeys, SameCaps old key) ∨
      ((∀ old ∈ w.db.apiKeys, old.id ≠ key.id) ∧
        w'.db.usageReservations = w.db.usageReservations ∧
        w'.db.usageEvents = w.db.usageEvents) := by
  have kept : key ∈ w.db.apiKeys → ∃ old ∈ w.db.apiKeys, SameCaps old key :=
    fun hold => ⟨key, hold, rfl, rfl, rfl, rfl, rfl⟩
  cases h with
  | stay | ticked | batched | opened | admitted | parked | persisted | released | discarded =>
      exact .inl (kept hkey)
  | posted _ _ db moved =>
      obtain ⟨user, users, ledger, -, -, -, -, -, rfl⟩ := Db.moveBalance_ok moved
      exact .inl (kept hkey)
  | settled call called _ reservation event db effect =>
      change key ∈ db.apiKeys at hkey
      rw [effect.apiKeys] at hkey
      exact .inl (kept hkey)
  | metered _ _ _ new _ _ _ _ _ db inserted =>
      obtain ⟨events, month, day, total, -, -, -, -, -, rfl⟩ := Db.insertUsageEvent_ok inserted
      exact .inl (kept hkey)
  | keyAdded added _ apiKeys inserted =>
      rcases (Table.mem_insert inserted).mp hkey with hold | rfl
      · exact .inl (kept hold)
      · exact .inr ⟨(Table.insert_ok inserted).2.2, rfl, rfl⟩
  | keyDisabled id apiKeys updated =>
      obtain ⟨old, hold, rfl⟩ := (Table.mem_updateWhere updated).mp hkey
      refine .inl ⟨old, hold, ?_⟩
      unfold Table.rewrite
      split <;> exact ⟨rfl, rfl, rfl, rfl, rfl⟩

/-- Nothing was charged or is held under a key that does not exist. -/
theorem committed_unknown (inv : Inv w) {apiKeyId : Uuid} (start : Option Timestamp)
    (now : Timestamp) (unknown : ∀ old ∈ w.db.apiKeys, old.id ≠ apiKeyId) :
    w.db.spent (· = apiKeyId) start = 0 ∧ w.db.encumbered (· = apiKeyId) now = 0 := by
  have noOwner : ∀ owner, ¬ w.db.owns owner apiKeyId := by
    rintro owner ⟨key, hkey, hid, -⟩
    exact unknown key hkey hid
  constructor
  · apply sumWhere_zero_terms
    rintro event hevent ⟨rfl, -⟩
    rcases inv.events event hevent with ⟨admission, hadm, -, hkey⟩ | ⟨costless, -⟩
    · exact absurd (hkey ▸ inv.keys admission hadm) (noOwner _)
    · exact costless
  · apply sumWhere_zero_terms
    rintro row hrow ⟨rfl, -⟩
    obtain ⟨admission, hadm, columns⟩ := inv.rows row hrow
    have owned : w.db.owns admission.request.key.userId row.apiKeyId := by
      rw [columns.apiKeyId]
      exact inv.keys admission hadm
    exact absurd owned (noOwner _)

/-- Every cap the user's usage is bounded by, at the present clock. -/
structure Ceilings (userId : Uuid) (ceiling : Decimal) (w : World) : Prop where
  /-- Each key, since the UTC month began. -/
  spendCap : ∀ key ∈ w.db.apiKeys, key.userId = userId →
    w.db.spent (· = key.id) (some (usageEventUtcMonth w.clock)) +
      w.db.encumbered (· = key.id) w.clock ≤ key.spendCapUsd
  /-- Each key with a limit of its own, since its window began. -/
  creditLimit : ∀ key ∈ w.db.apiKeys, key.userId = userId → ∀ limit ∈ key.creditLimitUsd,
    w.db.spent (· = key.id) (creditLimitStart w.clock key.creditLimitWindow) +
      w.db.encumbered (· = key.id) w.clock ≤ limit
  /-- All of the user's keys together, disabled ones included. -/
  userCap : w.db.spent (w.db.owns userId) (some (usageEventUtcMonth w.clock)) +
    w.db.encumbered (w.db.owns userId) w.clock ≤ ceiling

/-- The ceiling bounds every cap the user has live, requests commit before their
    reservations expire, and no settle charges more than was reserved. -/
def Capped (userId : Uuid) (ceiling : Decimal) (w : World) (a : Action) : Prop :=
  (∀ key ∈ w.db.apiKeys, key.isLiveSibling userId → key.spendCapUsd ≤ ceiling) ∧
    w.settlesWithinReservation userId a ∧ w.isPrompt userId a

instance (w : World) (a : Action) : Decidable (Capped userId ceiling w a) :=
  inferInstanceAs (Decidable ((∀ key ∈ w.db.apiKeys.rows, _) ∧ _ ∧ _))

/-- What the presenting key's gates granted, in terms of its own window. -/
theorem Admitted.granted_key (tallied : w.db.Tallied)
    (admitted : Admitted w a w' admission swept keyState user table) (hkey : key ∈ w.db.apiKeys)
    (hid : admission.request.key.id = key.id) :
    w.db.spent (· = key.id) (some (usageEventUtcMonth admission.now)) +
        swept.encumbered (· = key.id) admission.now + admission.plan.reservedCostUsd
        ≤ key.spendCapUsd ∧
      ∀ limit ∈ key.creditLimitUsd,
        w.db.spent (· = key.id) (creditLimitStart admission.now key.creditLimitWindow) +
          swept.encumbered (· = key.id) admission.now + admission.plan.reservedCostUsd
          ≤ limit := by
  have granted := Db.admissionGate_none admitted.allowed.gates
  rw [← admitted.plan] at granted
  have rest := admitted.sweep.rest
  have tallied' : swept.Tallied := by
    rw [rest]
    exact ⟨tallied.monthSpend, tallied.monthByokCatalog, tallied.daySpend, tallied.totalSpend⟩
  have owned : swept.owns admission.request.key.userId admission.request.key.id := by
    rw [admitted.sweep.owns]
    exact admitted.allowed.owned
  have spent : ∀ start, swept.spent (· = key.id) start = w.db.spent (· = key.id) start := by
    intro start
    rw [rest]
    rfl
  obtain ⟨presenting, found, rfl⟩ := Option.map_eq_some_iff.mp admitted.allowed.presented
  obtain ⟨hmem, hpresented, -, -⟩ := Table.find_some found
  have same : presenting = key := Table.eq_of_clash hmem hkey (hpresented.trans hid)
  subst same
  constructor
  · have room := granted.keySpend
    rw [tallied'.monthlySpend owned, Db.activeReservedCost_eq owned, hid, spent] at room
    exact room
  · intro limit hlimit
    have room := granted.creditLimit limit hlimit
    rw [tallied'.windowSpend owned hlimit, Db.activeReservedCost_eq owned, hid, spent] at room
    exact room

/-- What the user's gate granted: no more than the cap of a key that was live. -/
theorem Admitted.granted_user (tallied : w.db.Tallied)
    (admitted : Admitted w a w' admission swept keyState user table)
    (owner : admission.request.key.userId = userId)
    (live : ∀ key ∈ w.db.apiKeys, key.isLiveSibling userId → key.spendCapUsd ≤ ceiling) :
    w.db.spent (w.db.owns userId) (some (usageEventUtcMonth admission.now)) +
      swept.encumbered (w.db.owns userId) admission.now + admission.plan.reservedCostUsd
      ≤ ceiling := by
  have room := (Db.admissionGate_none admitted.allowed.gates).userSpend
  have rest := admitted.sweep.rest
  have tallied' : swept.Tallied := by
    rw [rest]
    exact ⟨tallied.monthSpend, tallied.monthByokCatalog, tallied.daySpend, tallied.totalSpend⟩
  obtain ⟨largest, hlargest, isLive, hcap⟩ := Db.keyState_userSpendCap admitted.allowed.presented
  rw [owner] at isLive
  have bound := live largest hlargest isLive
  rw [← admitted.plan, tallied'.userMonthlySpend, owner, hcap] at room
  have spent : swept.spent (swept.owns userId) (some (usageEventUtcMonth admission.now))
      = w.db.spent (w.db.owns userId) (some (usageEventUtcMonth admission.now)) := by
    rw [rest]
    rfl
  have held : swept.userActiveReservedCost admission.now userId
      = swept.encumbered (w.db.owns userId) admission.now := by
    refine sumWhere_congr (fun row _ => ?_) fun _ _ _ => rfl
    rw [admitted.sweep.owns]
  rw [spent, held] at room
  exact room.trans bound

/-- A new key starts with nothing charged or held. -/
theorem committed_added (inv : Inv w) (unknown : ∀ old ∈ w.db.apiKeys, old.id ≠ key.id)
    (rows : w'.db.usageReservations = w.db.usageReservations)
    (events : w'.db.usageEvents = w.db.usageEvents) (start : Option Timestamp) :
    w'.db.spent (· = key.id) start + w'.db.encumbered (· = key.id) w'.clock = 0 := by
  obtain ⟨charged, held⟩ := committed_unknown inv start w'.clock unknown
  have charged' : w'.db.spent (· = key.id) start = 0 := by
    unfold Db.spent at charged ⊢
    rw [events, charged]
  have held' : w'.db.encumbered (· = key.id) w'.clock = 0 := by
    unfold Db.encumbered at held ⊢
    rw [rows, held]
  rw [charged', held', add_zero]

/-- The user's charges after a step, by who owned the keys before. -/
theorem spent_owns_step (inv : Inv w) (h : Change w a w') (start : Option Timestamp) :
    w'.db.spent (w'.db.owns userId) start = w'.db.spent (w.db.owns userId) start := by
  refine sumWhere_ext fun event hevent => ?_
  have inv' := inv.step h
  rcases metering_step h with ⟨same, -, -, -⟩ | ⟨-, -, -, -, -, keys, -, -⟩
  · rw [same] at hevent
    rcases inv.events event hevent with ⟨admission, hadm, -, hkey⟩ | ⟨costless, -⟩
    · have owned : w.db.owns admission.request.key.userId event.apiKeyId :=
        hkey ▸ inv.keys admission hadm
      have iff := owns_step_iff h ⟨_, owned⟩ userId
      exact if_congr (and_congr_left fun _ => iff) rfl rfl
    · rw [costless, ite_self, ite_self]
  · have iff : w'.db.owns userId event.apiKeyId ↔ w.db.owns userId event.apiKeyId := by
      rw [Db.owns_of_apiKeys keys]
    exact if_congr (and_congr_left fun _ => iff) rfl rfl

theorem Ceilings.step (inv : Inv w) (tallied : w.db.Tallied)
    (ceilings : Ceilings userId ceiling w) (capped : Capped userId ceiling w a)
    (h : Change w a w') : Ceilings userId ceiling w' := by
  obtain ⟨live, within, prompt⟩ := capped
  have month : ∀ s t, s ≤ t → ∀ ts, since (some (usageEventUtcMonth t)) ts →
      since (some (usageEventUtcMonth s)) ts := fun s t => since_month
  have scope : ∀ key ∈ w.db.apiKeys, key.userId = userId →
      ∀ apiKeyId, apiKeyId = key.id → w.db.owns userId apiKeyId := by
    rintro key hkey huser _ rfl
    exact ⟨key, hkey, rfl, huser⟩
  constructor
  · intro key hkey huser
    rcases apiKeys_step h hkey with ⟨old, hold, same⟩ | ⟨unknown, rows, events⟩
    · have huser' : old.userId = userId := same.userId.trans huser
      rw [← same.id, ← same.spendCapUsd]
      refine committed_within (· = old.id) h (fun now => some (usageEventUtcMonth now))
        month (scope old hold huser') prompt within (ceilings.spendCap old hold huser') ?_
      intro admission swept keyState user table admitted hid
      exact (admitted.granted_key tallied hold hid).1
    · rw [committed_added inv unknown rows events]
      exact (w'.db.apiKeys.checked key hkey).spendCapIsNonnegative
  · intro key hkey huser limit hlimit
    rcases apiKeys_step h hkey with ⟨old, hold, same⟩ | ⟨unknown, rows, events⟩
    · have huser' : old.userId = userId := same.userId.trans huser
      rw [← same.creditLimitUsd] at hlimit
      rw [← same.id, ← same.creditLimitWindow]
      refine committed_within (· = old.id) h
        (fun now => creditLimitStart now old.creditLimitWindow)
        (fun s t later => since_creditLimit later _) (scope old hold huser') prompt within
        (ceilings.creditLimit old hold huser' limit hlimit) ?_
      intro admission swept keyState user table admitted hid
      exact (admitted.granted_key tallied hold hid).2 limit hlimit
    · rw [committed_added inv unknown rows events]
      exact ((w'.db.apiKeys.checked key hkey).creditLimitIsPositive limit hlimit).le
  · have held : w'.db.encumbered (w'.db.owns userId) w'.clock = _ :=
      userActiveReservedCost_step inv h w'.clock
    rw [spent_owns_step inv h, held]
    refine committed_within (w.db.owns userId) h
      (fun now => some (usageEventUtcMonth now)) month (fun _ => id) prompt within
      ceilings.userCap ?_
    intro admission swept keyState user table admitted owned
    exact admitted.granted_user tallied (Db.owns_unique admitted.allowed.owned owned) live

theorem Ceilings.opening (h : w.Opening) (nonneg : 0 ≤ ceiling) : Ceilings userId ceiling w := by
  have nothing : ∀ (keys : Uuid → Prop) [DecidablePred keys] (start : Option Timestamp),
      w.db.spent keys start + w.db.encumbered keys w.clock = 0 := by
    intro keys _ start
    unfold Db.spent Db.encumbered
    rw [h.usageEvents, h.usageReservations]
    exact add_zero 0
  constructor
  · intro key hkey _
    rw [nothing]
    exact (w.db.apiKeys.checked key hkey).spendCapIsNonnegative
  · intro key hkey _ limit hlimit
    rw [nothing]
    exact ((w.db.apiKeys.checked key hkey).creditLimitIsPositive limit hlimit).le
  · rw [nothing]
    exact nonneg

end Step

/-- Where requests commit before their reservations expire and settle within them,
    no key's charges and reservations exceed its caps, over the windows they are
    read in, and the user's together never exceed the largest cap the user has had
    live on a key, whatever keys come and go. -/
theorem spend_ceilings_bind {w₀ w : World} {userId : Uuid} {ceiling : Decimal}
    (opening : w₀.Opening) (nonneg : 0 ≤ ceiling) (run : Reaches (Capped userId ceiling) w₀ w) :
    Ceilings userId ceiling w := by
  refine (run.invariant
    (I := fun w => Inv w ∧ w.db.Tallied ∧ Ceilings userId ceiling w)
    ⟨.opening opening, .opening opening, .opening opening nonneg⟩
    fun _ _ _ h capped next => ?_).2.2
  have change := step_change next
  exact ⟨h.1.step change, h.2.1.step change, h.2.2.step h.1 h.2.1 capped change⟩

/-- A second key takes over from a disabled one, under the same ceiling. -/
def keyChurnRun : List Action :=
  [.beginUsageSession 0 7 (houseRequest 5) .commit, .settle 0 7 (houseRecord 5) .commit,
    .addKey
      { id := 11, userId := 1, spendCapUsd := 20, velocityCapTokensPerMin := 100000
        disabled := false, expiresAt := none, creditLimitUsd := some 15
        creditLimitWindow := some .weekly },
    .disableKey 10,
    .beginUsageSession 0 8 { houseRequest 15 with key := { id := 11, userId := 1 } } .commit,
    .beginUsageSession 0 9 { houseRequest 1 with key := { id := 11, userId := 1 } } .commit]

theorem spend_ceilings_bind_keyChurn :
    ∃ w : World, w.admitted.map Admission.requestId = [8, 7] ∧ Ceilings 1 20 w := by
  have runs : (Transition.runWhile step (Capped 1 20) (.fresh onePrepaidUser oneKey 0)
      keyChurnRun).any (fun w => w.admitted.map Admission.requestId = [8, 7]) = true := by
    decide +kernel
  obtain ⟨w, run, hw⟩ := Transition.Steps.exists_of_runWhile runs
  exact ⟨w, of_decide_eq_true hw,
    spend_ceilings_bind (World.opening_fresh _ _ _) (by norm_num) run⟩

/-! A dispatched request that outlives its reservation with no intent holds nothing
while it runs, and its late charge then comes on top of what was admitted since. -/

/-- Live caps stay at $20 and no settle exceeds its reservation. -/
def CappedButLate (w : World) (a : Action) : Prop :=
  (∀ key ∈ w.db.apiKeys, key.isLiveSibling 1 → key.spendCapUsd ≤ 20) ∧
    w.settlesWithinReservation 1 a

instance (w : World) (a : Action) : Decidable (CappedButLate w a) :=
  inferInstanceAs (Decidable ((∀ key ∈ w.db.apiKeys.rows, _) ∧ _))

def outlivedRun : List Action :=
  [.beginUsageSession 0 7 (houseRequest 20) .commit, .markDispatched 0 7,
    .tick (reservationTtl + 1),
    .beginUsageSession (reservationTtl + 1) 8 (houseRequest 20) .commit,
    .settle (reservationTtl + 1) 7 (houseRecord 20) .commit]

theorem spend_ceilings_exceeded_outlived :
    ∃ w, Reaches CappedButLate (.fresh onePrepaidUser oneKey 0) w ∧
      (∃ key ∈ w.db.apiKeys, key.userId = 1 ∧ key.spendCapUsd <
        w.db.spent (· = key.id) (some (usageEventUtcMonth w.clock)) +
          w.db.encumbered (· = key.id) w.clock) ∧
      20 < w.db.spent (w.db.owns 1) (some (usageEventUtcMonth w.clock)) +
        w.db.encumbered (w.db.owns 1) w.clock := by
  have runs : (Transition.runWhile step CappedButLate (.fresh onePrepaidUser oneKey 0)
      outlivedRun).any (fun w =>
        (∃ key ∈ w.db.apiKeys.rows, key.userId = 1 ∧ key.spendCapUsd <
          w.db.spent (· = key.id) (some (usageEventUtcMonth w.clock)) +
            w.db.encumbered (· = key.id) w.clock) ∧
        20 < w.db.spent (w.db.owns 1) (some (usageEventUtcMonth w.clock)) +
          w.db.encumbered (w.db.owns 1) w.clock) = true := by
    decide +kernel
  obtain ⟨w, run, hw⟩ := Transition.Steps.exists_of_runWhile runs
  obtain ⟨overKey, overUser⟩ := of_decide_eq_true hw
  exact ⟨w, run, overKey, overUser⟩

end ZeroRouter
