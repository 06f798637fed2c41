import ZeroRouter.Proofs.Totals

/-!
# What reservations hold

A reservation holds credit while it encumbers: unreleased, and unexpired or
carrying an intent.  Once a row is in the table, a step can only let go of what it
holds, except that an intent written after the row expired makes it hold again.
`isPrompt` rules that out, and with it the settles that charge a row which no
longer holds anything.
-/

namespace ZeroRouter

open List Relational

variable {swept db : Db} {now : Timestamp} {keyState : KeyState} {user : User}
  {admission : Admission} {table : Table usageReservationsTable} {row : UsageReservation}
  {w : World} {a : Action} {reservationId apiKeyId : Uuid} {intent : SettlementIntent}
  {reservation : UsageReservation} {event : UsageEvent}

/-! ## The rows of a step -/

section Rows

variable {w w' : World} {a : Action} {M : Type} [AddCommMonoid M] [PartialOrder M]
  [IsOrderedAddMonoid M] {p q : UsageReservation → Prop} {f : UsageReservation → M}

/-- A step that admits nobody keeps some of the rows, each updated in place. -/
theorem reservations_step (h : Change w a w') (same : w'.admitted = w.admitted) :
    ∃ kept, kept.Sublist w.db.usageReservations.rows ∧
      List.Forall₂ (RowStep w a) kept w'.db.usageReservations.rows := by
  have still : ∀ rows : List UsageReservation, List.Forall₂ (RowStep w a) rows rows :=
    fun rows => forall₂_same.mpr fun row _ => .refl row
  cases h with
  | stay | ticked | batched | opened | keyAdded | keyDisabled =>
      exact ⟨_, List.Sublist.refl _, still _⟩
  | posted _ _ db moved =>
      obtain ⟨user, users, ledger, -, -, -, -, -, rfl⟩ := Db.moveBalance_ok moved
      exact ⟨_, List.Sublist.refl _, still _⟩
  | admitted => exact absurd same (cons_ne_self _ _)
  | parked table rows => exact ⟨_, List.Sublist.refl _, rows.imp fun _ _ h => h.rowStep⟩
  | persisted requestId apiKeyId payload source table rows =>
      exact ⟨_, List.Sublist.refl _, rows.imp fun _ _ h => h.rowStep source⟩
  | released requestId _ table rows =>
      exact ⟨_, List.Sublist.refl _, rows.imp fun _ _ h => h.rowStep⟩
  | settled call _ _ reservation event db effect =>
      refine ⟨_, ?_, still _⟩
      change db.usageReservations.rows.Sublist _
      rw [effect.reservations]
      exact filter_sublist
  | metered _ _ _ _ _ _ _ _ _ db inserted =>
      obtain ⟨events, month, day, total, -, -, -, -, -, rfl⟩ := Db.insertUsageEvent_ok inserted
      exact ⟨_, List.Sublist.refl _, still _⟩
  | discarded => exact ⟨_, filter_sublist, still _⟩

/-- Whatever no in-place update can raise, a step that admits nobody does not. -/
theorem held_step [DecidablePred p] [DecidablePred q] (h : Change w a w')
    (same : w'.admitted = w.admitted) (nonneg : ∀ row ∈ w.db.usageReservations, p row → 0 ≤ f row)
    (lowers : ∀ old ∈ w.db.usageReservations, ∀ new, RowStep w a old new → q new →
      p old ∧ f new ≤ f old) :
    sumWhere q f w'.db.usageReservations.rows ≤ sumWhere p f w.db.usageReservations.rows := by
  obtain ⟨kept, sublist, rows⟩ := reservations_step h same
  refine (sumWhere_le_of_forall₂ (p := p) (f := f) rows ?_).trans
    (sumWhere_sublist_le sublist nonneg)
  intro old hold new moved
  have hmem : old ∈ w.db.usageReservations := sublist.subset hold
  by_cases hq : q new
  · obtain ⟨hp, hle⟩ := lowers old hmem new moved hq
    rw [if_pos hq, if_pos hp]
    exact hle
  · rw [if_neg hq]
    split
    · next hp => exact nonneg old hmem hp
    · exact le_refl _

/-- And neither does the sweep inside an admission. -/
theorem held_swept [DecidablePred p] [DecidablePred q] (h : Swept now db swept)
    (nonneg : ∀ row ∈ db.usageReservations, p row → 0 ≤ f row)
    (lowers : ∀ old ∈ db.usageReservations, ∀ new, Parked old new → q new → p old ∧ f new ≤ f old) :
    sumWhere q f swept.usageReservations.rows ≤ sumWhere p f db.usageReservations.rows := by
  refine (sumWhere_le_of_forall₂ (p := p) (f := f) h.rows ?_).trans
    (sumWhere_sublist_le filter_sublist nonneg)
  intro old hold new parked
  have hmem : old ∈ db.usageReservations := (mem_filter.mp hold).1
  by_cases hq : q new
  · obtain ⟨hp, hle⟩ := lowers old hmem new parked hq
    rw [if_pos hq, if_pos hp]
    exact hle
  · rw [if_neg hq]
    split
    · next hp => exact nonneg old hmem hp
    · exact le_refl _

/-- The clock never goes back. -/
theorem clock_step (h : Change w a w') : w.clock ≤ w'.clock := by
  cases h with
  | ticked clock action later => exact later
  | _ => exact le_refl _

/-- A step that commits a fresh reservation: the sweep it ran, the gates it passed
    and the row it left. -/
structure Admitted (w : World) (a : Action) (w' : World) (admission : Admission) (swept : Db)
    (keyState : KeyState) (user : User) (table : Table usageReservationsTable) : Prop where
  history : w'.admitted = admission :: w.admitted
  timely : admission.now ≤ w.clock
  fresh : w.isFresh admission.requestId
  action : ∃ fate,
    a = .beginUsageSession admission.now admission.requestId admission.request fate
  lane : admission.request.lane = .reserved
  plan : admission.plan = swept.admissionPlan admission.now admission.request
  sweep : Swept admission.now w.db swept
  allowed : Allowed w.db admission.now admission.requestId admission.request admission.session
    swept keyState user
  rows : table.rows = swept.usageReservations.rows ++ [admission.row]
  db : w'.db = { w.db with usageReservations := table }
  clock : w'.clock = w.clock

theorem Admitted.row_mem (h : Admitted w a w' admission swept keyState user table) :
    admission.row ∈ table := by
  rw [Table.mem_def, h.rows]
  exact mem_append_right _ mem_cons_self

/-- A step admits nobody, or commits one fresh reservation. -/
theorem admitted_cases (h : Change w a w') :
    w'.admitted = w.admitted ∨
      ∃ admission swept keyState user table,
        Admitted w a w' admission swept keyState user table := by
  cases h with
  | admitted now requestId request fate action timely fresh lane swept keyState user allowed table
      inserted =>
      have sweep := allowed.sweep
      rw [lane] at sweep
      exact .inr ⟨{ requestId, now, request, plan := swept.admissionPlan now request }, swept,
        keyState, user, table, rfl, timely, fresh, ⟨fate, action⟩, lane, rfl,
        Db.sweepExpired_ok sweep, allowed, (Table.insert_ok inserted).1, rfl, rfl⟩
  | _ => exact .inl rfl

/-- The key an admission was made under belongs to the user it was made for. -/
theorem Allowed.owned {requestId : Uuid} {request : AdmissionRequest} {session : UsageSession}
    (allowed : Allowed db now requestId request session swept keyState user) :
    db.owns request.key.userId request.key.id := by
  obtain ⟨key, found, -⟩ := Option.map_eq_some_iff.mp allowed.presented
  obtain ⟨hkey, hid, ⟨huser, -⟩, -⟩ := Table.find_some found
  exact ⟨key, hkey, hid, huser⟩

/-- A sweep touches reservations only. -/
theorem Swept.owns (h : Swept now db swept) :
    swept.owns = db.owns := by
  refine Db.owns_of_apiKeys ?_
  rw [h.rest]

/-- The keys of the rows a step leaves belong to whom they belonged before it. -/
theorem owns_rows_step (inv : Inv w) (h : Change w a w') (userId : Uuid)
    (hrow : row ∈ w'.db.usageReservations) :
    w'.db.owns userId row.apiKeyId ↔ w.db.owns userId row.apiKeyId := by
  rcases admitted_cases h with same | ⟨_, _, _, _, _, admitted⟩
  · rcases reservation_origin h hrow with ⟨old, hold, moved⟩ | ⟨admission, grown, -, -⟩
    · obtain ⟨admission, hadm, columns⟩ := inv.rows old hold
      refine owns_step_iff h ⟨admission.request.key.userId, ?_⟩ userId
      rw [moved.columns.apiKeyId, columns.apiKeyId]
      exact inv.keys admission hadm
    · exact absurd (grown.symm.trans same) (cons_ne_self _ _)
  · rw [admitted.db]
    exact Iff.rfl

end Rows

/-! ## The reservations of one kind of admission -/

section Kinds

variable {w w' : World} {a : Action} {M : Type} [AddCommMonoid M] {userId : Uuid}
  {live live' : UsageReservation → Prop} [DecidablePred live] [DecidablePred live']
  {P : Admission → Prop} [DecidablePred P] {f : UsageReservation → M}

/-- A column summed over the user's reservations that are live in some sense and
    were admitted in some way. -/
def World.heldBy (w : World) (userId : Uuid) (live : UsageReservation → Prop) [DecidablePred live]
    (P : Admission → Prop) [DecidablePred P] (f : UsageReservation → M) : M :=
  sumWhere
    (fun row => (w.db.owns userId row.apiKeyId ∧ live row) ∧
      ∃ a ∈ w.admitted, a.requestId = row.id ∧ P a)
    f w.db.usageReservations.rows

/-- An admission adds its own row to what its sweep left.  No older row bears its
    fresh id, so how those were admitted stands. -/
theorem heldBy_admitted (inv : Inv w)
    (admitted : Admitted w a w' admission swept keyState user table) :
    w'.heldBy userId live P f = { w with db := swept }.heldBy userId live P f +
      if (w.db.owns userId admission.request.key.id ∧ live admission.row) ∧ P admission then
        f admission.row else 0 := by
  have owns : w'.db.owns = w.db.owns := by
    rw [admitted.db]
    rfl
  unfold World.heldBy
  have rows : w'.db.usageReservations.rows =
      swept.usageReservations.rows ++ [admission.row] := by
    rw [admitted.db]
    exact admitted.rows
  rw [rows, sumWhere_append, sumWhere_cons, sumWhere_nil, add_zero, admitted.history]
  congr 1
  · refine sumWhere_congr (fun row hrow => ?_) fun _ _ _ => rfl
    obtain ⟨old, hold, parked⟩ := forall₂_exists_left admitted.sweep.rows hrow
    obtain ⟨earlier, hearlier, columns⟩ := inv.rows old (mem_filter.mp hold).1
    have apart : admission.requestId ≠ row.id := by
      rw [parked.columns.id, columns.id]
      exact (admitted.fresh.1 earlier hearlier).symm
    have keys : w'.db.owns userId row.apiKeyId ↔ swept.owns userId row.apiKeyId := by
      rw [owns, admitted.sweep.owns]
    simp only [keys, mem_cons, exists_eq_or_imp, apart, false_and, false_or]
  · refine if_congr (and_congr (and_congr_left fun _ => ?_) ?_) rfl rfl
    · rw [owns]
      exact Iff.rfl
    · constructor
      · rintro ⟨other, hother, hid, hP⟩
        rcases mem_cons.mp hother with rfl | before
        · exact hP
        · exact absurd hid (admitted.fresh.1 other before)
      · intro hP
        exact ⟨admission, mem_cons_self, rfl, hP⟩

/-- A settle takes exactly the row it consumes out of the sum. -/
theorem heldBy_settled
    (effect : Settled w.db now reservationId apiKeyId intent reservation event db) :
    w.heldBy userId live P f =
      (if (w.db.owns userId reservation.apiKeyId ∧ live reservation) ∧
          ∃ a ∈ w.admitted, a.requestId = reservation.id ∧ P a then f reservation else 0) +
        { w with db }.heldBy userId live P f := by
  have owns : db.owns = w.db.owns := Db.owns_of_apiKeys effect.apiKeys
  have after : { w with db }.heldBy userId live P f =
      sumWhere (fun row => (w.db.owns userId row.apiKeyId ∧ live row) ∧
        ∃ a ∈ w.admitted, a.requestId = row.id ∧ P a) f db.usageReservations.rows := by
    unfold World.heldBy
    refine sumWhere_congr (fun row _ => ?_) fun _ _ _ => rfl
    change (db.owns userId row.apiKeyId ∧ _) ∧ _ ↔ _
    rw [owns]
  rw [after, effect.reservations]
  exact Table.sumWhere_delete_key effect.reservationMem effect.settlable
    fun _ _ hx hy => hx.1.trans hy.1.symm

variable [PartialOrder M] [IsOrderedAddMonoid M]

/-- A step that admits nobody raises no such sum. -/
theorem heldBy_step (inv : Inv w) (h : Change w a w') (same : w'.admitted = w.admitted)
    (nonneg : ∀ row ∈ w.db.usageReservations, live row → 0 ≤ f row)
    (lowers : ∀ old new, RowStep w a old new → live' new → live old ∧ f new ≤ f old) :
    w'.heldBy userId live' P f ≤ w.heldBy userId live P f := by
  have before : w'.heldBy userId live' P f =
      sumWhere (fun row => (w.db.owns userId row.apiKeyId ∧ live' row) ∧
        ∃ a ∈ w.admitted, a.requestId = row.id ∧ P a) f w'.db.usageReservations.rows := by
    unfold World.heldBy
    refine sumWhere_congr (fun row hrow => ?_) fun _ _ _ => rfl
    rw [owns_rows_step inv h userId hrow, same]
  rw [before]
  refine held_step h same (fun row hrow held => nonneg row hrow held.1.2) ?_
  rintro old - new moved ⟨⟨owned, hlive⟩, kind⟩
  rw [moved.columns.apiKeyId] at owned
  rw [moved.columns.id] at kind
  obtain ⟨hold, hle⟩ := lowers old new moved hlive
  exact ⟨⟨⟨owned, hold⟩, kind⟩, hle⟩

/-- Nor does the sweep inside an admission. -/
theorem heldBy_swept (sweep : Swept now w.db swept)
    (nonneg : ∀ row ∈ w.db.usageReservations, live row → 0 ≤ f row)
    (lowers : ∀ old new, Parked old new → live' new → live old ∧ f new ≤ f old) :
    { w with db := swept }.heldBy userId live' P f ≤ w.heldBy userId live P f := by
  refine held_swept sweep (fun row hrow held => nonneg row hrow held.1.2) ?_
  rintro old - new parked ⟨⟨owned, hlive⟩, kind⟩
  rw [parked.columns.apiKeyId, sweep.owns] at owned
  rw [parked.columns.id] at kind
  obtain ⟨hold, hle⟩ := lowers old new parked hlive
  exact ⟨⟨⟨owned, hold⟩, kind⟩, hle⟩

end Kinds

/-! ## Encumbered credit -/

/-- What the encumbering reservations of some keys hold. -/
def Db.encumbered (db : Db) (keys : Uuid → Prop) [DecidablePred keys] (now : Timestamp) : Decimal :=
  sumWhere (fun row => keys row.apiKeyId ∧ row.encumbers now) UsageReservation.reservedCostUsd
    db.usageReservations.rows

/-- The reservations an action writes an intent into, or would settle. -/
def World.commits (w : World) (a : Action) (row : UsageReservation) : Prop :=
  match a with
  | .persistIntent _ requestId _ =>
      row.id = requestId ∧ ∃ held ∈ w.reserved? requestId, row.apiKeyId = held.1.apiKeyId
  | .persistForeignIntent _ requestId apiKeyId _ => row.id = requestId ∧ row.apiKeyId = apiKeyId
  | .settle .. | .replay .. =>
      ∃ call ∈ w.settleCall a, row.isSettlable call.reservationId call.apiKeyId
  | _ => False

instance (w : World) (a : Action) (row : UsageReservation) : Decidable (w.commits a row) := by
  unfold World.commits
  split <;> infer_instance

/-- The user's requests persist their intent or settle before their reservation
    expires: a row that is committed later carries an intent already. -/
def World.isPrompt (w : World) (userId : Uuid) (a : Action) : Prop :=
  ∀ row ∈ w.db.usageReservations, w.db.owns userId row.apiKeyId → row.releasedAt = none →
    w.commits a row → row.settlementIntent ≠ none ∨ w.clock < row.expiresAt

instance (w : World) (userId : Uuid) (a : Action) : Decidable (w.isPrompt userId a) :=
  inferInstanceAs (Decidable (∀ row ∈ w.db.usageReservations.rows, _))

theorem World.commits_of_persists {payload : SettlementPayload}
    (h : w.persists a row.id row.apiKeyId payload) :
    w.commits a row := by
  cases a with
  | persistIntent now requestId record =>
      obtain ⟨session, reservation, held, hid, hkey, -⟩ := h
      exact ⟨hid, (session, reservation), held, hkey⟩
  | persistForeignIntent now requestId apiKeyId foreign =>
      obtain ⟨hid, hkey, -, -⟩ := h
      exact ⟨hid, hkey⟩
  | _ => cases h

theorem World.commits_of_settleCall {call : World.SettleCall}
    (called : w.settleCall a = some call)
    (settlable : row.isSettlable call.reservationId call.apiKeyId) : w.commits a row := by
  cases a with
  | settle | replay => exact ⟨call, called, settlable⟩
  | _ => cases called

section Encumbered

variable {w w' : World} {a : Action} {userId : Uuid} (keys : Uuid → Prop) [DecidablePred keys]
  {old new : UsageReservation}

theorem Db.encumbered_nonneg (db : Db) (now : Timestamp) : 0 ≤ db.encumbered keys now :=
  sumWhere_nonneg fun row hrow _ => (db.usageReservations.checked row hrow).costIsNonnegative

/-- With no intent written, time only lets reservations go. -/
theorem Db.encumbered_antitone (db : Db) {s t : Timestamp} (h : s ≤ t) :
    db.encumbered keys t ≤ db.encumbered keys s := by
  refine sumWhere_le_sumWhere ?_ (fun _ _ _ => le_refl _) ?_
  · rintro row - ⟨hkey, unreleased, live⟩
    exact ⟨hkey, unreleased, live.imp_left h.trans_lt⟩
  · intro row hrow _
    exact (db.usageReservations.checked row hrow).costIsNonnegative

/-- No step takes a release back. -/
theorem RowStep.unreleased (moved : RowStep w a old new) (h : new.releasedAt = none) :
    old.releasedAt = none := by
  rcases moved.released with ⟨same, -⟩ | ⟨unreleased, -⟩
  · rw [← same]
    exact h
  · exact unreleased

/-- A row that holds after a step held before it. -/
theorem RowStep.encumbers (moved : RowStep w a old new) (hold : old ∈ w.db.usageReservations)
    (owned : w.db.owns userId old.apiKeyId) (prompt : w.isPrompt userId a) {clock : Timestamp}
    (later : w.clock ≤ clock) (h : new.encumbers clock) : old.encumbers w.clock := by
  obtain ⟨unreleased, live⟩ := h
  have unreleasedOld := moved.unreleased unreleased
  refine ⟨unreleasedOld, ?_⟩
  rcases live with unexpired | intent
  · rw [moved.columns.expiresAt] at unexpired
    exact .inl (later.trans_lt unexpired)
  · rcases moved.settlementIntent with same | ⟨payload, source, -⟩
    · exact .inr (same ▸ intent)
    · have commits := World.commits_of_persists source
      exact (prompt old hold owned unreleasedOld commits).symm

/-- A step that admits nobody only lets reservations go. -/
theorem encumbered_step (h : Change w a w') (same : w'.admitted = w.admitted)
    (scope : ∀ apiKeyId, keys apiKeyId → w.db.owns userId apiKeyId)
    (prompt : w.isPrompt userId a) :
    w'.db.encumbered keys w'.clock ≤ w.db.encumbered keys w.clock := by
  refine held_step h same ?_ ?_
  · intro row hrow _
    exact (w.db.usageReservations.checked row hrow).costIsNonnegative
  · rintro old hold new moved ⟨hkey, encumbers⟩
    rw [moved.columns.apiKeyId] at hkey
    have encumbers := moved.encumbers hold (scope _ hkey) prompt (clock_step h) encumbers
    exact ⟨⟨hkey, encumbers⟩, moved.columns.reservedCostUsd.le⟩

/-- An admission holds what was held, less what its sweep let go, and its own. -/
theorem encumbered_admitted (admitted : Admitted w a w' admission swept keyState user table) :
    0 ≤ admission.plan.reservedCostUsd ∧
      w'.db.encumbered keys w'.clock ≤ swept.encumbered keys w.clock +
        if keys admission.request.key.id then admission.plan.reservedCostUsd else 0 := by
  have nonneg : 0 ≤ admission.plan.reservedCostUsd := by
    exact (table.checked _ admitted.row_mem).costIsNonnegative
  refine ⟨nonneg, ?_⟩
  rw [admitted.db, admitted.clock]
  unfold Db.encumbered
  rw [admitted.rows, sumWhere_append, sumWhere_cons, sumWhere_nil, add_zero]
  refine add_le_add (le_refl _) ?_
  by_cases hkey : keys admission.request.key.id
  · rw [if_pos hkey]
    split
    · exact le_refl _
    · exact nonneg
  · rw [if_neg hkey, if_neg fun h => hkey h.1]

/-- A sweep never makes a row hold. -/
theorem encumbered_swept (h : Swept now db swept) (clock : Timestamp) :
    swept.encumbered keys clock ≤ db.encumbered keys clock := by
  refine held_swept h ?_ ?_
  · intro row hrow _
    exact (db.usageReservations.checked row hrow).costIsNonnegative
  · rintro old hold new parked ⟨hkey, unreleased, live⟩
    rw [parked.columns.apiKeyId] at hkey
    rw [parked.releasedAt] at unreleased
    rw [parked.columns.expiresAt, parked.settlementIntent] at live
    exact ⟨⟨hkey, unreleased, live⟩, parked.columns.reservedCostUsd.le⟩

/-- A settle lets go of exactly the row it consumes. -/
theorem encumbered_settled {db' : Db}
    (effect : Settled db now reservationId apiKeyId intent reservation event db')
    (clock : Timestamp) :
    db.encumbered keys clock =
      (if keys reservation.apiKeyId ∧ reservation.encumbers clock then
        reservation.reservedCostUsd else 0) + db'.encumbered keys clock := by
  unfold Db.encumbered
  rw [effect.reservations]
  exact Table.sumWhere_delete_key effect.reservationMem effect.settlable
    fun _ _ hx hy => hx.1.trans hy.1.symm

/-- What the user's reservations hold after a step, by who owned the keys before. -/
theorem userActiveReservedCost_step (inv : Inv w) (h : Change w a w') (clock : Timestamp) :
    w'.db.userActiveReservedCost clock userId = w'.db.encumbered (w.db.owns userId) clock := by
  refine sumWhere_congr (fun row hrow => ?_) fun _ _ _ => rfl
  exact and_congr_left fun _ => owns_rows_step inv h userId hrow

end Encumbered

end ZeroRouter
