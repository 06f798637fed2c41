import ZeroRouter.Proofs.Charging

/-!
# The life of a reservation

A reservation row leaves its table only when its request is settled, or when it
expired with no sign of ever having been dispatched.  A release is final: the row
stays, released as it was, and nothing is ever charged for it.
-/

namespace ZeroRouter

open Relational

variable {w w' : World} {a : Action} {requestId : Uuid} {releasedAt : Timestamp}
  {note : Option String}

/-- Something says the request reached an upstream: an intent or a dispatch mark. -/
def UsageReservation.mayOwe (row : UsageReservation) : Prop :=
  row.settlementIntent ≠ none ∨ row.dispatchedAt ≠ none

theorem RowStep.mayOwe {old new : UsageReservation} (h : RowStep w a old new) (owes : old.mayOwe) :
    new.mayOwe := by
  rcases owes with intent | dispatched
  · rcases h.settlementIntent with same | ⟨payload, -, written⟩
    · exact .inl (same ▸ intent)
    · exact .inl (by simp [written])
  · exact .inr (h.dispatchedAt dispatched)

/-- Of a request that may owe, either the row that says so or the metering row. -/
def Accounted (requestId : Uuid) (w : World) : Prop :=
  (∃ row ∈ w.db.usageReservations, row.id = requestId ∧ row.mayOwe) ∨
    ∃ event ∈ w.db.usageEvents, event.requestId = requestId

theorem Accounted.step (accounted : Accounted requestId w) (h : Change w a w') :
    Accounted requestId w' := by
  rcases accounted with ⟨row, hrow, rfl, owes⟩ | ⟨event, hevent, hid⟩
  · rcases reservation_fate h hrow with ⟨new, hnew, moved⟩ | erased
    · exact .inl ⟨new, hnew, moved.columns.id, moved.mayOwe owes⟩
    · cases erased with
      | reclaimed now timely reclaimable =>
          obtain ⟨-, noIntent, noMark, -⟩ := reclaimable
          rcases owes with intent | dispatched
          · exact absurd noIntent intent
          · exact absurd noMark dispatched
      | settled unreleased absent metered => exact .inr metered
      | discarded metered =>
          obtain ⟨event, hevent, hid⟩ := metered
          exact .inr ⟨event, (usageEvents_grow h).subset hevent, hid⟩
  · exact .inr ⟨event, (usageEvents_grow h).subset hevent, hid⟩

/-- No delivered charge is silently erased.  From any state whatever, a
    reservation row is removed only by a settle that meters it, beside a metering
    row that already stands, or when it expired unreleased with neither intent nor
    dispatch mark; and a row that carries either stays, over any run, until its
    request is metered. -/
theorem delivered_charge_kept {w : World} {row : UsageReservation}
    (hrow : row ∈ w.db.usageReservations) :
    (∀ a w', step w a = some w' →
      (∀ kept ∈ w'.db.usageReservations, kept.id ≠ row.id) → Erased w w' row) ∧
    (row.mayOwe → ∀ w', Reaches Transition.anyStep w w' →
      (∃ kept ∈ w'.db.usageReservations, kept.id = row.id ∧ kept.mayOwe) ∨
        ∃ event ∈ w'.db.usageEvents, event.requestId = row.id) := by
  refine ⟨fun a w' next gone => ?_, fun owes w' later => ?_⟩
  · rcases reservation_fate (step_change next) hrow with ⟨new, hnew, moved⟩ | erased
    · exact absurd moved.columns.id (gone new hnew)
    · exact erased
  · exact later.invariant (I := Accounted row.id) (.inl ⟨row, hrow, rfl, owes⟩)
      fun _ _ _ accounted _ next => accounted.step (step_change next)

/-- A dispatched request whose intent was lost, past its lifetime and swept. -/
def lostIntentRun : List Action :=
  [.beginUsageSession 0 7 (houseRequest 5) .commit, .markDispatched 0 7, .tick (reservationTtl + 1),
    .beginUsageSession (reservationTtl + 1) 8 (houseRequest 5) .commit]

theorem delivered_charge_kept_lostIntent :
    ∃ w, ∃ row ∈ w.db.usageReservations, row.id = 7 ∧ row.quarantinedAt.isSome = true ∧
      ∀ w', Reaches Transition.anyStep w w' →
        (∃ kept ∈ w'.db.usageReservations, kept.id = row.id ∧ kept.mayOwe) ∨
          ∃ event ∈ w'.db.usageEvents, event.requestId = row.id := by
  have runs : (Transition.runWhile step Transition.anyStep (.fresh onePrepaidUser oneKey 0)
      lostIntentRun).any (fun w => (w.db.usageReservations.find fun row => row.id = 7).any
        fun row => row.dispatchedAt.isSome && row.quarantinedAt.isSome) = true := by
    decide +kernel
  obtain ⟨w, -, hw⟩ := Transition.Steps.exists_of_runWhile runs
  obtain ⟨row, found, hp⟩ := (Option.any_eq_true _ _).mp hw
  obtain ⟨hrow, hid⟩ := Table.find_some found
  rw [Bool.and_eq_true] at hp
  have owes : row.mayOwe := .inr (Option.isSome_iff_ne_none.mp hp.1)
  exact ⟨w, row, hrow, hid, hp.2, (delivered_charge_kept hrow).2 owes⟩

/-! ## Releases -/

/-- A request an operator gave up on: its row stands, released as it was. -/
def ReleasedAs (requestId : Uuid) (releasedAt : Timestamp) (note : Option String) (w : World) :
    Prop :=
  ∃ row ∈ w.db.usageReservations, row.id = requestId ∧ row.releasedAt = some releasedAt ∧
    row.releasedNote = note

theorem ReleasedAs.step (inv : Inv w) (released : ReleasedAs requestId releasedAt note w)
    (h : Change w a w') : ReleasedAs requestId releasedAt note w' := by
  obtain ⟨row, hrow, rfl, hat, hnote⟩ := released
  rcases reservation_fate h hrow with ⟨new, hnew, moved⟩ | erased
  · rcases moved.released with ⟨sameAt, sameNote⟩ | ⟨unreleased, -⟩
    · exact ⟨new, hnew, moved.columns.id, sameAt.trans hat, sameNote.trans hnote⟩
    · rw [unreleased] at hat
      cases hat
  · cases erased with
    | reclaimed now timely reclaimable =>
        rw [reclaimable.2.2.2] at hat
        cases hat
    | settled unreleased absent metered =>
        rw [unreleased] at hat
        cases hat
    | discarded metered =>
        obtain ⟨event, hevent, hid⟩ := metered
        exact absurd hid (inv.unmetered row hrow event hevent)

/-- What forgiveness means for a request in one state. -/
structure Forgiven (requestId : Uuid) (releasedAt : Timestamp) (note : Option String)
    (w : World) : Prop where
  /-- The record of the release stands as it was written. -/
  kept : ReleasedAs requestId releasedAt note w
  /-- It was not metered. -/
  noEvent : ∀ event ∈ w.db.usageEvents, event.requestId ≠ requestId
  /-- It was not debited. -/
  noDebit : ∀ row ∈ w.db.creditLedger, row.requestId ≠ some requestId
  /-- It holds none of the customer's credit, at any instant. -/
  unencumbered : ∀ row ∈ w.db.usageReservations, row.id = requestId →
    ∀ now, ¬ row.encumbers now
  /-- It is not in the operator's queue. -/
  unlisted : ∀ limit, ∀ listed ∈ w.db.quarantinedSettlements limit,
    listed.requestId ≠ requestId

theorem Forgiven.of_releasedAs (inv : Inv w) (released : ReleasedAs requestId releasedAt note w) :
    Forgiven requestId releasedAt note w := by
  obtain ⟨row, hrow, hid, hat, hnote⟩ := released
  have theRow : ∀ other ∈ w.db.usageReservations, other.id = requestId → other = row :=
    fun other hother hother' => Table.eq_of_clash hother hrow (hother'.trans hid.symm)
  refine ⟨⟨row, hrow, hid, hat, hnote⟩, ?_, ?_, ?_, ?_⟩
  · intro event hevent hsame
    exact inv.unmetered row hrow event hevent (hsame.trans hid.symm)
  · intro debit hdebit names
    obtain ⟨_, -, event, hevent, -, heid, -, -⟩ := inv.ledger debit hdebit requestId names
    exact inv.unmetered row hrow event hevent (heid.trans hid.symm)
  · intro other hother hother' now encumbers
    rw [theRow other hother hother', UsageReservation.encumbers, hat] at encumbers
    exact absurd encumbers.1 (by simp)
  · intro limit listed hlisted hsame
    obtain ⟨other, hother, hshown⟩ := List.mem_filterMap.mp hlisted
    have hparked := (List.mem_insertionSort _).mp (List.mem_of_mem_take hother)
    obtain ⟨hmem, hfilter⟩ := List.mem_filter.mp hparked
    obtain ⟨at', -, rfl⟩ := Option.map_eq_some_iff.mp hshown
    have same := theRow other hmem hsame
    simp [same, hat] at hfilter

/-- Collection and forgiveness exclude each other and are final.  Once a
    reservation is released, every later state has it released as it was and
    nothing charged for it; once a request is charged, every later attempt to
    release it is answered otherwise than `Released`. -/
theorem collection_excludes_forgiveness {w₀ w : World} (opening : w₀.Opening)
    (run : Reaches Transition.anyStep w₀ w) (requestId : Uuid) :
    (∀ releasedAt note, ReleasedAs requestId releasedAt note w →
      ∀ w', Reaches Transition.anyStep w w' → Forgiven requestId releasedAt note w') ∧
    ((∃ event ∈ w.db.usageEvents, event.requestId = requestId) →
      ∀ w', Reaches Transition.anyStep w w' → ∀ now note forgive outcome db,
        w'.db.releaseQuarantinedReservation now requestId note forgive = .ok (outcome, db) →
        ∀ at' owed forgiven, outcome ≠ .released at' owed forgiven) := by
  have inv : Inv w := .reaches opening run
  refine ⟨fun releasedAt note released w' later => ?_, ?_⟩
  · have both := later.invariant (I := fun w => Inv w ∧ ReleasedAs requestId releasedAt note w)
      ⟨inv, released⟩ fun _ _ _ h _ next =>
        ⟨h.1.step (step_change next), h.2.step h.1 (step_change next)⟩
    exact .of_releasedAs both.1 both.2
  · rintro ⟨event, hevent, hid⟩ w' later now note forgive outcome db hrelease
    have later' := Inv.reaches opening (run.trans later)
    have kept : event ∈ w'.db.usageEvents :=
      (ledgers_grow later).1.subset hevent
    rcases Db.releaseQuarantinedReservation_ok hrelease with ⟨other, -⟩ | ⟨⟨row, hrow, hrid⟩, -⟩
    · exact other
    · exact absurd (hid.trans hrid.symm) (later'.unmetered row hrow event kept)

/-- The swept request released, before its late intent and settle arrive. -/
def releaseRun : List Action :=
  lostIntentRun ++ [.release (reservationTtl + 1) 7 " provider outage " false .commit,
    .persistIntent (reservationTtl + 1) 7 (houseRecord 6),
    .settle (reservationTtl + 1) 7 (houseRecord 6) .commit]

theorem collection_excludes_forgiveness_lateSettle :
    ∃ w, ReleasedAs 7 (reservationTtl + 1) (some "provider outage") w ∧
      ∀ w', Reaches Transition.anyStep w w' →
        Forgiven 7 (reservationTtl + 1) (some "provider outage") w' := by
  have runs : (Transition.runWhile step Transition.anyStep (.fresh onePrepaidUser oneKey 0)
      releaseRun).any (fun w => (w.db.usageReservations.find fun row => row.id = 7).any
        fun row => row.releasedAt = some (reservationTtl + 1) ∧
          row.releasedNote = some "provider outage") = true := by
    decide +kernel
  obtain ⟨w, run, hw⟩ := Transition.Steps.exists_of_runWhile runs
  obtain ⟨row, found, hp⟩ := (Option.any_eq_true _ _).mp hw
  obtain ⟨hrow, hid⟩ := Table.find_some found
  have released : ReleasedAs 7 (reservationTtl + 1) (some "provider outage") w :=
    ⟨row, hrow, hid, of_decide_eq_true hp⟩
  exact ⟨w, released, (collection_excludes_forgiveness (World.opening_fresh _ _ _) run 7).1
    _ _ released⟩

end ZeroRouter
