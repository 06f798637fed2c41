import ZeroRouter.Db.Operator
import ZeroRouter.Lib.Run

/-!
# The metering system

The parties of the metering path around one database: requests on either lane,
the recovery sweep, operators, and whoever else moves a balance or mints and
disables a key.  A step is one transaction or one autocommitted statement, so a
run is an interleaving of them in commit order.  A statement the database
refuses leaves the state as it was.

Nothing orders the steps of one request beyond what the code makes impossible: a
settle may be retried, replayed and overtaken at will, with any record, and a
failure may be stamped on any row at any time.
-/

namespace ZeroRouter

open Relational

/-- The history entry of one admitted reservation. -/
structure Admission where
  requestId : Uuid
  now : Timestamp
  request : AdmissionRequest
  plan : AdmissionPlan
  deriving DecidableEq, Repr

/-- The row as admission inserted it. -/
def Admission.row (a : Admission) : UsageReservation :=
  newReservation a.requestId a.now a.request a.plan

def Admission.session (a : Admission) : UsageSession := newSession a.requestId a.request a.plan

/-- The database, the server clock, the sessions requests hold, the rows recovery
    passes have read, and the history of committed reservations. -/
structure World where
  db : Db
  clock : Timestamp
  sessions : List UsageSession
  batch : List OwedSettlement
  admitted : List Admission

/-- A balance movement by a writer other than usage settlement. -/
structure Posting where
  userId : Uuid
  creditReversal : Bool
  entryType : EntryType
  amountUsd : Decimal
  stripeSessionId : Option String
  stripePaymentIntentId : Option String
  note : Option String
  deriving DecidableEq, Repr

inductive Action where
  | tick (clock : Timestamp)
  | beginUsageSession (now : Timestamp) (requestId : Uuid) (request : AdmissionRequest) (fate : Fate)
  | markDispatched (now : Timestamp) (requestId : Uuid)
  | persistIntent (now : Timestamp) (requestId : Uuid) (record : UsageRecord)
  /-- Another build's replica stores a payload this build does not replay. -/
  | persistForeignIntent (now : Timestamp) (requestId apiKeyId : Uuid)
      (payload : SettlementPayload)
  | settle (now : Timestamp) (requestId : Uuid) (record : UsageRecord) (fate : Fate)
  | observeFreeUsage (now : Timestamp) (requestId : Uuid) (record : UsageRecord)
  | recordSettleFailure (now : Timestamp) (requestId : Uuid) (error : String)
  | readOwed (now : Timestamp) (limit : Int)
  | readQuarantined (requestId : Uuid)
  | replay (now : Timestamp) (owed : OwedSettlement) (fate : Fate)
  | discard (reservationId apiKeyId : Uuid)
  | release (now : Timestamp) (requestId : Uuid) (note : String) (forgive : Bool) (fate : Fate)
  | post (posting : Posting)
  | addKey (key : ApiKey)
  | disableKey (id : Uuid)

namespace World

/-- `Uuid::new_v4` never repeats an id. -/
def isFresh (w : World) (requestId : Uuid) : Prop :=
  (∀ a ∈ w.admitted, a.requestId ≠ requestId) ∧ ∀ s ∈ w.sessions, s.requestId ≠ requestId

instance (w : World) (requestId : Uuid) : Decidable (w.isFresh requestId) :=
  inferInstanceAs (Decidable (_ ∧ _))

/-- The session a request holds, if its admission was answered. -/
def session? (w : World) (requestId : Uuid) : Option UsageSession :=
  w.sessions.find? fun s => s.requestId = requestId

/-- A reserved-lane session with its reservation. -/
def reserved? (w : World) (requestId : Uuid) : Option (UsageSession × Reservation) :=
  (w.session? requestId).bind fun s => s.reservation.map fun r => (s, r)

/-- The state after a statement: unchanged when the database refused it. -/
def run (w : World) : Except SqlError Db → World
  | .ok db => { w with db }
  | .error _ => w

/-- The same for a transaction whose `COMMIT` may be lost. -/
def transact (w : World) (fate : Fate) (result : Except SqlError Db) : World :=
  if fate.committed then w.run result else w

/-- One invocation of `settle_once`. -/
structure SettleCall where
  now : Timestamp
  reservationId : Uuid
  apiKeyId : Uuid
  intent : SettlementIntent
  fate : Fate
  deriving DecidableEq, Repr

/-- The `settle_once` an action makes: the request's own, with the intent built
    from its session, or the replay of a payload a recovery pass read. -/
def settleCall (w : World) : Action → Option SettleCall
  | .settle now requestId record fate =>
      (w.reserved? requestId).map fun (session, reservation) =>
        { now
          reservationId := requestId
          apiKeyId := session.apiKeyId
          intent := .new session reservation record
          fate }
  | .replay now owed fate =>
      if owed ∈ w.batch then
        match owed.payload.readIntent with
        | .ok intent =>
            some { now, reservationId := owed.reservationId, apiKeyId := owed.apiKeyId, intent, fate }
        | .error _ => none
      else none
  | _ => none

/-- The settle transaction of a call. -/
def runSettle (w : World) (call : SettleCall) : World :=
  w.transact call.fate
    ((w.db.settleOnce call.now call.reservationId call.apiKeyId call.intent).map Prod.snd)

/-- What an admission leaves: its rows if it committed, its history entry, and a
    session if the client saw it. -/
def runBeginUsageSession (w : World) (now : Timestamp) (requestId : Uuid) (request : AdmissionRequest)
    (fate : Fate) : World :=
  match w.db.beginUsageSession now requestId request with
  | .ok (.allowed session, db) =>
      if fate.committed then
        let swept := (w.db.sweptFor request.lane now).toOption.getD w.db
        let admission :=
          { requestId, now, request, plan := swept.admissionPlan now request : Admission }
        { w with
          db
          sessions := if fate = .commit then session :: w.sessions else w.sessions
          admitted := if request.lane = .reserved then admission :: w.admitted else w.admitted }
      else w
  | _ => w

/-- `INSERT INTO api_keys`, with its foreign key. -/
def runAddKey (w : World) (key : ApiKey) : World :=
  w.run do
    ensure (∃ user ∈ w.db.users, user.id = key.userId) SqlError.foreignKeyViolation
    let apiKeys ← liftViolation (w.db.apiKeys.insert key)
    return { w.db with apiKeys }

/-- `UPDATE api_keys SET disabled = TRUE`. -/
def runDisableKey (w : World) (id : Uuid) : World :=
  w.run do
    let apiKeys ← liftViolation
      (w.db.apiKeys.updateWhere (fun key => key.id = id) fun key => { key with disabled := true })
    return { w.db with apiKeys }

/-- A writer other than usage settlement moves a balance and explains it. -/
def runPost (w : World) (posting : Posting) : World :=
  w.run (w.db.moveBalance posting.userId posting.creditReversal .rowNotFound posting.amountUsd
    fun balanceAfter =>
      { userId := posting.userId
        entryType := posting.entryType
        amountUsd := posting.amountUsd
        balanceAfterUsd := balanceAfter
        stripeSessionId := posting.stripeSessionId
        stripePaymentIntentId := posting.stripePaymentIntentId
        requestId := none
        note := posting.note })

end World

/-- The instant a step's statement or transaction began. -/
def Action.now? : Action → Option Timestamp
  | .beginUsageSession now .. | .markDispatched now .. | .persistIntent now ..
  | .persistForeignIntent now .. | .settle now .. | .observeFreeUsage now ..
  | .recordSettleFailure now .. | .readOwed now .. | .replay now .. | .release now .. => some now
  | _ => none

/-- One step; `none` when the action is not enabled.  A transaction's `NOW()` is
    never after the clock, and may be before it: it waited for locks. -/
def step (w : World) (action : Action) : Option World :=
  if ∀ now ∈ action.now?, now ≤ w.clock then
    match action with
    | .tick clock => if w.clock ≤ clock then some { w with clock } else none
    | .beginUsageSession now requestId request fate =>
        if w.isFresh requestId then some (w.runBeginUsageSession now requestId request fate) else none
    | .markDispatched now requestId =>
        (w.reserved? requestId).map fun (session, _) =>
          w.run (w.db.markDispatched now requestId session.apiKeyId)
    | .persistIntent now requestId record =>
        (w.reserved? requestId).map fun (session, reservation) =>
          w.run (w.db.persistIntent now requestId session.apiKeyId
            (.readable (.new session reservation record)))
    | .persistForeignIntent now requestId apiKeyId payload =>
        if payload.readIntent.isOk then none
        else some (w.run (w.db.persistIntent now requestId apiKeyId payload))
    | .settle .. => (w.settleCall action).map w.runSettle
    | .observeFreeUsage now requestId record =>
        (w.session? requestId).bind fun session =>
          if session.reservation = none then
            some (w.run (w.db.observeFreeUsage now requestId session.apiKeyId record))
          else none
    | .recordSettleFailure now requestId error =>
        some (w.run ((w.db.recordSettleFailure now requestId error).map Prod.snd))
    | .readOwed now limit => some { w with batch := w.db.owedSettlements now limit ++ w.batch }
    | .readQuarantined requestId =>
        match w.db.quarantinedSettlement requestId with
        | some (owed, none) =>
            if owed.payload.readIntent.isOk then some { w with batch := owed :: w.batch } else none
        | _ => none
    | .replay now owed _ =>
        if owed ∈ w.batch then
          match owed.payload.readIntent with
          | .ok _ => (w.settleCall action).map w.runSettle
          | .error reason =>
              some (w.run (w.db.quarantineSettlement now owed.reservationId reason))
        else none
    | .discard reservationId apiKeyId =>
        some { w with db := w.db.discardSettledReservation reservationId apiKeyId }
    | .release now requestId note forgive fate =>
        some (w.transact fate
          ((w.db.releaseQuarantinedReservation now requestId note forgive).map Prod.snd))
    | .post posting => some (w.runPost posting)
    | .addKey key => some (w.runAddKey key)
    | .disableKey id => some (w.runDisableKey id)
  else none

/-- Before the first request: accounts and keys may exist, and nothing has been
    reserved, metered or posted. -/
structure World.Opening (w : World) : Prop where
  usageReservations : w.db.usageReservations = .empty
  usageEvents : w.db.usageEvents = .empty
  requestAttempts : w.db.requestAttempts = .empty
  creditLedger : w.db.creditLedger = .empty
  usageKeyMonthSpend : w.db.usageKeyMonthSpend = .empty
  usageKeyDaySpend : w.db.usageKeyDaySpend = .empty
  usageKeyTotalSpend : w.db.usageKeyTotalSpend = .empty
  sessions : w.sessions = []
  batch : w.batch = []
  admitted : w.admitted = []

/-- A deployment whose accounts and keys exist and whose traffic has not begun. -/
def World.fresh (users : Table usersTable) (apiKeys : Table apiKeysTable) (clock : Timestamp) :
    World where
  db := .fresh users apiKeys
  clock := clock
  sessions := []
  batch := []
  admitted := []

theorem World.opening_fresh (users : Table usersTable) (apiKeys : Table apiKeysTable)
    (clock : Timestamp) : (World.fresh users apiKeys clock).Opening :=
  ⟨rfl, rfl, rfl, rfl, rfl, rfl, rfl, rfl, rfl, rfl⟩

/-- Reachable through steps that each meet `C`. -/
abbrev Reaches (C : World → Action → Prop) : World → World → Prop := Transition.Steps step C

end ZeroRouter
