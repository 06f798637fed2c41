import ZeroRouter.Keys.Store
import ZeroRouter.Lib.ReadCommitted

/-!
# The transactions of self-service key management

Every handler of the portal's key pages and of the device flow as the transactions it
runs, statement by statement.  `now` is `NOW()`, fixed when the transaction begins, and
`clock` the router's own `Utc::now()`; ids and codes a handler draws are parameters.

An `UPDATE` or a `SELECT … FOR UPDATE` finds its rows in the snapshot of its statement,
locks them, and looks at each again once it has the lock.
-/

namespace ZeroRouter

open ReadCommitted

abbrev KeyProgram := Program RowLock KeyStore KeyAnswer

/-! ## Statements -/

/-- `SELECT … WHERE … FOR UPDATE`, or the row an `UPDATE … WHERE …` finds: `missing` when
    no row matches, before the lock or once it is held. -/
def selectForUpdate {β : Type} (table : KeyStore → List β) (id : β → Uuid)
    (lock : Uuid → RowLock) (wanted : β → Bool) (missing : KeyProgram)
    (found : β → KeyProgram) : KeyProgram :=
  .read fun snapshot =>
    match (table snapshot).find? wanted with
    | none => missing
    | some row =>
        .lock (lock (id row)) (.read fun db =>
          match (table db).find? fun other => id other = id row && wanted other with
          | none => missing
          | some row => found row)

def selectKey (keyId userId : Uuid) (wanted : KeyRow → Bool) (missing : KeyProgram)
    (found : KeyRow → KeyProgram) : KeyProgram :=
  selectForUpdate KeyStore.keys (·.id) .key
    (fun key => key.id = keyId && key.userId = userId && wanted key) missing found

def selectGrant (wanted : DeviceAuthorization → Bool) (missing : KeyProgram)
    (found : DeviceAuthorization → KeyProgram) : KeyProgram :=
  selectForUpdate KeyStore.grants (·.id) .grant wanted missing found

/-- The rows an `UPDATE` of one row by its id leaves. -/
def updateKeyRow (keyId : Uuid) (change : KeyRow → KeyRow) (db : KeyStore) : KeyStore :=
  { db with keys := db.keys.map fun key => if key.id = keyId then change key else key }

def updateGrant (grantId : Uuid) (change : DeviceAuthorization → DeviceAuthorization)
    (db : KeyStore) : KeyStore :=
  { db with
    grants := db.grants.map fun grant => if grant.id = grantId then change grant else grant }

def KeyStore.withKey (row : KeyRow) (db : KeyStore) : KeyStore :=
  { db with keys := db.keys ++ [row] }

/-- `INSERT INTO api_keys`: another transaction's row of the same id is waited for, a
    committed one is a unique violation. -/
def insertKey (row : KeyRow) (violated next : KeyProgram) : KeyProgram :=
  .lock (.key row.id) (.read fun db =>
    if db.keys.any fun key => key.id = row.id then violated
    else .write (KeyStore.withKey row) next)

/-- `SELECT id FROM users WHERE id = $1 FOR UPDATE`. -/
def lockUser (userId : Uuid) (next : KeyProgram) : KeyProgram :=
  .lock (.user userId) next

/-- `admit_key_mint`, two statements: the freeze, then the two counts. -/
def admitKeyMint (userId : Uuid) (now : Timestamp) (refused : KeyMintAdmission → KeyProgram)
    (allowed : KeyProgram) : KeyProgram :=
  .read fun db =>
    if (db.frozenAt userId).isSome then refused .accountFrozen
    else .read fun db =>
      if maxActiveKeysPerUser ≤ activeKeys db.keys userId ∨
          maxKeysCreatedPerWindow ≤ createdKeys db.keys userId (now - keyCreationWindow) then
        refused .limitReached
      else allowed

/-- `portal.rs` answers the refusals of `admit_key_mint` with their own errors. -/
def portalRefusal : KeyMintAdmission → KeyProgram
  | .accountFrozen => .refuse (.refused .accountFrozen)
  | _ => .refuse (.refused .keyLimitReached)

/-! ## The portal -/

/-- The row `create_key` inserts for a validated request. -/
def CreateKeyRequest.inserted (request : CreateKeyRequest) (userId : Uuid) (now : Timestamp)
    (keyId : Uuid) : KeyRow :=
  { KeyRow.inserted keyId userId request.name now .portal with
    expiresAt := request.expiresAt
    creditLimitUsd := request.creditLimitUsd
    creditLimitWindow := request.creditLimitWindow }

/-- `UPDATE api_keys SET spend_cap_usd = COALESCE($2, spend_cap_usd), …`. -/
def CreateKeyRequest.coalesced (request : CreateKeyRequest) (key : KeyRow) : KeyRow :=
  { key with
    spendCapUsd := request.spendCapUsd.getD key.spendCapUsd
    velocityCapTokensPerMin := request.velocityCapTokensPerMin.getD key.velocityCapTokensPerMin
    defaultPriority := request.defaultPriority <|> key.defaultPriority }

/-- The last read of a mint: the row as it was inserted. -/
def answerCreated (keyId : Uuid) : KeyProgram :=
  .read fun db =>
    match db.keys.find? fun key => key.id = keyId with
    | none => .refuse (.refused (.database .rowNotFound))
    | some key => .commit (.created key)

/-- `create_key`: the caps the request names are written over the column defaults. -/
def createKey (userId : Uuid) (request : CreateKeyRequest) (now clock : Timestamp)
    (keyId : Uuid) : KeyProgram :=
  match validateNewKey request clock with
  | .error message => .refuse (.refused (.invalidRequest message))
  | .ok validated =>
      lockUser userId <| admitKeyMint userId now portalRefusal <|
        insertKey (validated.inserted userId now keyId)
          (.refuse (.refused (.database .uniqueViolation))) <|
          if validated.spendCapUsd.isSome || validated.velocityCapTokensPerMin.isSome ||
              validated.defaultPriority.isSome then
            .write (updateKeyRow keyId validated.coalesced) (answerCreated keyId)
          else answerCreated keyId

def playgroundKeyName : String := "playground"
def playgroundKeyCreditLimitUsd : Decimal := 5
def playgroundKeyCreditLimitWindow : CreditLimitWindow := .monthly

def KeyRow.isPlayground (userId : Uuid) (key : KeyRow) : Bool :=
  key.userId = userId && key.name = playgroundKeyName && !key.disabled

/-- The `UPDATE` of `ensure_playground_key` over the rows it locked. -/
def retirePlayground (userId : Uuid) (locked : List Uuid) (db : KeyStore) : KeyStore :=
  { db with
    keys := db.keys.map fun key =>
      if key.id ∈ locked ∧ key.isPlayground userId then { key with disabled := true } else key }

/-- The row `ensure_playground_key` inserts. -/
def playgroundRow (userId : Uuid) (now : Timestamp) (keyId : Uuid) : KeyRow :=
  { KeyRow.inserted keyId userId playgroundKeyName now .playground with
    creditLimitUsd := some playgroundKeyCreditLimitUsd
    creditLimitWindow := some playgroundKeyCreditLimitWindow }

/-- `ensure_playground_key`. -/
def ensurePlaygroundKey (userId : Uuid) (now : Timestamp) (keyId : Uuid) : KeyProgram :=
  lockUser userId <| .read fun snapshot =>
    let locked := (snapshot.keys.filter (·.isPlayground userId)).map (·.id)
    .lockAll (locked.map .key) <| .write (retirePlayground userId locked) <|
      admitKeyMint userId now portalRefusal <|
        insertKey (playgroundRow userId now keyId)
          (.refuse (.refused (.database .uniqueViolation))) (answerCreated keyId)

/-- `disable_key`. -/
def disableKey (userId keyId : Uuid) : KeyProgram :=
  selectKey keyId userId (fun key => !key.disabled) (.refuse (.refused .keyNotFound)) fun _ =>
    .write (updateKeyRow keyId fun key => { key with disabled := true }) (.commit .noContent)

/-- `update_key`. -/
def updateKey (userId keyId : Uuid) (request : UpdateKeyRequest) (clock : Timestamp) :
    KeyProgram :=
  let answer : KeyProgram := .read fun db =>
    match db.keys.find? fun key => key.id = keyId && key.userId = userId with
    | none => .refuse (.refused .keyNotFound)
    | some key => .commit (.summary key)
  selectKey keyId userId (fun _ => true) (.refuse (.refused .keyNotFound)) fun current =>
    match validateKeyEdit request current.edit clock with
    | .error message => .refuse (.refused (.invalidRequest message))
    | .ok after =>
        if request.namesAField then .write (updateKeyRow keyId (·.edited after)) answer
        else answer

/-! ## The device flow -/

def deviceCodeTtl : Timestamp := 900 * 1000000
def devicePollIntervalSecs : Int := 5
def defaultKeyName : String := "zeroclaw device"

/-- `normalized_key_name`. -/
def normalizedKeyName (raw : Option String) : Option String :=
  ((raw.map trim).filter (· ≠ "")).map fun name =>
    String.ofList (name.toList.take maxKeyNameChars)

def DeviceAuthorization.isOpen (grant : DeviceAuthorization) : Bool :=
  grant.status = .pending || grant.status = .approved

/-- What the first statement of `expire_stale_authorizations` updates. -/
def DeviceAuthorization.isStale (now : Timestamp) (grant : DeviceAuthorization) : Bool :=
  grant.isOpen && grant.expiresAt ≤ now

/-- That `UPDATE` over the rows it locked. -/
def expireLocked (now : Timestamp) (locked : List Uuid) (db : KeyStore) : KeyStore :=
  { db with
    grants := db.grants.map fun grant =>
      if grant.id ∈ locked ∧ grant.isStale now then { grant with status := .expired }
      else grant }

def expireStale (now : Timestamp) : KeyProgram :=
  .read fun snapshot =>
    let locked := (snapshot.grants.filter (·.isStale now)).map (·.id)
    .lockAll (locked.map .grant) <| .write (expireLocked now locked) (.commit .done)

def terminalGrace : Timestamp := 24 * 60 * 60 * 1000000

/-- What the second statement of `expire_stale_authorizations` deletes. -/
def DeviceAuthorization.isReclaimed (now : Timestamp) (grant : DeviceAuthorization) : Bool :=
  !grant.isOpen && grant.expiresAt ≤ now - terminalGrace

/-- That `DELETE` over the rows it locked. -/
def deleteLocked (now : Timestamp) (locked : List Uuid) (db : KeyStore) : KeyStore :=
  { db with
    grants := db.grants.filter fun grant => !(locked.contains grant.id && grant.isReclaimed now) }

def deleteTerminal (now : Timestamp) : KeyProgram :=
  .read fun snapshot =>
    let locked := (snapshot.grants.filter (·.isReclaimed now)).map (·.id)
    .lockAll (locked.map .grant) <| .write (deleteLocked now locked) (.commit .done)

/-- The row `start_device_authorization` inserts. -/
def authorizationRow (id : Uuid) (deviceCodeHash userCode clientId : String)
    (keyName : Option String) (now : Timestamp) : DeviceAuthorization where
  id := id
  deviceCodeHash := deviceCodeHash
  userCode := userCode
  clientId := clientId
  status := .pending
  userId := none
  apiKeyId := none
  keyName := normalizedKeyName keyName
  createdAt := now
  expiresAt := now + deviceCodeTtl
  lastPolledAt := none
  pollIntervalSecs := devicePollIntervalSecs

def KeyStore.withGrant (row : DeviceAuthorization) (db : KeyStore) : KeyStore :=
  { db with grants := db.grants ++ [row], drawn := row.id :: db.drawn }

/-- One of the `INSERT`s of `start_device_authorization`; an id, a hash or a code that is
    taken is a unique violation, after which the handler draws again. -/
def insertAuthorization (row : DeviceAuthorization) : KeyProgram :=
  .lockAll [.grant row.id, .deviceCode row.deviceCodeHash, .userCode row.userCode] <|
    .read fun db =>
      if row.id ∈ db.drawn ∨ db.grants.any fun grant =>
          grant.deviceCodeHash = row.deviceCodeHash || grant.userCode = row.userCode then
        .refuse (.oauth .serverError)
      else .write (KeyStore.withGrant row) (.commit .done)

/-- `last_polled_at > NOW() - poll_interval_secs`. -/
def DeviceAuthorization.polledTooRecently (grant : DeviceAuthorization) (now : Timestamp) : Bool :=
  grant.lastPolledAt.any fun at_ => now - grant.pollIntervalSecs * 1000000 < at_

/-- The name a claimed key goes by. -/
def DeviceAuthorization.claimedName (grant : DeviceAuthorization) : String :=
  ((grant.keyName.map trim).filter (· ≠ "")).getD defaultKeyName

/-- The row the claim inserts. -/
def DeviceAuthorization.claimedKey (grant : DeviceAuthorization) (userId : Uuid)
    (now : Timestamp) (keyId : Uuid) : KeyRow :=
  KeyRow.inserted keyId userId grant.claimedName now (.device grant.id)

/-- `UPDATE device_authorizations SET status = 'claimed', … WHERE … AND status =
    'approved'`. -/
def DeviceAuthorization.claimed (now : Timestamp) (keyId : Uuid) (grant : DeviceAuthorization) :
    DeviceAuthorization :=
  if grant.status = .approved then
    { grant with status := .claimed, apiKeyId := some keyId, lastPolledAt := some now }
  else grant

/-- The claim of `poll_device_token`: the key and the grant's last status in one
    transaction. -/
def claimGrant (grant : DeviceAuthorization) (userId : Uuid) (now : Timestamp) (keyId : Uuid) :
    KeyProgram :=
  lockUser userId <| admitKeyMint userId now (fun _ => .refuse (.oauth .accessDenied)) <|
    insertKey (grant.claimedKey userId now keyId) (.refuse (.oauth .serverError)) <|
      .read fun db =>
        if (db.grants.countP fun other => other.id = grant.id ∧ other.status = .approved) = 1 then
          .write (updateGrant grant.id (·.claimed now keyId))
            (.commit (.token (grant.claimedKey userId now keyId)))
        else .refuse (.oauth .invalidGrant)

/-- `poll_device_token`, from its first statement on. -/
def pollDeviceToken (deviceCodeHash clientId : String) (now : Timestamp) (keyId : Uuid) :
    KeyProgram :=
  selectGrant (fun grant => grant.deviceCodeHash = deviceCodeHash && grant.clientId = clientId)
    (.refuse (.oauth .invalidGrant)) fun grant =>
    if grant.expiresAt ≤ now ∧ grant.isOpen then
      .write (updateGrant grant.id fun grant => { grant with status := .expired })
        (.commit (.oauth .expiredToken))
    else
      match grant.status with
      | .pending =>
          .write (updateGrant grant.id fun grant => { grant with lastPolledAt := some now })
            (.commit (.oauth
              (if grant.polledTooRecently now then .slowDown else .authorizationPending)))
      | .approved =>
          match grant.userId with
          | none => .refuse (.oauth .serverError)
          | some userId => claimGrant grant userId now keyId
      | .denied => .refuse (.oauth .accessDenied)
      | .expired => .refuse (.oauth .expiredToken)
      | .claimed => .refuse (.oauth .invalidGrant)

/-- The `WHERE` of an approval and of a denial. -/
def DeviceAuthorization.isDecidable (userCode : String) (now : Timestamp)
    (grant : DeviceAuthorization) : Bool :=
  grant.userCode = userCode && grant.status = .pending && now < grant.expiresAt

/-- `UPDATE device_authorizations SET status = 'approved', user_id = $2, key_name =
    COALESCE($3, key_name)`. -/
def DeviceAuthorization.approvedBy (userId : Uuid) (keyName : Option String)
    (grant : DeviceAuthorization) : DeviceAuthorization :=
  { grant with
    status := .approved
    userId := some userId
    keyName := normalizedKeyName keyName <|> grant.keyName }

/-- `approve_user_code`. -/
def approveUserCode (userId : Uuid) (userCode : String) (keyName : Option String)
    (now : Timestamp) : KeyProgram :=
  selectGrant (·.isDecidable userCode now) (.refuse .codeNotFound) fun grant =>
    .write (updateGrant grant.id (·.approvedBy userId keyName)) (.commit .done)

/-- `deny_user_code`. -/
def denyUserCode (userCode : String) (now : Timestamp) : KeyProgram :=
  selectGrant (·.isDecidable userCode now) (.refuse .codeNotFound) fun grant =>
    .write (updateGrant grant.id fun grant => { grant with status := .denied }) (.commit .done)

/-! ## Freezes -/

def KeyStore.withFrozen (userId : Uuid) (frozenAt : Option Timestamp) (db : KeyStore) : KeyStore :=
  { db with frozenAt := Function.update db.frozenAt userId frozenAt }

/-- `freeze_account` and `unfreeze_account`: the row is written when it is not that way
    already. -/
def setFrozen (userId : Uuid) (frozenAt : Option Timestamp) : KeyProgram :=
  .read fun snapshot =>
    if (snapshot.frozenAt userId).isSome = frozenAt.isSome then .refuse .done
    else .lock (.user userId) (.read fun db =>
      if (db.frozenAt userId).isSome = frozenAt.isSome then .refuse .done
      else .write (KeyStore.withFrozen userId frozenAt) (.commit .done))

/-! ## The system -/

inductive KeyOperation where
  | createKey (userId : Uuid) (request : CreateKeyRequest) (now clock : Timestamp)
      (keyId : Uuid)
  | ensurePlaygroundKey (userId : Uuid) (now : Timestamp) (keyId : Uuid)
  | disableKey (userId keyId : Uuid)
  | updateKey (userId keyId : Uuid) (request : UpdateKeyRequest) (clock : Timestamp)
  | expireStale (now : Timestamp)
  | deleteTerminal (now : Timestamp)
  | insertAuthorization (id : Uuid) (deviceCodeHash userCode clientId : String)
      (keyName : Option String) (now : Timestamp)
  | pollDeviceToken (deviceCodeHash clientId : String) (now : Timestamp) (keyId : Uuid)
  | approveUserCode (userId : Uuid) (userCode : String) (keyName : Option String)
      (now : Timestamp)
  | denyUserCode (userCode : String) (now : Timestamp)
  | freezeAccount (userId : Uuid) (now : Timestamp)
  | unfreezeAccount (userId : Uuid)
  deriving DecidableEq, Repr

def KeyOperation.program : KeyOperation → KeyProgram
  | .createKey userId request now clock keyId =>
      ZeroRouter.createKey userId request now clock keyId
  | .ensurePlaygroundKey userId now keyId => ZeroRouter.ensurePlaygroundKey userId now keyId
  | .disableKey userId keyId => ZeroRouter.disableKey userId keyId
  | .updateKey userId keyId request clock => ZeroRouter.updateKey userId keyId request clock
  | .expireStale now => ZeroRouter.expireStale now
  | .deleteTerminal now => ZeroRouter.deleteTerminal now
  | .insertAuthorization id deviceCodeHash userCode clientId keyName now =>
      ZeroRouter.insertAuthorization
        (authorizationRow id deviceCodeHash userCode clientId keyName now)
  | .pollDeviceToken deviceCodeHash clientId now keyId =>
      ZeroRouter.pollDeviceToken deviceCodeHash clientId now keyId
  | .approveUserCode userId userCode keyName now =>
      ZeroRouter.approveUserCode userId userCode keyName now
  | .denyUserCode userCode now => ZeroRouter.denyUserCode userCode now
  | .freezeAccount userId now => setFrozen userId (some now)
  | .unfreezeAccount userId => setFrozen userId none

abbrev KeySystem := State KeyOperation RowLock KeyStore KeyAnswer
abbrev KeyAction := Action KeyOperation

def keyStep (s : KeySystem) (action : KeyAction) : Option KeySystem :=
  step KeyOperation.program s action

end ZeroRouter
