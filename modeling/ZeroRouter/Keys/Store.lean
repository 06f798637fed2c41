import ZeroRouter.Db.Admission
import ZeroRouter.Api.Route

/-!
# The rows self-service key management works on

`api_keys` with the columns the portal and the device flow add to what admission reads,
`device_authorizations` (0002), and the `frozen_at` of `users`: the rows that
`src/router/src/portal.rs`, `src/router/src/device.rs` and `admit_key_mint` of
`src/router/src/db.rs` read and write.
-/

namespace ZeroRouter

/-- The statement that inserted a key.  `api_keys` has no such column; it is kept here so
    that a run can be told from the rows it leaves. -/
inductive KeyOrigin where
  | operator
  | portal
  | playground
  | device (authorization : Uuid)
  deriving DecidableEq, Repr

/-- A row of `api_keys`, in full as far as the portal reads it. -/
structure KeyRow extends ApiKey where
  name : String
  defaultPriority : Option Priority
  createdAt : Timestamp
  origin : KeyOrigin
  deriving DecidableEq, Repr

inductive GrantStatus where
  | pending
  | approved
  | denied
  | claimed
  | expired
  deriving DecidableEq, Repr

structure DeviceAuthorization where
  id : Uuid
  deviceCodeHash : String
  userCode : String
  clientId : String
  status : GrantStatus
  userId : Option Uuid
  apiKeyId : Option Uuid
  keyName : Option String
  createdAt : Timestamp
  expiresAt : Timestamp
  lastPolledAt : Option Timestamp
  pollIntervalSecs : Int
  deriving DecidableEq, Repr

/-- `drawn` are the ids `Uuid::new_v4` has given to grants: a grant's row can be deleted,
    and its id is still not drawn again. -/
structure KeyStore where
  frozenAt : Uuid → Option Timestamp
  keys : List KeyRow
  grants : List DeviceAuthorization
  drawn : List Uuid

/-- The rows and the unique index entries a transaction can hold a lock on. -/
inductive RowLock where
  | user (id : Uuid)
  | key (id : Uuid)
  | grant (id : Uuid)
  | deviceCode (hash : String)
  | userCode (code : String)
  deriving DecidableEq, Repr

/-! ## Keys -/

/-- The column defaults of `api_keys` (0001). -/
def defaultSpendCapUsd : Decimal := 20
def defaultVelocityCapTokensPerMin : Int := 100000

/-- `INSERT INTO api_keys (id, user_id, key_hash, name, …)`: what is not named takes its
    column's default. -/
def KeyRow.inserted (id userId : Uuid) (name : String) (now : Timestamp) (origin : KeyOrigin) :
    KeyRow where
  id := id
  userId := userId
  spendCapUsd := defaultSpendCapUsd
  velocityCapTokensPerMin := defaultVelocityCapTokensPerMin
  disabled := false
  expiresAt := none
  creditLimitUsd := none
  creditLimitWindow := none
  name := name
  defaultPriority := none
  createdAt := now
  origin := origin

def maxActiveKeysPerUser : Nat := 20
def maxKeysCreatedPerWindow : Nat := 20
def keyCreationWindow : Timestamp := 24 * 60 * 60 * 1000000

/-- The keys of a user that are not disabled. -/
def activeKeys (keys : List KeyRow) (userId : Uuid) : Nat :=
  keys.countP fun key => key.userId = userId ∧ key.disabled = false

/-- The keys of a user created after an instant. -/
def createdKeys (keys : List KeyRow) (userId : Uuid) (after : Timestamp) : Nat :=
  keys.countP fun key => key.userId = userId ∧ after < key.createdAt

/-- The keys of a user created within the twenty-four hours that follow an instant. -/
def createdWithin (keys : List KeyRow) (userId : Uuid) (since : Timestamp) : Nat :=
  keys.countP fun key => key.userId = userId ∧ since < key.createdAt ∧
    key.createdAt ≤ since + keyCreationWindow

/-- The keys of a user that go by a name and are not disabled. -/
def liveNamed (keys : List KeyRow) (userId : Uuid) (name : String) : Nat :=
  keys.countP fun key => key.userId = userId ∧ key.name = name ∧ key.disabled = false

inductive KeyMintAdmission where
  | allowed
  | limitReached
  | accountFrozen
  deriving DecidableEq, Repr

/-! ## What the handlers answer -/

inductive PortalKeyError where
  | invalidRequest (message : String)
  | keyNotFound
  | keyLimitReached
  | accountFrozen
  | database (error : SqlError)
  deriving DecidableEq, Repr

inductive OauthError where
  | invalidGrant
  | expiredToken
  | accessDenied
  | authorizationPending
  | slowDown
  | serverError
  deriving DecidableEq, Repr

inductive KeyAnswer where
  | created (key : KeyRow)
  | noContent
  | summary (key : KeyRow)
  | refused (error : PortalKeyError)
  | token (key : KeyRow)
  | oauth (error : OauthError)
  | codeNotFound
  | done
  deriving DecidableEq, Repr

/-! ## Requests -/

def maxKeyNameChars : Nat := 100
def maxSpendCapUsd : Decimal := 10000
def maxVelocityCapTokensPerMin : Int := 2000000

structure CreateKeyRequest where
  name : String
  spendCapUsd : Option Decimal
  velocityCapTokensPerMin : Option Int
  defaultPriority : Option Priority
  expiresAt : Option Timestamp
  creditLimitUsd : Option Decimal
  creditLimitWindow : Option CreditLimitWindow
  deriving DecidableEq, Repr

/-- `validate_new_key`: the request with its name trimmed, or the message of the refusal;
    `clock` is `Utc::now()`. -/
def validateNewKey (request : CreateKeyRequest) (clock : Timestamp) :
    Except String CreateKeyRequest :=
  let name := trim request.name
  if name = "" then .error "name cannot be empty"
  else if maxKeyNameChars < name.length then .error "name cannot exceed 100 characters"
  else if request.spendCapUsd.any fun cap => cap ≤ 0 then .error "spend_cap_usd must be positive"
  else if request.spendCapUsd.any fun cap => maxSpendCapUsd < cap then
    .error "spend_cap_usd cannot exceed 10000"
  else if request.velocityCapTokensPerMin.any fun cap => cap ≤ 0 then
    .error "velocity_cap_tokens_per_min must be positive"
  else if request.velocityCapTokensPerMin.any fun cap => maxVelocityCapTokensPerMin < cap then
    .error "velocity_cap_tokens_per_min cannot exceed 2000000"
  else if request.expiresAt.any fun expiresAt => expiresAt ≤ clock then
    .error "expires_at must be in the future"
  else if request.creditLimitUsd.any fun limit => limit ≤ 0 then
    .error "credit_limit_usd must be positive"
  else if request.creditLimitUsd.any fun limit => maxSpendCapUsd < limit then
    .error "credit_limit_usd cannot exceed 10000"
  else if request.creditLimitWindow.isSome && request.creditLimitUsd.isNone then
    .error "credit_limit_window requires credit_limit_usd"
  else .ok { request with name }

/-- `UpdateKeyRequest`: an absent field leaves its column, `some none` clears it. -/
structure UpdateKeyRequest where
  defaultPriority : Option (Option Priority)
  creditLimitUsd : Option (Option Decimal)
  creditLimitWindow : Option (Option CreditLimitWindow)
  expiresAt : Option (Option Timestamp)
  deriving DecidableEq, Repr

/-- The row with the fields a request names. -/
def KeyRow.patched (key : KeyRow) (request : UpdateKeyRequest) : KeyRow :=
  { key with
    defaultPriority := request.defaultPriority.getD key.defaultPriority
    creditLimitUsd := request.creditLimitUsd.getD key.creditLimitUsd
    creditLimitWindow := request.creditLimitWindow.getD key.creditLimitWindow
    expiresAt := request.expiresAt.getD key.expiresAt }

/-- The four editable columns as `KeyEdit` holds them. -/
structure KeyEdit where
  defaultPriority : Option Priority
  expiresAt : Option Timestamp
  creditLimitUsd : Option Decimal
  creditLimitWindow : Option CreditLimitWindow
  deriving DecidableEq, Repr

def KeyRow.edit (key : KeyRow) : KeyEdit where
  defaultPriority := key.defaultPriority
  expiresAt := key.expiresAt
  creditLimitUsd := key.creditLimitUsd
  creditLimitWindow := key.creditLimitWindow

/-- `validate_key_edit`: the columns as the patch would leave them, or the message of the
    refusal. -/
def validateKeyEdit (request : UpdateKeyRequest) (current : KeyEdit) (clock : Timestamp) :
    Except String KeyEdit :=
  let after : KeyEdit :=
    { defaultPriority := request.defaultPriority.getD current.defaultPriority
      expiresAt := request.expiresAt.getD current.expiresAt
      creditLimitUsd := request.creditLimitUsd.getD current.creditLimitUsd
      creditLimitWindow := request.creditLimitWindow.getD current.creditLimitWindow }
  if after.creditLimitUsd.any fun limit => limit ≤ 0 then
    .error "credit_limit_usd must be positive"
  else if after.creditLimitUsd.any fun limit => maxSpendCapUsd < limit then
    .error "credit_limit_usd cannot exceed 10000"
  else if after.creditLimitWindow.isSome && after.creditLimitUsd.isNone then
    .error ("credit_limit_window requires credit_limit_usd; send both as null to " ++
      "remove the budget entirely")
  else if after.expiresAt.any fun expiresAt => expiresAt ≤ clock then
    .error ("expires_at must be in the future; to stop a key now, revoke it with " ++
      "DELETE /api/keys/\x7bid\x7d")
  else .ok after

/-- `UPDATE api_keys SET default_priority, expires_at, credit_limit_usd,
    credit_limit_window`. -/
def KeyRow.edited (key : KeyRow) (after : KeyEdit) : KeyRow :=
  { key with
    defaultPriority := after.defaultPriority
    expiresAt := after.expiresAt
    creditLimitUsd := after.creditLimitUsd
    creditLimitWindow := after.creditLimitWindow }

def UpdateKeyRequest.namesAField (request : UpdateKeyRequest) : Bool :=
  request.defaultPriority.isSome || request.expiresAt.isSome || request.creditLimitUsd.isSome ||
    request.creditLimitWindow.isSome

/-- A validated edit is the row with the fields the request names. -/
theorem validateKeyEdit_ok {request : UpdateKeyRequest} {key : KeyRow} {clock : Timestamp}
    {after : KeyEdit} (valid : validateKeyEdit request key.edit clock = .ok after) :
    key.edited after = key.patched request := by
  unfold validateKeyEdit at valid
  simp only at valid
  split at valid
  · cases valid
  split at valid
  · cases valid
  split at valid
  · cases valid
  split at valid
  · cases valid
  cases valid
  rfl

/-- A request that names no field leaves the row as it is. -/
theorem KeyRow.patched_of_empty {request : UpdateKeyRequest} (key : KeyRow)
    (empty : request.namesAField = false) : key.patched request = key := by
  obtain ⟨priority, limit, window, expiry⟩ := request
  cases priority <;> cases limit <;> cases window <;> cases expiry <;>
    simp_all [UpdateKeyRequest.namesAField, KeyRow.patched]

end ZeroRouter
