import ZeroRouter.Db.Ledger
import ZeroRouter.Lib.Run

/-!
# Portal login

`src/router/src/oidc.rs` and the tables it resolves an identity against: the callback from
its login state to its session, as the statements it runs, any number of callbacks at once,
beside the operator's `mint-key` and whatever else moves balances.

An `UPDATE` or `INSERT` that writes keeps its row and its index entries locked until the
transaction ends, and a statement that meets them waits for that, so such a statement and
its commit are one step.  The library that fetches the provider's metadata, exchanges the
code and verifies the token is not modelled: what it answers is part of the step.
-/

namespace ZeroRouter.Oidc

open Relational

/-! ## Answers -/

/-- `OidcError`, as far as a callback on a configured deployment answers with it. -/
inductive OidcError where
  | discoveryFailed
  | misconfigured
  | stateInvalid
  | codeMissing
  | codeRejected
  | exchangeFailed
  | idTokenInvalid
  | emailRequired
  | emailUnverified
  | emailConflict
  | databaseUnavailable
  deriving DecidableEq, Repr

/-- Why the library has no verified token to show. -/
inductive ExchangeFailure where
  | discoveryFailed
  | misconfigured
  | codeRejected
  | exchangeFailed
  | idTokenInvalid
  deriving DecidableEq, Repr

def ExchangeFailure.error : ExchangeFailure → OidcError
  | .discoveryFailed => .discoveryFailed
  | .misconfigured => .misconfigured
  | .codeRejected => .codeRejected
  | .exchangeFailed => .exchangeFailed
  | .idTokenInvalid => .idTokenInvalid

/-! ## Cookies -/

/-- `OIDC_STATE_COOKIE`. -/
def oidcStateCookie : String := "zr_oidc_state"

/-- `OIDC_RESTART_COOKIE`. -/
def oidcRestartCookie : String := "zr_oidc_restart"

/-- `str::split`. -/
def splitAtEach (separator : Char) : List Char → List (List Char)
  | [] => [[]]
  | c :: rest =>
      if c = separator then [] :: splitAtEach separator rest
      else
        match splitAtEach separator rest with
        | [] => [[c]]
        | first :: others => (c :: first) :: others

/-- `splitn(2, '=')`: a name, and what follows the first `=` if there is one. -/
def splitPair (pair : List Char) : String × Option String :=
  (String.ofList (pair.takeWhile (· ≠ '=')),
    (pair.dropWhile (· ≠ '=')).tail?.map String.ofList)

/-- One pair of a `Cookie` header: an answer, or nothing and the next pair is looked at. -/
def pairValue (name : String) (pair : List Char) : Option (Option String) :=
  match splitPair (trim (String.ofList pair)).toList with
  | (key, value) =>
      if trim key = name then
        match value with
        | none => some none
        | some value => if trim value = "" then none else some (some (trim value))
      else none

/-- One header; `none` is one whose bytes are no text, which ends the search. -/
def headerValue (name : String) : Option String → Option (Option String)
  | none => some none
  | some raw => (splitAtEach ';' raw.toList).findSome? (pairValue name)

/-- `oidc_cookie_value`. -/
def oidcCookieValue (headers : List (Option String)) (name : String) : Option String :=
  (headers.findSome? (headerValue name)).join

/-! ## Requests and claims -/

structure CallbackParams where
  state : Option String
  code : Option String
  error : Option String
  deriving DecidableEq, Repr

structure CallbackRequest where
  params : CallbackParams
  cookies : List (Option String)
  deriving DecidableEq, Repr

/-- The `state` parameter, trimmed, unless nothing is left of it. -/
def CallbackParams.loginState (params : CallbackParams) : Option String :=
  (params.state.map trim).filter (· ≠ "")

/-- The code, unless it is blank. -/
def CallbackParams.presentCode (params : CallbackParams) : Option String :=
  params.code.filter fun code => trim code ≠ ""

/-- `restart_sign_in`: one bounce, and the error on the second failure in a row. -/
def CallbackRequest.restartSignIn (request : CallbackRequest) : Option OidcError :=
  if (oidcCookieValue request.cookies oidcRestartCookie).isSome then some .stateInvalid else none

structure Identity where
  issuer : String
  subject : String
  deriving DecidableEq, Repr

/-- The claims of a token the library has verified. -/
structure Claims where
  identity : Identity
  email : Option String
  emailVerified : Option Bool
  deriving DecidableEq, Repr

/-- What `upsert_user` is called with. -/
structure Verified where
  identity : Identity
  email : String
  deriving DecidableEq, Repr

section Email

-- `str::to_lowercase`.
variable (toLowercase : String → String)

/-- `normalize_email`. -/
def normalizeEmail (raw : String) : String := toLowercase (trim raw)

/-- What the callback asks of the claims before it resolves them to a user. -/
def Claims.verify (claims : Claims) : Except OidcError Verified :=
  match claims.email with
  | none => .error .emailRequired
  | some raw =>
      if normalizeEmail toLowercase raw = "" then .error .emailRequired
      else if claims.emailVerified ≠ some true then .error .emailUnverified
      else .ok ⟨claims.identity, normalizeEmail toLowercase raw⟩

end Email

/-! ## Tables -/

/-- The identity columns of `users`; the balance is in `Db.users`. -/
structure Account where
  id : Uuid
  email : String
  oidcIssuer : Option String
  oidcSubject : Option String
  deriving DecidableEq, Repr

@[mk_iff]
structure AccountCheck (account : Account) : Prop where
  emailIsNonempty : nonBlank account.email = true
  oidcIdentityIsComplete : account.oidcIssuer.isNone = account.oidcSubject.isNone
  oidcIssuerIsNonempty : ∀ issuer ∈ account.oidcIssuer, nonBlank issuer = true
  oidcSubjectIsNonempty : ∀ subject ∈ account.oidcSubject, nonBlank subject = true

instance (account : Account) : Decidable (AccountCheck account) :=
  decidable_of_iff _ (accountCheck_iff account).symm

/-- `users` (0001): its key, its email, and its identity where it has one. -/
def accountsTable : Schema Account where
  check := AccountCheck
  clash a b := a.id = b.id ∨ a.email = b.email ∨
    (a.oidcIssuer ≠ none ∧ a.oidcSubject ≠ none ∧ a.oidcIssuer = b.oidcIssuer ∧
      a.oidcSubject = b.oidcSubject)
  clash_symm _ _ h := by
    rcases h with id | email | ⟨issuer, subject, issuers, subjects⟩
    · exact .inl id.symm
    · exact .inr (.inl email.symm)
    · exact .inr (.inr ⟨issuers ▸ issuer, subjects ▸ subject, issuers.symm, subjects.symm⟩)
  decCheck := inferInstance
  decClash := fun _ _ => inferInstanceAs (Decidable (_ ∨ _ ∨ _))

/-- The user is bound to the identity. -/
def Account.Bound (account : Account) (identity : Identity) : Prop :=
  account.oidcIssuer = some identity.issuer ∧ account.oidcSubject = some identity.subject

instance (account : Account) (identity : Identity) : Decidable (account.Bound identity) :=
  inferInstanceAs (Decidable (_ ∧ _))

/-- The user has no identity yet and goes by the email. -/
def Account.Claimable (account : Account) (email : String) : Prop :=
  account.email = email ∧ account.oidcIssuer = none

instance (account : Account) (email : String) : Decidable (account.Claimable email) :=
  inferInstanceAs (Decidable (_ ∧ _))

def Account.bindTo (identity : Identity) (account : Account) : Account :=
  { account with oidcIssuer := some identity.issuer, oidcSubject := some identity.subject }

/-- The row a login inserts. -/
def Verified.account (verified : Verified) (userId : Uuid) : Account where
  id := userId
  email := verified.email
  oidcIssuer := some verified.identity.issuer
  oidcSubject := some verified.identity.subject

/-- The row `mint-key` inserts. -/
def provisionedAccount (userId : Uuid) (email : String) : Account where
  id := userId
  email := email
  oidcIssuer := none
  oidcSubject := none

/-- A row of `oidc_states`, and which login stored it. -/
structure OidcState where
  login : Nat
  state : String
  nonce : String
  pkceVerifier : String
  expiresAt : Timestamp
  deriving DecidableEq, Repr

/-- `oidc_states` (0002). -/
def oidcStatesTable : Schema OidcState :=
  .keyed OidcState.state fun row => nonBlank row.state = true

/-- A row of `portal_sessions`, as far as it says whose session it is. -/
structure PortalSession where
  id : Uuid
  userId : Uuid
  tokenHash : String
  deriving DecidableEq, Repr

/-- `portal_sessions` (0002). -/
def portalSessionsTable : Schema PortalSession where
  check _ := True
  clash a b := a.id = b.id ∨ a.tokenHash = b.tokenHash
  clash_symm _ _ h := h.imp Eq.symm Eq.symm
  decCheck := inferInstance
  decClash := fun _ _ => inferInstanceAs (Decidable (_ ∨ _))

/-! ## Statements -/

/-- The `UPDATE` of `upsert_user`; `none` when it matches no row. -/
def claimAccount (accounts : Table accountsTable) (verified : Verified) :
    Except Violation (Option (Table accountsTable × Uuid)) :=
  match accounts.find (·.Claimable verified.email) with
  | none => .ok none
  | some account => do
      let accounts ← accounts.updateWhere (·.Claimable verified.email)
        (·.bindTo verified.identity)
      return some (accounts, account.id)

/-- `INSERT INTO users … ON CONFLICT (email) DO NOTHING`; `none` when the email is taken. -/
def insertAccount (accounts : Table accountsTable) (account : Account) :
    Except Violation (Option (Table accountsTable)) :=
  match accounts.find (fun other => other.email = account.email) with
  | some _ => .ok none
  | none => (accounts.insert account).map some

/-- The balance columns of a new row of `users`. -/
def newUser (userId : Uuid) : User where
  id := userId
  creditBalanceUsd := 0
  frozenAt := none
  frozenReason := none

/-- The note of the grant. -/
def signupNote : String := "signup credit"

/-- The ledger row of `grant_promo`. -/
def promoEntry (userId : Uuid) (amountUsd : Decimal) (note : String) (balanceAfter : Decimal) :
    CreditLedger where
  userId := userId
  entryType := .promo
  amountUsd := amountUsd
  balanceAfterUsd := balanceAfter
  stripeSessionId := none
  stripePaymentIntentId := none
  requestId := none
  note := some note

/-- `grant_promo`, with the row it writes. -/
def grantPromo (db : Db) (userId : Uuid) (amountUsd : Decimal) (note : String) :
    Except SqlError (Db × Option CreditLedger) :=
  if amountUsd = 0 then .ok (db, none)
  else if amountUsd < 0 then .error (.protocol "promo credit amount cannot be negative")
  else do
    let granted ← db.moveBalance userId false (.protocol "promo grant found no such user")
      amountUsd (promoEntry userId amountUsd note)
    return (granted, granted.creditLedger.rows.getLast?)

/-! ## Callbacks -/

/-- Where a callback is. -/
inductive Stage where
  /-- It has not been to the database yet. -/
  | arrived
  /-- It has spent its login state and is at the provider's. -/
  | exchanging (login : OidcState)
  /-- `upsert_user`, before its `SELECT`. -/
  | selecting (verified : Verified)
  /-- No user has the identity; before the `UPDATE`. -/
  | claiming (verified : Verified)
  /-- No user was there to claim; before the `INSERT`. -/
  | inserting (verified : Verified)
  /-- `is_new`; before the signup credit. -/
  | welcoming (userId : Uuid)
  /-- Before `create_session`. -/
  | signingIn (userId : Uuid)
  | signedIn (session : PortalSession)
  /-- Sent back to the sign-in page. -/
  | restarted
  | refused (error : OidcError)
  /-- The process or the connection of the browser is gone. -/
  | lost
  deriving DecidableEq, Repr

/-- A callback, with what it has brought about: the login state it spent, the claims it was
    shown, the user it inserted, the ledger row of its grant and the session it stored. -/
structure Callback where
  request : CallbackRequest
  stage : Stage
  login : Option OidcState
  claims : Option Claims
  inserted : Option Uuid
  granted : Option CreditLedger
  session : Option PortalSession
  deriving DecidableEq, Repr

def Callback.arrival (request : CallbackRequest) : Callback where
  request := request
  stage := .arrived
  login := none
  claims := none
  inserted := none
  granted := none
  session := none

def Callback.at (callback : Callback) (stage : Stage) : Callback := { callback with stage }

/-- Done without a session. -/
def Callback.refuse (callback : Callback) (error : OidcError) : Callback :=
  callback.at (.refused error)

/-- `restart_sign_in` answers. -/
def Callback.restart (callback : Callback) : Callback :=
  match callback.request.restartSignIn with
  | none => callback.at .restarted
  | some error => callback.refuse error

/-- A statement that went through, unless its client does not hear of it. -/
def Callback.proceed (callback : Callback) (fate : Fate) (stage : Stage) : Callback :=
  match fate with
  | .commit => callback.at stage
  | .rollback | .commitUnseen => callback.refuse .databaseUnavailable

/-! ## The system -/

structure World where
  accounts : Table accountsTable
  db : Db
  states : Table oidcStatesTable
  sessions : Table portalSessionsTable
  callbacks : List Callback
  /-- How many logins have stored a state. -/
  logins : Nat

inductive Action where
  /-- `login` stores its state. -/
  | login (state nonce pkceVerifier : String) (now : Timestamp)
  /-- Any login's cleanup of expired states. -/
  | sweepStates (now : Timestamp)
  | arrive (request : CallbackRequest)
  | consume (n : Nat) (now : Timestamp) (fate : Fate)
  | exchange (n : Nat) (answer : Except ExchangeFailure Claims)
  | select (n : Nat) (fate : Fate)
  | claim (n : Nat) (fate : Fate)
  | insert (n : Nat) (userId : Uuid) (fate : Fate)
  | grant (n : Nat) (fate : Fate)
  | createSession (n : Nat) (sessionId : Uuid) (tokenHash : String) (fate : Fate)
  | lose (n : Nat)
  /-- A session is revoked or pruned. -/
  | endSession (sessionId : Uuid)
  /-- The operator's `mint-key`. -/
  | provision (userId : Uuid) (email : String)
  /-- Any other transaction that moves a balance. -/
  | move (userId : Uuid) (creditReversal : Bool) (delta : Decimal)
      (entry : Decimal → CreditLedger)

/-- `OIDC_STATE_TTL_SECS`. -/
def oidcStateTtl : Timestamp := 45 * 60 * 1000000

namespace World

variable (w : World)

/-- A callback goes on. -/
def put (n : Nat) (callback : Callback) : World :=
  { w with callbacks := w.callbacks.set n callback }

/-- `login`, from its `INSERT` on. -/
def login (state nonce pkceVerifier : String) (now : Timestamp) : World :=
  match w.states.insert
    { login := w.logins, state, nonce, pkceVerifier, expiresAt := now + oidcStateTtl } with
  | .ok states => { w with states, logins := w.logins + 1 }
  | .error _ => w

/-- What the callback does with the row its `DELETE` returned. -/
def spend (callback : Callback) (row : OidcState) (fate : Fate) : Callback :=
  let callback := { callback with login := some row }
  if callback.request.params.error.isSome then callback.proceed fate (.refused .codeMissing)
  else
    match callback.request.params.presentCode with
    | none => callback.proceed fate (.refused .codeMissing)
    | some _ => callback.proceed fate (.exchanging row)

/-- The callback up to the provider: the cookie must match the state, and the `DELETE …
    RETURNING` must find it. -/
def consume (n : Nat) (callback : Callback) (now : Timestamp) (fate : Fate) : World :=
  match callback.request.params.loginState with
  | none => w.put n callback.restart
  | some state =>
      if oidcCookieValue callback.request.cookies oidcStateCookie ≠ some state then
        w.put n callback.restart
      else if fate = .rollback then w.put n (callback.refuse .databaseUnavailable)
      else
        match w.states.find (fun row => row.state = state ∧ now < row.expiresAt) with
        | none => w.put n (callback.proceed fate callback.restart.stage)
        | some row =>
            { w with
                states := w.states.deleteWhere
                  fun row => row.state = state ∧ now < row.expiresAt }.put n
              (spend callback row fate)

/-- What the library answers, and the checks of the claims. -/
def exchange (toLowercase : String → String) (n : Nat) (callback : Callback)
    (answer : Except ExchangeFailure Claims) : World :=
  match answer with
  | .error failure => w.put n (callback.refuse failure.error)
  | .ok claims =>
      let callback := { callback with claims := some claims }
      match claims.verify toLowercase with
      | .error error => w.put n (callback.refuse error)
      | .ok verified => w.put n (callback.at (.selecting verified))

/-- The `SELECT` of `upsert_user`. -/
def select (n : Nat) (callback : Callback) (verified : Verified) (fate : Fate) : World :=
  match w.accounts.find (·.Bound verified.identity) with
  | some account => w.put n (callback.proceed fate (.signingIn account.id))
  | none =>
      if fate = .rollback then w.put n (callback.refuse .databaseUnavailable)
      else w.put n (callback.at (.claiming verified))

/-- Its `UPDATE`. -/
def claim (n : Nat) (callback : Callback) (verified : Verified) (fate : Fate) : World :=
  if fate = .rollback then w.put n (callback.refuse .databaseUnavailable)
  else
    match claimAccount w.accounts verified with
    | .error _ => w.put n (callback.refuse .databaseUnavailable)
    | .ok none => w.put n (callback.at (.inserting verified))
    | .ok (some (accounts, userId)) =>
        { w with accounts }.put n (callback.proceed fate (.signingIn userId))

/-- Its `INSERT`. -/
def insert (n : Nat) (callback : Callback) (verified : Verified) (userId : Uuid) (fate : Fate) :
    World :=
  if fate = .rollback then w.put n (callback.refuse .databaseUnavailable)
  else
    match insertAccount w.accounts (verified.account userId) with
    | .error _ => w.put n (callback.refuse .databaseUnavailable)
    | .ok none => w.put n (callback.refuse .emailConflict)
    | .ok (some accounts) =>
        match w.db.users.insert (newUser userId) with
        | .error _ => w.put n (callback.refuse .databaseUnavailable)
        | .ok users =>
            { w with accounts, db := { w.db with users } }.put n
              ({ callback with inserted := some userId }.proceed fate (.welcoming userId))

/-- The signup credit of a new user, whose failure is only logged. -/
def grant (signupCreditUsd : Decimal) (n : Nat) (callback : Callback) (userId : Uuid)
    (fate : Fate) : World :=
  if signupCreditUsd ≤ 0 ∨ fate = .rollback then w.put n (callback.at (.signingIn userId))
  else
    match grantPromo w.db userId signupCreditUsd signupNote with
    | .error _ => w.put n (callback.at (.signingIn userId))
    | .ok (db, row) =>
        { w with db }.put n ({ callback with granted := row }.at (.signingIn userId))

/-- `create_session`. -/
def createSession (n : Nat) (callback : Callback) (session : PortalSession) (fate : Fate) :
    World :=
  if fate = .rollback then w.put n (callback.refuse .databaseUnavailable)
  else
    match w.sessions.insert session with
    | .error _ => w.put n (callback.refuse .databaseUnavailable)
    | .ok sessions =>
        { w with sessions }.put n
          ({ callback with session := some session }.proceed fate (.signedIn session))

/-- The operator's `INSERT INTO users (id, email) … ON CONFLICT (email) DO NOTHING`. -/
def provision (userId : Uuid) (email : String) : World :=
  match insertAccount w.accounts (provisionedAccount userId email) with
  | .ok (some accounts) =>
      match w.db.users.insert (newUser userId) with
      | .ok users => { w with accounts, db := { w.db with users } }
      | .error _ => w
  | _ => w

end World

section Step

variable (toLowercase : String → String) (signupCreditUsd : Decimal)

def step (w : World) : Action → Option World
  | .login state nonce pkceVerifier now => some (w.login state nonce pkceVerifier now)
  | .sweepStates now =>
      some { w with states := w.states.deleteWhere fun row => row.expiresAt ≤ now }
  | .arrive request => some { w with callbacks := w.callbacks ++ [Callback.arrival request] }
  | .consume n now fate =>
      w.callbacks[n]?.bind fun callback =>
        match callback.stage with
        | .arrived => some (w.consume n callback now fate)
        | _ => none
  | .exchange n answer =>
      w.callbacks[n]?.bind fun callback =>
        match callback.stage with
        | .exchanging _ => some (w.exchange toLowercase n callback answer)
        | _ => none
  | .select n fate =>
      w.callbacks[n]?.bind fun callback =>
        match callback.stage with
        | .selecting verified => some (w.select n callback verified fate)
        | _ => none
  | .claim n fate =>
      w.callbacks[n]?.bind fun callback =>
        match callback.stage with
        | .claiming verified => some (w.claim n callback verified fate)
        | _ => none
  | .insert n userId fate =>
      w.callbacks[n]?.bind fun callback =>
        match callback.stage with
        | .inserting verified => some (w.insert n callback verified userId fate)
        | _ => none
  | .grant n fate =>
      w.callbacks[n]?.bind fun callback =>
        match callback.stage with
        | .welcoming userId => some (w.grant signupCreditUsd n callback userId fate)
        | _ => none
  | .createSession n sessionId tokenHash fate =>
      w.callbacks[n]?.bind fun callback =>
        match callback.stage with
        | .signingIn userId => some (w.createSession n callback ⟨sessionId, userId, tokenHash⟩ fate)
        | _ => none
  | .lose n => w.callbacks[n]?.map fun callback => w.put n (callback.at .lost)
  | .endSession sessionId =>
      some { w with sessions := w.sessions.deleteWhere fun session => session.id = sessionId }
  | .provision userId email => some (w.provision userId email)
  | .move userId creditReversal delta entry =>
      match w.db.moveBalance userId creditReversal .rowNotFound delta entry with
      | .ok db => some { w with db }
      | .error _ => some w

end Step

end ZeroRouter.Oidc
