import ZeroRouter.Wire.Upstream
import ZeroRouter.Lib.Run

/-!
# Google access tokens

`src/router/src/gcp_auth.rs`: minting an access token from a service-account key, and the cache
that hands it out.  The cache's lock is held across the mint; callers read their clocks before they
wait for it.

The signature, the transport and the parser of the endpoint's answer are libraries: what they come
to is a parameter or part of a step.
-/

namespace ZeroRouter.GcpAuth

/-! ## Time -/

/-- `SystemTime`, in nanoseconds from the epoch.  Its seconds are a 64-bit integer. -/
structure SystemTime where
  nanos : Int
  low : -(2 ^ 63 * 10 ^ 9) ≤ nanos
  high : nanos < 2 ^ 63 * 10 ^ 9
  deriving DecidableEq, Repr

namespace SystemTime

def ofNanos (nanos : Int) : Option SystemTime :=
  if h : -(2 ^ 63 * 10 ^ 9) ≤ nanos ∧ nanos < 2 ^ 63 * 10 ^ 9 then some ⟨nanos, h.1, h.2⟩ else none

/-- `checked_add` of whole seconds. -/
def checkedAdd (time : SystemTime) (seconds : Nat) : Option SystemTime :=
  ofNanos (time.nanos + seconds * 10 ^ 9)

/-- `checked_sub` of whole seconds. -/
def checkedSub (time : SystemTime) (seconds : Nat) : Option SystemTime :=
  ofNanos (time.nanos - seconds * 10 ^ 9)

theorem ofNanos_eq_some {nanos : Int} {time : SystemTime} (h : ofNanos nanos = some time) :
    time.nanos = nanos := by
  unfold ofNanos at h
  split at h
  · cases h
    rfl
  · cases h

end SystemTime

/-- `REFRESH_SKEW`, in seconds. -/
def refreshSkew : Nat := 300

/-- `ASSERTION_LIFETIME`, in seconds. -/
def assertionLifetime : Nat := 3600

/-! ## Minting -/

inductive TokenError where
  | credential (detail : String)
  | transport (detail : String)
  | refused (status : Nat) (body : String)
  deriving DecidableEq, Repr

/-- How a call ends without a token. -/
inductive Stop where
  | failed (error : TokenError)
  | panicked
  deriving DecidableEq, Repr

structure ServiceAccountKey where
  clientEmail : String
  keyId : Option String
  tokenUri : String
  deriving DecidableEq, Repr

/-- `TokenResponse`. -/
structure TokenResponse where
  accessToken : String
  expiresIn : Option UInt64
  deriving DecidableEq, Repr

/-- The lifetime stated, none being none. -/
def TokenResponse.lifetime (response : TokenResponse) : Nat :=
  response.expiresIn.elim 0 UInt64.toNat

structure AccessToken where
  token : String
  expiresAt : SystemTime
  deriving DecidableEq, Repr

/-- `usable_at`. -/
def AccessToken.usableAt (token : AccessToken) (now : SystemTime) : Bool :=
  match token.expiresAt.checkedSub refreshSkew with
  | some deadline => now.nanos < deadline.nanos
  | none => false

/-- What the token endpoint comes to. -/
inductive TokenAnswer where
  | unreachable (detail : String)
  | unread (detail : String)
  | answered (status : Nat) (body : String)
  deriving DecidableEq, Repr

/-- The libraries under the mint: the encoded and signed JWT between two times, and the
    deserializer. -/
structure Libraries where
  sign : ServiceAccountKey → Nat → Nat → Except String String
  fromStr : String → Except String TokenResponse

section Mint

variable (libraries : Libraries) (key : ServiceAccountKey)

/-- `assertion`. -/
def assertion (issuedAt : SystemTime) : Except Stop String :=
  if issuedAt.nanos < 0 then .error (.failed (.credential "system clock is before 1970"))
  else
    let issued := (issuedAt.nanos / 10 ^ 9).toNat
    -- An addition of 64-bit seconds.
    if u64Max < issued + assertionLifetime then .error .panicked
    else
      match libraries.sign key issued (issued + assertionLifetime) with
      | .error detail => .error (.failed (.credential detail))
      | .ok jwt => .ok jwt

/-- What a minted token is read from, or why there is none. -/
def readAnswer : TokenAnswer → Except TokenError TokenResponse
  | .unreachable detail | .unread detail => .error (.transport detail)
  | .answered status body =>
      if ¬ (200 ≤ status ∧ status < 300) then
        .error (.refused status (String.ofList (body.toList.take 500)))
      else
        match libraries.fromStr body with
        | .error error =>
            .error (.transport s!"token endpoint returned unreadable JSON: {error}")
        | .ok parsed =>
            if trim parsed.accessToken = "" then
              .error (.transport "token endpoint returned an empty access_token")
            else .ok parsed

/-- `mint`. -/
def mint (now : SystemTime) (answer : TokenAnswer) : Except Stop AccessToken :=
  match assertion libraries key now with
  | .error stop => .error stop
  | .ok _ =>
      match readAnswer libraries answer with
      | .error error => .error (.failed error)
      | .ok parsed =>
          -- `SystemTime + Duration` panics where `checked_add` has no answer.
          match now.checkedAdd parsed.lifetime with
          | none => .error .panicked
          | some expiresAt => .ok { token := parsed.accessToken, expiresAt }

end Mint

/-! ## The cache -/

/-- A call of `token`, with the clock its caller read. -/
structure Call where
  id : Nat
  now : SystemTime
  deriving DecidableEq, Repr

/-- How a call came to an end. -/
inductive Entry where
  | served (call : Call) (token : AccessToken)
  | minted (call : Call) (began : SystemTime) (answer : TokenAnswer)
      (outcome : Except Stop AccessToken)

structure TokenCache where
  clock : SystemTime
  cached : Option AccessToken
  waiting : List Call
  /-- The call that holds the lock, and the instant its mint began. -/
  minting : Option (Call × SystemTime)
  log : List Entry

def TokenCache.new (clock : SystemTime) : TokenCache where
  clock := clock
  cached := none
  waiting := []
  minting := none
  log := []

inductive Action where
  | tick (clock : SystemTime)
  | call (call : Call)
  | lock (call : Call)
  | answer (answer : TokenAnswer)
  | abandon (call : Call)

section Cache

variable (libraries : Libraries) (key : ServiceAccountKey)

/-- One step of `token`, for whichever call takes it.  The guard of the lock is dropped when the
    call ends, however it ends. -/
def step (cache : TokenCache) : Action → Option TokenCache
  | .tick clock => if cache.clock.nanos ≤ clock.nanos then some { cache with clock } else none
  | .call call => some { cache with waiting := cache.waiting ++ [call] }
  | .lock call =>
      if call ∈ cache.waiting ∧ cache.minting = none then
        let waiting := cache.waiting.erase call
        match cache.cached.filter (·.usableAt call.now) with
        | some token => some { cache with waiting, log := cache.log ++ [.served call token] }
        | none => some { cache with waiting, minting := some (call, cache.clock) }
      else none
  | .answer answer =>
      match cache.minting with
      | none => none
      | some (call, began) =>
          let outcome := mint libraries key call.now answer
          let log := cache.log ++ [.minted call began answer outcome]
          match outcome with
          | .ok minted =>
              if minted.usableAt call.now then
                some { cache with cached := some minted, minting := none, log }
              else some { cache with minting := none, log }
          | .error _ => some { cache with minting := none, log }
  | .abandon call =>
      if cache.minting.map (·.1) = some call then some { cache with minting := none }
      else if call ∈ cache.waiting then
        some { cache with waiting := cache.waiting.erase call }
      else none

end Cache

end ZeroRouter.GcpAuth
