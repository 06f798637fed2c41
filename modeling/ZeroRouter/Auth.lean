import ZeroRouter.Config.Catalog
import ZeroRouter.Db.Record
import ZeroRouter.Lib.Run

/-!
# Authenticating a key

`src/router/src/auth.rs`: `KeyAuthenticator::authenticate` over the `api_keys` columns it reads,
with the statements that create, edit and disable a key.  A call reads its clock once, before it
waits for the cache's lock; everything after that may take any time, and calls interleave.

The wall clock and the monotonic clock are one clock, an integer of nanoseconds.  The hash is a library's.
-/

namespace ZeroRouter.Auth

/-- `CACHE_TTL`. -/
def cacheTtl : Int := 30 * 10 ^ 9

def dummyHash : String := "0000000000000000000000000000000000000000000000000000000000000000"

def keyPrefix : String := "zcr_"
def keyHexLength : Nat := 32 * 2

/-! ## The token -/

/-- `as_bytes`. -/
def bytes (text : String) : List UInt8 := text.toByteArray.data.toList

/-- `u8::is_ascii_hexdigit`. -/
def isAsciiHexdigit (byte : UInt8) : Bool :=
  (48 ≤ byte && byte ≤ 57) || (65 ≤ byte && byte ≤ 70) || (97 ≤ byte && byte ≤ 102)

/-- `valid_key_shape`. -/
def validKeyShape (token : String) : Bool :=
  (bytes token).length = (bytes keyPrefix).length + keyHexLength &&
    (bytes keyPrefix).isPrefixOf (bytes token) &&
    ((bytes token).drop (bytes keyPrefix).length).all isAsciiHexdigit

/-- `constant_time_eq`. -/
def constantTimeEq (left right : String) : Bool :=
  let left := bytes left
  let right := bytes right
  let difference := (List.range (max left.length right.length)).foldl
    (fun difference index =>
      difference ||| (left[index]?.getD 0 ^^^ right[index]?.getD 0).toNat)
    (left.length ^^^ right.length)
  difference == 0

/-! ## The rows and the cache -/

/-- The columns of `api_keys` that `authenticate` reads. -/
structure KeyRecord where
  id : Uuid
  userId : Uuid
  keyHash : String
  disabled : Bool
  defaultPriority : Option String
  expiresAt : Option Int
  retentionPolicy : String
  deriving DecidableEq, Repr

structure AuthenticatedKey where
  id : Uuid
  userId : Uuid
  defaultPriority : Option Priority
  retentionPolicy : RetentionPolicy
  deriving DecidableEq, Repr

/-- `RetentionPolicy::from_keyword`. -/
def retentionFromKeyword (keyword : String) : Option RetentionPolicy :=
  if keyword = "zdr_only" then some .zdrOnly
  else if keyword = "allow_non_zdr" then some .allowNonZdr
  else none

/-- The identity a row stands for. -/
def KeyRecord.authenticated (row : KeyRecord) : AuthenticatedKey where
  id := row.id
  userId := row.userId
  defaultPriority := row.defaultPriority.bind Priority.fromKeyword
  retentionPolicy := (retentionFromKeyword row.retentionPolicy).getD .zdrOnly

structure CacheEntry where
  key : AuthenticatedKey
  expiresAt : Int
  deriving DecidableEq, Repr

/-- A disabled key's row stays. -/
def disableKey (rows : List KeyRecord) (userId keyId : Uuid) : List KeyRecord :=
  rows.map fun row =>
    if row.id = keyId ∧ row.userId = userId ∧ row.disabled = false then
      { row with disabled := true }
    else row

/-- An `UPDATE` of the other columns: the id and the hash are written once. -/
def editKey (rows : List KeyRecord) (edited : KeyRecord) : List KeyRecord :=
  rows.map fun row => if row.id = edited.id ∧ row.keyHash = edited.keyHash then edited else row

/-! ## A call -/

inductive AuthenticationError where
  | invalid
  | database (error : String)
  deriving DecidableEq, Repr

/-- Where a call is: what it does next, and what it has in hand. -/
inductive Stage where
  | lookup
  | query
  | filter (row : Option KeyRecord)
  | clamp (key : AuthenticatedKey) (expiresAt : Option Int)
  | write (key : AuthenticatedKey) (ttl : Int)
  deriving DecidableEq, Repr

/-- `begun` is the call's `now`. -/
structure Call where
  token : String
  begun : Int
  stage : Stage
  deriving DecidableEq, Repr

structure Answer where
  token : String
  begun : Int
  /-- When it was given. -/
  given : Int
  cached : Bool
  result : Except AuthenticationError AuthenticatedKey

structure World where
  clock : Int
  rows : List KeyRecord
  /-- Every moment of the run so far: an instant and the rows there were at it. -/
  past : List (Int × List KeyRecord)
  cache : String → Option CacheEntry
  calls : List Call
  answers : List Answer

/-- `KeyAuthenticator::new` over a database. -/
def World.new (clock : Int) (rows : List KeyRecord) : World where
  clock := clock
  rows := rows
  past := [(clock, rows)]
  cache := fun _ => none
  calls := []
  answers := []

namespace World

def now (world : World) (clock : Int) : World :=
  { world with clock, past := (clock, world.rows) :: world.past }

def store (world : World) (rows : List KeyRecord) : World :=
  { world with rows, past := (world.clock, rows) :: world.past }

/-- A call goes on to its next stage. -/
def goOn (world : World) (call : Call) (stage : Stage) : World :=
  { world with calls := { call with stage } :: world.calls.erase call }

/-- A call ends. -/
def answer (world : World) (call : Call) (cached : Bool)
    (result : Except AuthenticationError AuthenticatedKey) : World :=
  { world with
    calls := world.calls.erase call
    answers := ⟨call.token, call.begun, world.clock, cached, result⟩ :: world.answers }

end World

/-! ## Steps -/

inductive Action where
  | tick (clock : Int)
  | create (row : KeyRecord)
  | disable (userId keyId : Uuid)
  | edit (row : KeyRecord)
  | authenticate (token : String)
  | advance (call : Call)
  | queryFailed (call : Call) (error : String)
  | abandon (call : Call)

section Step

variable (hashApiKey : String → String)

/-- What a call finds in the cache. -/
def cachedKey (cache : String → Option CacheEntry) (call : Call) : Option CacheEntry :=
  if validKeyShape call.token then
    (cache (hashApiKey call.token)).filter (call.begun < ·.expiresAt)
  else none

/-- The row a call goes on with. -/
def admittedRow (clock : Int) (call : Call) (row : Option KeyRecord) : Option KeyRecord :=
  let storedHash := row.elim dummyHash (·.keyHash)
  let hashesMatch := constantTimeEq storedHash (hashApiKey call.token)
  row.filter fun row =>
    validKeyShape call.token && hashesMatch && !row.disabled &&
      !row.expiresAt.any fun deadline => deadline ≤ clock

/-- How long an answer may be cached. -/
def lifetime (clock : Int) : Option Int → Int
  | none => cacheTtl
  | some deadline => if deadline - clock < 0 then 0 else min (deadline - clock) cacheTtl

/-- `cache.retain` and `cache.insert`. -/
def written (cache : String → Option CacheEntry) (call : Call) (entry : CacheEntry) :
    String → Option CacheEntry :=
  Function.update (fun hash => (cache hash).filter (call.begun < ·.expiresAt))
    (hashApiKey call.token) (some entry)

/-- The next piece of `authenticate`. -/
def advance (world : World) (call : Call) : World :=
  match call.stage with
  | .lookup =>
      match cachedKey hashApiKey world.cache call with
      | some entry => world.answer call true (.ok entry.key)
      | none => world.goOn call .query
  | .query =>
      world.goOn call (.filter (world.rows.find? (·.keyHash = hashApiKey call.token)))
  | .filter row =>
      match admittedRow hashApiKey world.clock call row with
      | none => world.answer call false (.error .invalid)
      | some row => world.goOn call (.clamp row.authenticated row.expiresAt)
  | .clamp key expiresAt => world.goOn call (.write key (lifetime world.clock expiresAt))
  | .write key ttl =>
      { world with cache := written hashApiKey world.cache call ⟨key, call.begun + ttl⟩ }.answer
        call false (.ok key)

def step (world : World) : Action → Option World
  | .tick clock => if world.clock ≤ clock then some (world.now clock) else none
  -- The primary key and the unique hash.
  | .create row =>
      if world.rows.any fun other => other.id = row.id ∨ other.keyHash = row.keyHash then none
      else some (world.store (row :: world.rows))
  | .disable userId keyId => some (world.store (disableKey world.rows userId keyId))
  | .edit row => some (world.store (editKey world.rows row))
  | .authenticate token =>
      some { world with calls := ⟨token, world.clock, .lookup⟩ :: world.calls }
  | .advance call => if call ∈ world.calls then some (advance hashApiKey world call) else none
  | .queryFailed call error =>
      if call ∈ world.calls ∧ call.stage = .query then
        some (world.answer call false (.error (.database error)))
      else none
  | .abandon call =>
      if call ∈ world.calls then some { world with calls := world.calls.erase call } else none

end Step

end ZeroRouter.Auth
