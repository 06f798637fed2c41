import ZeroRouter.Db.Record
import Mathlib.Data.List.Infix

/-!
# Failure classification, backoff and prompt repair

`src/router/src/retry.rs`: what one upstream failure means for the walk.  The
classifiers are heuristics over the failure's text; `UpstreamError` holds that
text, the HTTP status when the transport reported one, and the two values other
parsers read off the text (`parse_retry_after_ms`, `parameter_rejection`).
-/

namespace ZeroRouter

/-- `BACKOFF_CAP_MS`, `RETRY_AFTER_CAP_MS`. -/
def backoffCapMs : Nat := 10000
def retryAfterCapMs : Nat := 30000

structure UpstreamError where
  status : Option Nat
  text : String
  retryAfterMs : Option Nat
  parameterRejection : Option String
  deriving DecidableEq, Repr

/-- `str::contains`. -/
def contains (text hint : String) : Bool := decide (hint.toList <:+: text.toList)

/-- `str::to_lowercase`, as far as a search for ASCII text can tell: two characters
    outside ASCII have an ASCII letter in their lower case. -/
def toLowercase (text : String) : String :=
  String.ofList (text.toList.flatMap fun c =>
    if c.toNat = 0x212A then ['k']
    else if c.toNat = 0x130 then ['i', Char.ofNat 0x307]
    else [c.toLower])

/-- The digit runs of a text that parse as a `u16`. -/
def digitWords (text : String) : List Nat :=
  (runs none text.toList).filter (· ≤ 65535)
where
  runs : Option Nat → List Char → List Nat
    | run, [] => run.toList
    | run, c :: rest =>
        if c.isDigit then runs (some (run.getD 0 * 10 + (c.toNat - 48))) rest
        else run.toList ++ runs none rest

/-- `FailureClass`. -/
inductive FailureClass where
  | retryable
  | rateLimited
  | rateLimitedNonRetryable
  | nonRetryable
  | contextWindow (rateLimited : Bool)
  | retentionAttestation
  deriving DecidableEq, Repr

namespace FailureClass

/-- The candidate is abandoned at once. -/
def isNonRetryable : FailureClass → Bool
  | nonRetryable | rateLimitedNonRetryable | retentionAttestation => true
  | _ => false

/-- The walk moves on rather than wait out a 429. -/
def isRateLimited : FailureClass → Bool
  | rateLimited | rateLimitedNonRetryable => true
  | _ => false

/-- The failure may be retried on the house credential, for a customer who opted in. -/
def permitsByokFallback : FailureClass → Bool
  | rateLimitedNonRetryable => false
  | _ => true

/-- The `request_attempts.outcome` label. -/
def outcome : FailureClass → String
  | rateLimited | rateLimitedNonRetryable | contextWindow true => "rate_limited"
  | retryable | nonRetryable | contextWindow false | retentionAttestation => "upstream_error"

end FailureClass

/-- `wire/mod.rs` `RETENTION_ATTESTATION_MARKER`. -/
def retentionAttestationMarker : String := "did not attest zero data retention"

def UpstreamError.isRetentionAttestationFailure (err : UpstreamError) : Bool :=
  contains err.text retentionAttestationMarker

/-- `is_rate_limited`. -/
def UpstreamError.isRateLimited (err : UpstreamError) : Bool :=
  match err.status with
  | some status => status = 429
  | none =>
      contains err.text "429" &&
        (contains err.text "Too Many" || contains err.text "rate" || contains err.text "limit")

/-- `is_non_retryable_rate_limit`: a 429 that says the account cannot pay. -/
def UpstreamError.isNonRetryableRateLimit (err : UpstreamError) : Bool :=
  err.isRateLimited &&
    (let lower := toLowercase err.text
     ["plan does not include", "doesn't include", "not include", "insufficient balance",
        "insufficient_balance", "insufficient quota", "insufficient_quota", "quota exhausted",
        "out of credits", "no available package", "package not active", "purchase package",
        "model not available for your plan"].any (contains lower) ||
      (digitWords lower).any fun code => code = 1113 ∨ code = 1311)

/-- `is_context_window_exceeded`. -/
def UpstreamError.isContextWindowExceeded (err : UpstreamError) : Bool :=
  ["exceeds the context window", "exceeds the available context size",
    "context window of this model", "maximum context length", "context length exceeded",
    "too many tokens", "token limit exceeded", "prompt is too long", "input is too long",
    "prompt exceeds max length"].any (contains (toLowercase err.text))

/-- `is_tool_schema_error`. -/
def UpstreamError.isToolSchemaError (err : UpstreamError) : Bool :=
  ["tool call validation failed", "was not in request", "not found in tool list",
    "invalid_tool_call"].any (contains (toLowercase err.text))

/-- A client error other than a timeout or a rate limit. -/
def isTerminalStatus (code : Nat) : Bool := 400 ≤ code && code < 500 && code ≠ 429 && code ≠ 408

/-- `is_non_retryable`. -/
def UpstreamError.isNonRetryable (err : UpstreamError) : Bool :=
  if err.isContextWindowExceeded || err.isToolSchemaError then false
  else
    match err.status with
    | some status => isTerminalStatus status
    | none =>
        match (digitWords err.text).find? fun code => 400 ≤ code ∧ code < 500 with
        | some code => isTerminalStatus code
        | none =>
            let lower := toLowercase err.text
            ["invalid api key", "incorrect api key", "missing api key", "api key not set",
                "authentication failed", "auth failed", "unauthorized", "forbidden",
                "permission denied", "access denied", "invalid token"].any (contains lower) ||
              (contains lower "model" &&
                (contains lower "not found" || contains lower "unknown" ||
                  contains lower "unsupported" || contains lower "does not exist" ||
                  contains lower "invalid"))

/-- `classify`.  The walk's one truncation already being spent turns a second
    context-window failure over to the general classifier. -/
def classify (err : UpstreamError) (contextTruncated : Bool) : FailureClass :=
  if err.isRetentionAttestationFailure then .retentionAttestation
  else if !contextTruncated && err.isContextWindowExceeded then .contextWindow err.isRateLimited
  else
    match err.isNonRetryable || err.isNonRetryableRateLimit, err.isRateLimited with
    | true, true => .rateLimitedNonRetryable
    | true, false => .nonRetryable
    | false, true => .rateLimited
    | false, false => .retryable

/-- `compute_backoff`. -/
def computeBackoff (baseMs : Nat) (err : UpstreamError) : Nat :=
  match err.retryAfterMs with
  | some retryAfter => max (min retryAfter retryAfterCapMs) baseMs
  | none => baseMs

/-- `next_backoff`. -/
def nextBackoff (baseMs : Nat) : Nat := min (baseMs * 2) backoffCapMs

/-! ## Prompt repair -/

/-- `provider.rs` `ChatMessage`, as the repair reads it. -/
structure ChatMessage where
  role : String
  content : String
  deriving DecidableEq, Repr

/-- Drop the first `count` messages that are not the system's. -/
def dropNonSystem : Nat → List ChatMessage → List ChatMessage
  | 0, messages => messages
  | _ + 1, [] => []
  | count + 1, message :: rest =>
      if message.role = "system" then message :: dropNonSystem (count + 1) rest
      else dropNonSystem count rest

/-- `truncate_for_context`: the oldest half of the non-system history goes.  The
    count returned is zero when the prompt cannot be reduced. -/
def truncateForContext (messages : List ChatMessage) : Nat × List ChatMessage :=
  let nonSystem := messages.countP (·.role ≠ "system")
  if nonSystem ≤ 1 then (0, messages)
  else (nonSystem / 2, dropNonSystem (nonSystem / 2) messages)

/-! ## Facts about the classes -/

/-- Once the truncation is spent no failure asks for another. -/
theorem classify_truncated (err : UpstreamError) (b : Bool) :
    classify err true ≠ .contextWindow b := by
  unfold classify
  split
  · intro h; cases h
  · simp only [Bool.not_true, Bool.false_and, Bool.false_eq_true, if_false]
    split <;> intro h <;> cases h

end ZeroRouter
