import ZeroRouter.Api.Inference
import ZeroRouter.Api.Stream
import Mathlib.Logic.Function.Basic

/-!
# Every request over one health registry

`src/router/src/api.rs` and `health.rs` together: the process holds one
`ProviderHealth`, and every request reads it when its route is ordered and again on
arriving at each candidate, and writes it with every row its walk records.

A request moves from one of these points to the next, and the requests of a process
move in any order.  What a request finds outside the process is fixed with it
(`Serving`); the rows of the other walks reach it through the registry alone.
-/

namespace ZeroRouter

/-! ## Walks that meet no rows but through the registry -/

def Surroundings.alone (env : Surroundings) : Surroundings where
  started := env.started
  arrival position := { env.arrival position with observed := [] }
  attempt position index := { env.attempt position index with observed := [] }
  persists := env.persists

def StreamSurroundings.alone (env : StreamSurroundings) : StreamSurroundings where
  started := env.started
  arrival position := { env.arrival position with observed := [] }
  attempt position := { env.attempt position with observed := [] }
  persists := env.persists

/-- A walk as it finds the registry. -/
def WalkState.on (state : WalkState) (health : ProviderHealth) : WalkState :=
  { state with attempts := { state.attempts with health } }

def RungState.on (rung : RungState) (health : ProviderHealth) : RungState :=
  { rung with walk := rung.walk.on health }

def StreamState.on (state : StreamState) (health : ProviderHealth) : StreamState :=
  { state with attempts := { state.attempts with health } }

def Walked.on (walked : Walked) (health : ProviderHealth) : Walked := { walked with health }

/-- The registry's key for a candidate. -/
def TierCandidate.rung (candidate : TierCandidate) : String × String :=
  (candidate.provider, candidate.model)

/-! ## A request -/

/-- A request and all it finds outside the process: the deployment as its pipeline reads
    it, and what either walk would find at each of its positions. -/
structure Serving where
  userId : Uuid
  services : InferenceServices
  key : KeyPolicy
  request : InferenceRequest
  messages : List ChatMessage
  stream : Bool
  buffered : Surroundings
  streamed : StreamSurroundings

/-- Where a request stands between two of its moves. -/
inductive Standing where
  | received
  | refused (error : InferenceError)
  | visiting (walk : WalkRequest) (position : Nat) (state : WalkState)
  | attempting (walk : WalkRequest) (position : Nat) (candidate : ProviderCandidate) (index : Nat)
      (rung : RungState)
  | arriving (walk : WalkRequest) (position : Nat) (state : StreamState)
  | dispatching (walk : WalkRequest) (position : Nat) (candidate : ProviderCandidate)
      (state : StreamState)
  | finished (walk : WalkRequest) (walked : Walked)

namespace Standing

def on (health : ProviderHealth) : Standing → Standing
  | received => received
  | refused error => refused error
  | visiting walk position state => visiting walk position (state.on health)
  | attempting walk position candidate index rung =>
      attempting walk position candidate index (rung.on health)
  | arriving walk position state => arriving walk position (state.on health)
  | dispatching walk position candidate state =>
      dispatching walk position candidate (state.on health)
  | finished walk walked => finished walk (walked.on health)

/-- The registry a request leaves: as it found it, where it holds none. -/
def registry (found : ProviderHealth) : Standing → ProviderHealth
  | received | refused _ => found
  | visiting _ _ state => state.attempts.health
  | attempting _ _ _ _ rung => rung.walk.attempts.health
  | arriving _ _ state | dispatching _ _ _ state => state.attempts.health
  | finished _ walked => walked.health

/-- The candidate the request is about to call. -/
def calling : Standing → Option ProviderCandidate
  | attempting _ _ candidate _ _ | dispatching _ _ candidate _ => some candidate
  | received | refused _ | visiting .. | arriving .. | finished .. => none

/-- The rungs of the route, in the order the walk takes them. -/
def order : Standing → List ProviderCandidate
  | received | refused _ => []
  | visiting walk _ _ | attempting walk _ _ _ _ | arriving walk _ _ | dispatching walk _ _ _
  | finished walk _ => walk.candidates

/-- The calls made upstream so far. -/
def dispatches : Standing → List Dispatch
  | received | refused _ => []
  | visiting _ _ state => state.dispatches
  | attempting _ _ _ _ rung => rung.walk.dispatches
  | arriving _ _ state | dispatching _ _ _ state => state.dispatches
  | finished _ walked => walked.dispatches

end Standing

/-! ## The moves of a request -/

section Moves

variable (walk : WalkRequest)

/-- The row a buffered walk passes a candidate with, if it passes it. -/
def skipsCandidate (env : Surroundings) (position : Nat) (candidate : ProviderCandidate)
    (state : WalkState) : Option String :=
  if policySkips state.byokFallbackArmed candidate then some "policy_skipped"
  else if state.attempts.health.shouldSkip (env.arrival position).now.instant candidate.definition &&
      (state.lastCandidate.isSome || position + 1 < walk.candidates.length) then
    some "health_skipped"
  else none

/-- On to a candidate of a buffered walk: past it, or into its retry budget. -/
def arriveBuffered (env : Surroundings) (position : Nat) (state : WalkState) : Standing :=
  match walk.candidates[position]? with
  | none => .finished walk (exhaustWalk walk env state (env.arrival position).now)
  | some candidate =>
      match skipsCandidate walk env position candidate state with
      | some outcome =>
          .visiting walk (position + 1)
            (state.skip candidate.definition outcome (env.arrival position).now)
      | none => .attempting walk position candidate 0 { walk := state, backoffMs := candidateBackoffMs }

/-- On from an attempt: to the next one, past the candidate, or out of the walk. -/
def leaveAttempt (env : Surroundings) (position : Nat) (candidate : ProviderCandidate)
    (index : Nat) : Except RungExit RungState → Standing
  | .ok rung =>
      if index < candidateRetries then .attempting walk position candidate (index + 1) rung
      else .visiting walk (position + 1) rung.walk
  | .error (.nextCandidate state) => .visiting walk (position + 1) state
  | .error (.leaveWalk state now) => .finished walk (exhaustWalk walk env state now)
  | .error (.done walked) => .finished walk walked

/-- One attempt of a buffered walk. -/
def attemptBuffered (env : Surroundings) (position : Nat) (candidate : ProviderCandidate)
    (index : Nat) (rung : RungState) : Standing :=
  leaveAttempt walk env position candidate index
    (attemptCandidate walk env position candidate index () rung)

/-- On to a candidate of a streaming walk. -/
def arriveStreaming (env : StreamSurroundings) (position : Nat) (state : StreamState) : Standing :=
  match walk.candidates[position]? with
  | none => .finished walk (exhaustStream walk env state (env.arrival position).now)
  | some candidate =>
      let arrival := env.arrival position
      if policySkips state.byokFallbackArmed candidate then
        .arriving walk (position + 1)
          (state.skip candidate.definition "policy_skipped" arrival.now)
      else if arrival.closed then
        .finished walk (settleDisconnected walk env state arrival.now)
      else if state.attempts.health.shouldSkip arrival.now.instant candidate.definition &&
          (state.lastCandidate.isSome || position + 1 < walk.candidates.length) then
        .arriving walk (position + 1)
          (state.skip candidate.definition "health_skipped" arrival.now)
      else .dispatching walk position candidate state

/-- A streaming walk's call of a candidate it has not passed. -/
def callStreaming (env : StreamSurroundings) (position : Nat) (candidate : ProviderCandidate)
    (state : StreamState) : Except Walked StreamState :=
  let attempt := env.attempt position
  match remainingUpstreamTime env.started attempt.start with
  | none =>
      .error
        (settleStreamInterruption walk env state state.lastCandidate none .fromRequest
          attempt.closed .timeout attempt.start)
  | some _ =>
      let attemptNo := state.attempts.rows.length + 1
      if candidate.supportsStreaming then
        streamCandidate walk env { state with lastCandidate := some candidate.definition } position
          candidate attemptNo attempt
      else bufferCandidate walk env state position candidate attemptNo attempt

/-- On from a dispatch: past the candidate, or out of the walk. -/
def leaveDispatch (position : Nat) : Except Walked StreamState → Standing
  | .ok state => .arriving walk (position + 1) state
  | .error walked => .finished walk walked

/-- One dispatch of a streaming walk. -/
def dispatchStreaming (env : StreamSurroundings) (position : Nat) (candidate : ProviderCandidate)
    (state : StreamState) : Standing :=
  leaveDispatch walk position (callStreaming walk env position candidate state)

end Moves

namespace Serving

variable (serving : Serving) (catalog : TierCatalog)

/-- The walk an admitted request is given. -/
def walk (admitted : AdmittedRequest) : WalkRequest where
  session := admitted.session
  resolved := admitted.route.resolved
  messages := serving.messages
  candidates := admitted.candidates

/-- `chat_completions` up to the walk, over the registry as it is. -/
def chatCompletions (health : ProviderHealth) : Standing :=
  match (inference { serving.services with health } serving.key serving.request catalog).2 with
  | .error error => .refused error
  | .ok admitted =>
      if serving.stream then
        .arriving (serving.walk admitted) 0 (StreamState.start (serving.walk admitted) health)
      else .visiting (serving.walk admitted) 0 (WalkState.start (serving.walk admitted) health)

/-- One move of the request, over the registry as it is. -/
def move (health : ProviderHealth) : Standing → Standing
  | .received => serving.chatCompletions catalog health
  | .refused error => .refused error
  | .visiting walk position state =>
      arriveBuffered walk serving.buffered.alone position (state.on health)
  | .attempting walk position candidate index rung =>
      attemptBuffered walk serving.buffered.alone position candidate index (rung.on health)
  | .arriving walk position state =>
      arriveStreaming walk serving.streamed.alone position (state.on health)
  | .dispatching walk position candidate state =>
      dispatchStreaming walk serving.streamed.alone position candidate (state.on health)
  | .finished walk walked => .finished walk (walked.on health)

/-- The rungs a request's route may name. -/
def rungs : List TierCandidate :=
  match routeRequest catalog serving.services.unifiedIdsEnabled serving.key serving.request with
  | .error _ => []
  | .ok (route, _) => route.resolved.candidates

end Serving

/-! ## The process -/

/-- The registry, and where every request stands; the registry is kept once, beside
    the requests. -/
structure Process where
  health : ProviderHealth
  standing : Nat → Standing

namespace Process

/-- A process that has served nothing. -/
def start : Process where
  health := .empty
  standing _ := .received

section Runs

variable (catalog : TierCatalog) (requests : Nat → Serving)

/-- One request moves. -/
def move (process : Process) (who : Nat) : Process :=
  let after := (requests who).move catalog process.health (process.standing who)
  { health := after.registry process.health
    standing := Function.update process.standing who (after.on .empty) }

/-- The requests move in an order. -/
def run (process : Process) (order : List Nat) : Process :=
  order.foldl (move catalog requests) process

/-- What the request's next move records of the rungs it tried. -/
def Records (process : Process) (who : Nat) (rows : List (Instant × AttemptRecord)) : Prop :=
  (process.move catalog requests who).health = process.health.observeAll rows

/-- The request is one of `userId`'s and its next move calls their own credential. -/
def OnByok (userId : Uuid) (process : Process) (who : Nat) : Prop :=
  (requests who).userId = userId ∧ (process.standing who).calling.any (·.byok) = true

instance (userId : Uuid) (process : Process) (who : Nat) :
    Decidable (OnByok requests userId process who) :=
  inferInstanceAs (Decidable (_ ∧ _))

/-- A move leaves every rung another customer's route may name as it found it. -/
def Untouched (userId : Uuid) (before after : Process) : Prop :=
  ∀ other, (requests other).userId ≠ userId → ∀ candidate ∈ (requests other).rungs catalog,
    after.health candidate.rung = before.health candidate.rung

end Runs

end Process

end ZeroRouter
