import ZeroRouter.Api.Metering

/-!
# What a request reserves

`src/router/src/api.rs`: `byok_covered_providers` and `byok_credentials`, the two
reads of a customer's stored keys, and the reservation sized from the first.
`src/router/src/openai.rs`: `reservation_usage`, the byte bound on a request's
prompt.  A read that failed is `none`.
-/

namespace ZeroRouter

variable {request : ChatCompletionRequest} {resolved : ResolvedRoute} {outputBound : Nat}

/-! ## The byte bound -/

/-- A message's `content`: a string, `null`, or any other value, given by its
    serialization and the image URLs of its parts. -/
inductive MessageContent where
  | null
  | text (value : String)
  | parts (serialized : String) (imageUrls : List String)
  deriving DecidableEq, Repr

structure OpenAiToolCall where
  id : String
  name : String
  arguments : String
  deriving DecidableEq, Repr

structure OpenAiMessage where
  role : String
  content : MessageContent
  toolCalls : List OpenAiToolCall
  toolCallId : Option String
  name : Option String
  reasoningContent : Option String
  deriving DecidableEq, Repr

/-- A tool, `parameters` serialized as `content` is. -/
structure OpenAiTool where
  name : String
  description : String
  parameters : MessageContent
  deriving DecidableEq, Repr

structure ChatCompletionRequest where
  messages : List OpenAiMessage
  tools : List OpenAiTool
  deriving DecidableEq, Repr

def byteLen (value : String) : Nat := min value.utf8ByteSize u64Max

def valueByteLen : MessageContent → Nat
  | .null => 0
  | .text value => byteLen value
  | .parts serialized _ => byteLen serialized

/-- `image_urls`: what a user's turn may carry. -/
def imageUrls (messages : List OpenAiMessage) : List String :=
  (messages.filter (·.role = "user")).flatMap fun message =>
    match message.content with
    | .parts _ urls => urls
    | .null | .text _ => []

/-- `openai.rs` `MAX_IMAGE_PROMPT_TOKENS`. -/
def maxImagePromptTokens : Nat := 10549

/-- A run of `saturating_add`s. -/
def saturatingSum (start : Nat) (terms : List Nat) : Nat := terms.foldl u64SaturatingAdd start

/-- `reservation_usage`: a byte of text counted as a token, an image at its worst
    case, and the whole output bound. -/
def ChatCompletionRequest.reservationUsage (request : ChatCompletionRequest)
    (maxOutputTokens : Nat) : OpenAiUsage :=
  let bound := request.messages.foldl (fun bound message =>
    message.toolCalls.foldl (fun bound call =>
        saturatingSum bound [64, byteLen call.id, byteLen call.name, byteLen call.arguments])
      (saturatingSum bound
        [64, byteLen message.role, valueByteLen message.content,
          message.toolCallId.elim 0 byteLen, message.name.elim 0 byteLen,
          message.reasoningContent.elim 0 byteLen])) 0
  let bound := request.tools.foldl (fun bound tool =>
    saturatingSum bound
      [128, byteLen tool.name, byteLen tool.description, valueByteLen tool.parameters]) bound
  let bound := u64SaturatingAdd bound
    (min ((imageUrls request.messages).length * maxImagePromptTokens) u64Max)
  { promptTokens := bound
    completionTokens := maxOutputTokens
    totalTokens := u64SaturatingAdd bound maxOutputTokens
    promptTokensDetails := none }

/-! ## The two reads -/

/-- A row of `byok_provider_keys`. -/
structure ByokProviderKey where
  provider : String
  sealedCredential : String
  fallbackEnabled : Bool
  deriving DecidableEq, Repr

/-- `byok_covered_providers`: each covered provider with its fallback opt-in.  Empty
    without a keyring, and when the read fails. -/
def byokCoveredProviders (keyring : Option (ByokProviderKey → Option String))
    (read : Option (List ByokProviderKey)) : List (String × Bool) :=
  match keyring with
  | none => []
  | some _ =>
      match read with
      | none => []
      | some rows => rows.map fun row => (row.provider, row.fallbackEnabled)

/-- `byok.rs` `open_credentials`: a row that does not open is dropped. -/
def openCredentials (keyring : ByokProviderKey → Option String) (rows : List ByokProviderKey) :
    List (String × String × Bool) :=
  rows.filterMap fun row =>
    (keyring row).map fun credential => (row.provider, credential, row.fallbackEnabled)

/-- `byok_credentials`: empty without a keyring, and when the read fails. -/
def byokCredentials (keyring : Option (ByokProviderKey → Option String))
    (read : Option (List ByokProviderKey)) : ByokCredentials :=
  match keyring with
  | none => .empty
  | some opens =>
      match read with
      | none => .empty
      | some rows => { byProvider := openCredentials opens rows }

/-! ## The sizing -/

/-- `byok_reservation_rate`: the fee rate only when every catalog candidate is
    covered by a key that does not fall back. -/
def byokReservationRate (resolved : ResolvedRoute) (covered : List (String × Bool)) : Decimal :=
  if !covered.isEmpty ∧
      resolved.candidates.all fun candidate =>
        lookupLast covered candidate.provider = some false then
    feeRate
  else houseRate

/-- `sized_reservation`. -/
def sizedReservation (request : ChatCompletionRequest) (resolved : ResolvedRoute)
    (outputBound : Nat) (byokRate : Decimal) : Except ApiError ReservationSize :=
  let usage := request.reservationUsage outputBound
  match usageCost resolved.sellRates.reservationRates usage with
  | none => .error .meteringUnavailable
  | some catalogCost =>
      if i64Max < usage.totalTokens then .error .invalidRequest
      else
        match applyFee catalogCost byokRate with
        | none => .error .meteringUnavailable
        | some costUsd =>
            .ok { totalTokens := usage.totalTokens, outputTokens := outputBound, costUsd }

/-- `byok_reservation_posture`: what admission needs to price the request against the
    monthly allowance. -/
def byokReservationPosture (request : ChatCompletionRequest) (resolved : ResolvedRoute)
    (outputBound : Nat) (covered : List (String × Bool)) (byokRate : Decimal) :
    Except ApiError ByokReservation :=
  if !resolved.candidates.any fun candidate => (lookupLast covered candidate.provider).isSome then
    .ok { catalogBasis := none, whollyByok := false }
  else do
    let basis ← sizedReservation request resolved outputBound houseRate
    return { catalogBasis := some basis.costUsd, whollyByok := byokRate = feeRate }

/-! ## What the sizing says -/

theorem sizedReservation_eq_ok {byokRate : Decimal} {size : ReservationSize}
    (h : sizedReservation request resolved outputBound byokRate = .ok size) :
    ∃ catalogCost,
      usageCost resolved.sellRates.reservationRates (request.reservationUsage outputBound) =
        some catalogCost ∧
      size.costUsd = catalogCost * byokRate := by
  unfold sizedReservation at h
  dsimp only at h
  cases hcost : usageCost resolved.sellRates.reservationRates
      (request.reservationUsage outputBound) with
  | none =>
      rw [hcost] at h
      cases h
  | some catalogCost =>
      rw [hcost] at h
      dsimp only at h
      refine ⟨catalogCost, rfl, ?_⟩
      split at h
      · cases h
      · cases hfee : applyFee catalogCost byokRate with
        | none =>
            rw [hfee] at h
            cases h
        | some costUsd =>
            rw [hfee] at h
            cases h
            exact applyFee_eq_some hfee

/-- Every catalog candidate is covered by a key that does not fall back. -/
def WhollyCovered (resolved : ResolvedRoute) (covered : List (String × Bool)) : Prop :=
  covered ≠ [] ∧
    ∀ candidate ∈ resolved.candidates, lookupLast covered candidate.provider = some false

theorem byokReservationRate_cases (resolved : ResolvedRoute) (covered : List (String × Bool)) :
    WhollyCovered resolved covered ∧ byokReservationRate resolved covered = feeRate ∨
      ¬ WhollyCovered resolved covered ∧ byokReservationRate resolved covered = houseRate := by
  unfold byokReservationRate
  by_cases h : !covered.isEmpty ∧
      resolved.candidates.all fun candidate =>
        lookupLast covered candidate.provider = some false
  · rw [if_pos h]
    refine .inl ⟨⟨?_, ?_⟩, rfl⟩
    · simpa using h.1
    · simpa using h.2
  · rw [if_neg h]
    refine .inr ⟨?_, rfl⟩
    rintro ⟨hsome, hall⟩
    exact h ⟨by simpa using hsome, by simpa using hall⟩

theorem feeRate_ne_houseRate : feeRate ≠ houseRate := by norm_num [feeRate, houseRate]

/-- A reservation is wholly BYOK exactly when every candidate, there being one, is
    covered by a key that does not fall back. -/
theorem byokReservationPosture_whollyByok {covered : List (String × Bool)}
    {posture : ByokReservation} (hsome : resolved.candidates ≠ [])
    (h : byokReservationPosture request resolved outputBound covered
      (byokReservationRate resolved covered) = .ok posture) :
    posture.whollyByok = true ↔ WhollyCovered resolved covered := by
  unfold byokReservationPosture at h
  split at h
  · next hnone =>
    cases h
    refine ⟨fun h => absurd h Bool.false_ne_true, ?_⟩
    rintro ⟨-, hall⟩
    obtain ⟨candidate, hmem⟩ := List.exists_mem_of_ne_nil _ hsome
    simp only [Bool.not_eq_eq_eq_not, Bool.not_true, List.any_eq_false] at hnone
    exact absurd (by simp [hall candidate hmem]) (hnone candidate hmem)
  · cases hbasis : sizedReservation request resolved outputBound houseRate with
    | error err =>
        rw [hbasis] at h
        cases h
    | ok basis =>
        rw [hbasis] at h
        cases h
        rcases byokReservationRate_cases resolved covered with ⟨hwholly, hrate⟩ | ⟨hnot, hrate⟩
        · simp [hrate, hwholly]
        · simp [hrate, hnot, Ne.symm feeRate_ne_houseRate]

end ZeroRouter
