import ZeroRouter.Api.Route
import ZeroRouter.Lib.SortedMap
import Mathlib.Data.String.Basic

/-!
# The tier catalog's data

`src/router/src/config.rs`: a catalog file sells tiers.  A tier has its candidates
and the schedule it sells at; a candidate has its own cost schedule and what is
declared of its model; a provider, or a tier in its place, has a retention pin.

Reading the file and parsing its TOML are outside the model: a `TierFile` is what a
parse returns.  `chrono`'s reading of a date and the provider inventory installed in
the process are parameters.
-/

namespace ZeroRouter

open Ordered

/-! ## Texts -/

/-- `str::starts_with`. -/
def startsWith (start text : String) : Bool := start.toList.isPrefixOf text.toList

/-- `value.trim().is_empty()`. -/
def isBlank (value : String) : Bool := (trim value).toList.isEmpty

/-- A text cut at the first separator. -/
def splitFirst (separator : Char) : List Char → Option (List Char × List Char)
  | [] => none
  | c :: rest =>
      if c = separator then some ([], rest)
      else (splitFirst separator rest).map fun cut => (c :: cut.1, cut.2)

/-- `str::split_once` on one character. -/
def splitOnce (separator : Char) (text : String) : Option (String × String) :=
  (splitFirst separator text.toList).map fun cut => (String.ofList cut.1, String.ofList cut.2)

/-- `str::rsplit_once` on one character. -/
def rsplitOnce (separator : Char) (text : String) : Option (String × String) :=
  (splitFirst separator text.toList.reverse).map fun cut =>
    (String.ofList cut.2.reverse, String.ofList cut.1.reverse)

theorem splitFirst_eq_some {separator : Char} {text before after : List Char} :
    splitFirst separator text = some (before, after) ↔
      text = before ++ separator :: after ∧ separator ∉ before := by
  induction text generalizing before with
  | nil => simp [splitFirst]
  | cons c rest ih =>
      unfold splitFirst
      by_cases hc : c = separator
      · rw [if_pos hc]
        cases before with
        | nil => simp [hc]
        | cons b before =>
            simp only [Option.some.injEq, Prod.mk.injEq, List.cons_append, List.cons.injEq,
              List.mem_cons, not_or]
            constructor
            · rintro ⟨h, -⟩
              cases h
            · rintro ⟨⟨h, -⟩, hne, -⟩
              exact absurd (hc.symm.trans h) hne
      · rw [if_neg hc]
        cases before with
        | nil => simp [hc]
        | cons b before =>
            simp only [Option.map_eq_some_iff, Prod.mk.injEq, List.cons.injEq, List.cons_append,
              List.mem_cons, not_or]
            constructor
            · rintro ⟨⟨before', after'⟩, h, ⟨rfl, rfl⟩, rfl⟩
              obtain ⟨rfl, hnot⟩ := ih.mp h
              exact ⟨⟨rfl, rfl⟩, Ne.symm hc, hnot⟩
            · rintro ⟨⟨rfl, rfl⟩, -, hnot⟩
              exact ⟨(before, after), ih.mpr ⟨rfl, hnot⟩, ⟨rfl, rfl⟩, rfl⟩

/-- `Priority::from_keyword`. -/
def Priority.fromKeyword (keyword : String) : Option Priority :=
  if keyword = "cost" then some .cost
  else if keyword = "balanced" then some .balanced
  else if keyword = "success" then some .success
  else none

/-! ## What is declared of a model -/

structure ModelMetadata where
  contextWindow : Option Nat
  maxOutputTokens : Option Nat
  inputModalities : Option (List String)
  toolCall : Option Bool
  deriving DecidableEq, Repr

/-- `ModelMetadata::default`: every field unknown. -/
def ModelMetadata.unknown : ModelMetadata where
  contextWindow := none
  maxOutputTokens := none
  inputModalities := none
  toolCall := none

/-- One more candidate's value; an undeclared one ends the fold. -/
def narrowStep {α : Type} (combine : α → α → α) (narrowed : Option α) (value : Option α) :
    Option (Option α) :=
  value.map fun own => some (narrowed.elim own (combine · own))

/-- The fold `narrowed` makes of one field. -/
def narrowField {α : Type} (combine : α → α → α) (declared : List (Option α)) : Option α :=
  (declared.foldlM (narrowStep combine) none).join

/-- `ModelMetadata::narrowed`, over the candidates' own. -/
def ModelMetadata.narrowed (declared : List ModelMetadata) : ModelMetadata where
  contextWindow := narrowField min (declared.map (·.contextWindow))
  maxOutputTokens := narrowField min (declared.map (·.maxOutputTokens))
  inputModalities :=
    narrowField (fun shared other => shared.filter (· ∈ other)) (declared.map (·.inputModalities))
  toolCall := narrowField (· && ·) (declared.map (·.toolCall))

/-- What the fold made of a field is related to every declared value, if combining
    relates to both of its arguments. -/
theorem narrowField_spec {α : Type} {combine : α → α → α} {R : α → α → Prop}
    (refl : ∀ a, R a a) (trans : ∀ a b c, R a b → R b c → R a c)
    (left : ∀ a b, R (combine a b) a) (right : ∀ a b, R (combine a b) b)
    {declared : List (Option α)} {narrowed : α} (h : narrowField combine declared = some narrowed) :
    ∀ value ∈ declared, ∃ a, value = some a ∧ R narrowed a := by
  -- The fold from any start: the result is under the start and under every value.
  have general : ∀ (declared : List (Option α)) (start : Option α) (narrowed : α),
      (declared.foldlM (narrowStep combine) start).join = some narrowed →
      (∀ a, start = some a → R narrowed a) ∧
        ∀ value ∈ declared, ∃ a, value = some a ∧ R narrowed a := by
    intro declared
    induction declared with
    | nil =>
        intro start narrowed h
        refine ⟨?_, by simp⟩
        intro a ha
        simp only [List.foldlM_nil, Option.pure_def, Option.join_some] at h
        rw [ha, Option.some.injEq] at h
        exact h ▸ refl a
    | cons value rest ih =>
        intro start narrowed h
        cases value with
        | none => simp [narrowStep] at h
        | some own =>
            rw [List.foldlM_cons] at h
            obtain ⟨hnext, hrest⟩ := ih _ _ h
            have hnext := hnext _ rfl
            refine ⟨?_, ?_⟩
            · intro a ha
              subst ha
              exact trans _ _ _ hnext (left a own)
            · intro value hvalue
              rcases List.mem_cons.mp hvalue with rfl | hvalue
              · refine ⟨own, rfl, ?_⟩
                cases start with
                | none => exact hnext
                | some a => exact trans _ _ _ hnext (right a own)
              · exact hrest value hvalue
  exact (general declared none narrowed h).2

/-! ## Retention -/

inductive RetentionPosture where
  | zero
  | standard
  deriving DecidableEq, Repr

namespace RetentionPosture

def orderingRank : RetentionPosture → Nat
  | .zero => 0
  | .standard => 1

def weaker : RetentionPosture → RetentionPosture → RetentionPosture
  | .zero, .zero => .zero
  | _, _ => .standard

/-- One posture promises no more than another. -/
def noStronger (published actual : RetentionPosture) : Bool :=
  published = .standard || actual = .zero

@[simp] theorem standard_noStronger (actual : RetentionPosture) :
    noStronger .standard actual = true := rfl

@[simp] theorem noStronger_refl (posture : RetentionPosture) :
    posture.noStronger posture = true := by
  cases posture <;> rfl

theorem noStronger_zero {actual : RetentionPosture} :
    noStronger .zero actual = true ↔ actual = .zero := by
  cases actual <;> simp [noStronger]

end RetentionPosture

inductive RetentionPolicy where
  | zdrOnly
  | allowNonZdr
  deriving DecidableEq, Repr

/-- `RetentionPolicy::permits`. -/
def RetentionPolicy.permits : RetentionPolicy → RetentionPosture → Bool
  | _, .zero => true
  | .allowNonZdr, .standard => true
  | .zdrOnly, .standard => false

/-- `RetentionPin`, without the slug only the drift report reads. -/
structure RetentionPin where
  posture : RetentionPosture
  description : String
  sourceUrl : String
  verified : String
  sourceSha256 : String
  sourceExtractAnchors : List String
  deriving DecidableEq, Repr

/-! ## The catalog -/

/-- `TierCandidate` with what its model declares. -/
structure CatalogCandidate extends TierCandidate where
  metadata : ModelMetadata
  deriving DecidableEq, Repr

structure TierDefinition where
  candidates : List CatalogCandidate
  rates : RateSchedule
  retention : Option RetentionPin
  deriving DecidableEq, Repr

/-- The part of `TierCatalog` the file states. -/
structure TierFile where
  schemaVersion : Nat
  tiers : SortedMap String TierDefinition
  retention : SortedMap String RetentionPin

/-- `UnifiedModel`. -/
structure UnifiedModel where
  definition : TierDefinition
  retention : SortedMap String RetentionPosture

/-! ## The inventory the catalog asks -/

inductive SettlementDeclaration where
  | metered
  | free
  deriving DecidableEq, Repr

/-- The installed inventory with each entry's settlement.  One that does not load
    answers no to every question, as an empty one does. -/
structure DeclaredInventory where
  providers : ProviderInventory
  settlement : String → SettlementDeclaration

namespace DeclaredInventory

variable (inventory : DeclaredInventory)

/-- `is_supported_provider`. -/
def isSupportedProvider (provider : String) : Bool :=
  (inventory.providers.provider provider).isSome

/-- `provider_has_surface`. -/
def providerHasSurface (provider surface : String) : Bool :=
  (inventory.providers.provider provider).any fun metadata =>
    (lookupLast metadata.surfaces surface).isSome

/-- `provider_carries_cache_control`. -/
def providerCarriesCacheControl (provider : String) (surface : Option String) : Bool :=
  ((inventory.providers.provider provider).bind fun metadata =>
    match surface with
    | none => some metadata.adapter
    | some name => (lookupLast metadata.surfaces name).map (·.adapter)).any fun adapter =>
      adapter = .anthropic || adapter = .anthropicBedrockRuntime

/-- `provider_settles_free`. -/
def providerSettlesFree (provider : String) : Bool :=
  inventory.isSupportedProvider provider && inventory.settlement provider = .free

end DeclaredInventory

end ZeroRouter
