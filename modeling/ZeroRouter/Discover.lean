import ZeroRouter.Config.Routes
import ZeroRouter.Api.Retry
import Mathlib.Data.List.Lex
import Mathlib.Data.Prod.Lex

/-!
# Discovery

`src/router/src/discover.rs`: which models a price source lists under the providers a deployment can
dispatch on, and the catalog does not carry.

The source is its parsed document.  A date is its day number; the calendar's first day, the parser
and the rendering of a date are a library's.
-/

namespace ZeroRouter.Discover

open Ordered

inductive Category where
  | crossCloud
  | versionBump
  | new
  deriving DecidableEq, Repr

structure Candidate where
  category : Category
  provider : String
  model : String
  note : String
  deriving DecidableEq, Repr

/-! ## The source -/

/-- `SourceModalities`, by its one field. -/
structure SourceModel where
  output : Option (List String)
  releaseDate : Option String
  deriving DecidableEq, Repr

structure SourceProvider where
  models : SortedMap String SourceModel

/-- What the calendar library does. -/
structure Calendar where
  minDate : Int
  /-- `NaiveDate::parse_from_str` with `%Y-%m-%d`. -/
  parseFromStr : String → Option Int
  display : Int → String

def nonChatNameTokens : List String :=
  ["embed", "rerank", "moderation", "guard", "whisper", "tts"]

/-- `is_non_chat`. -/
def isNonChat (model : String) (entry : SourceModel) : Bool :=
  (entry.output.any fun output => !output.isEmpty && !output.contains "text") ||
    nonChatNameTokens.any (contains model.toLower)

/-- `parse_release_date`: a year and a month are the first of the month. -/
def parseReleaseDate (calendar : Calendar) (raw : String) : Option Int :=
  let raw := trim raw
  (calendar.parseFromStr raw).or (calendar.parseFromStr (raw ++ "-01"))

/-- An entry's date, as far as one can be read. -/
def SourceModel.release (calendar : Calendar) (entry : SourceModel) : Option Int :=
  entry.releaseDate.bind (parseReleaseDate calendar)

/-! ## Names -/

/-- `strip_prefix`, by the first of several that fits. -/
def stripFirst (prefixes : List String) (text : String) : String :=
  (prefixes.find? (startsWith · text)).elim text fun first =>
    String.ofList (text.toList.drop first.length)

/-- `strip_suffix`, by the first of several that fits. -/
def stripLast (suffixes : List String) (text : String) : String :=
  (suffixes.find? fun last => last.toList.isSuffixOf text.toList).elim text fun last =>
    String.ofList (text.toList.take (text.toList.length - last.length))

def regions : List String := ["us.", "eu.", "au.", "apac.", "global."]

def vendors : List String :=
  ["anthropic.", "xai.", "amazon.", "deepseek.", "meta.", "mistral.", "cohere.", "ai21.", "qwen.",
    "google."]

def markers : List String := ["-v1:0", "-v1", ":0", "-maas", "-tput"]

def isDigitByte (byte : UInt8) : Bool := 48 ≤ byte && byte ≤ 57

/-- A digit, `p`, digit is a version's dot.  A byte is taken for a character of its own. -/
def foldDots : Option UInt8 → List UInt8 → List Char
  | _, [] => []
  | last, byte :: rest =>
      let dotted := byte = 112 && last.any isDigitByte && rest.head?.any isDigitByte
      (if dotted then '.' else Char.ofNat byte.toNat) :: foldDots (some byte) rest

/-- `canonical`. -/
def canonical (model : String) : String :=
  let bare := ((rsplitOnce '/' model).elim model (·.2)).toLower
  let bare := stripFirst vendors (stripFirst regions bare)
  let bare := (splitOnce '@' bare).elim bare (·.1)
  let bare := stripLast markers bare
  let bare :=
    match rsplitOnce '-' bare with
    | some (head, tail) =>
        if tail.toList.length = 8 ∧ tail.toList.all Char.isDigit then head else bare
    | none => bare
  String.ofList (foldDots none bare.toByteArray.data.toList)

/-- A maximal run of digits and interior separators, and what follows it. -/
def versionRun : List Char → List Char × List Char
  | [] => ([], [])
  | c :: rest =>
      if c.isDigit || ((c = '.' || c = 'p') && rest.head?.any Char.isDigit) then
        let (run, after) := versionRun rest
        (c :: run, after)
      else ([], c :: rest)

/-- A size unit fused to a number. -/
def isSize (after : List Char) : Bool :=
  match after with
  | unit :: rest => (unit = 'b' || unit = 'm' || unit = 'k') && !rest.head?.any Char.isAlphanum
  | [] => false

/-- The numbers of a run.  One that is no `u64` is left out. -/
def components : List Char → List Nat
  | run =>
      (run.splitOnP fun c => c = '.' || c = 'p').filterMap fun part =>
        if part.isEmpty then none
        else
          let value := part.foldl (fun value c => value * 10 + (c.toNat - 48)) 0
          if value ≤ u64Max then some value else none

/-- `split_version`. -/
def splitVersion (bare : String) : Option (String × List Nat × String) :=
  let before := bare.toList.takeWhile fun c => !c.isDigit
  let (run, after) := versionRun (bare.toList.dropWhile fun c => !c.isDigit)
  if isSize after then none
  else
    let version := components run
    if version.isEmpty then none
    else some (String.ofList before, version, String.ofList after)

/-! ## What the catalog carries -/

abbrev StringSet := SortedMap String Unit

abbrev Family := String ×ₗ String ×ₗ String

structure Carried where
  byProvider : SortedMap String StringSet
  providersByModel : SortedMap String StringSet
  maxVersion : SortedMap Family (List Nat)

/-- `entry(key).or_default().insert(item)`. -/
def addTo (map : SortedMap String StringSet) (key item : String) : SortedMap String StringSet :=
  map.insert key (((map.get? key).getD .empty).insert item ())

/-- The greater of the slot's version and another. -/
def raise (map : SortedMap Family (List Nat)) (key : Family) (version : List Nat) :
    SortedMap Family (List Nat) :=
  let slot := (map.get? key).getD []
  map.insert key (if slot < version then version else slot)

/-- One candidate of the catalog. -/
def Carried.add (carried : Carried) (candidate : CatalogCandidate) : Carried :=
  let name := canonical candidate.model
  { byProvider := addTo carried.byProvider candidate.provider name
    providersByModel := addTo carried.providersByModel name candidate.provider
    maxVersion :=
      match splitVersion name with
      | some (front, version, back) =>
          raise carried.maxVersion (toLex (candidate.provider, toLex (front, back))) version
      | none => carried.maxVersion }

/-- The candidates of every tier, withheld ones included. -/
def catalogCandidates (catalog : TierCatalog) : List CatalogCandidate :=
  (catalog.tiers.values ++ catalog.unavailable.values.map (·.definition)).flatMap (·.candidates)

/-- `Carried::from_catalog`. -/
def Carried.fromCatalog (catalog : TierCatalog) : Carried :=
  (catalogCandidates catalog).foldl Carried.add ⟨.empty, .empty, .empty⟩

/-! ## The report -/

def renderVersion (version : List Nat) : String := ".".intercalate (version.map toString)

section Report

variable (calendar : Calendar)

/-- `classify`. -/
def classify (provider model name : String) (carried : Carried) (release : Option Int) :
    Candidate :=
  let elsewhere := (((carried.providersByModel.get? name).getD .empty).keys).filter (· ≠ provider)
  if ¬ elsewhere.isEmpty then
    { category := .crossCloud, provider, model
      note :=
        "carried on " ++ ", ".intercalate elsewhere ++ "; the source also lists it under our " ++
          provider ++ " lane — likely a zero-retention-twin opportunity" }
  else
    let bump := do
      let (front, version, back) ← splitVersion name
      let highest ← carried.maxVersion.get? (toLex (provider, toLex (front, back)))
      if highest < version then some (highest, version) else none
    match bump with
    | some (highest, version) =>
        { category := .versionBump, provider, model
          note :=
            "we carry " ++ renderVersion highest ++
              " in this family; the source lists a higher " ++ renderVersion version }
    | none =>
        let shipped :=
          release.elim "release date unknown" fun date => "released " ++ calendar.display date
        { category := .new, provider, model
          note := shipped ++ "; no catalog candidate carries this model" }

/-- The findings so far, each with its date, and the opportunities they are of. -/
structure Findings where
  scored : List (Candidate × Option Int)
  seen : List (String × String)

/-- One model of the source. -/
def visit (carried : Carried) (provider : String) (findings : Findings)
    (listed : String × SourceModel) : Findings :=
  let (model, entry) := listed
  let name := canonical model
  if (carried.byProvider.get? provider).any (·.contains name) then findings
  else if isNonChat model entry then findings
  else if (provider, name) ∈ findings.seen then findings
  else
    let release := entry.release calendar
    { scored :=
        findings.scored ++ [(classify calendar provider model name carried release, release)]
      seen := (provider, name) :: findings.seen }

/-- `Reverse(release)`: a later date first, no date last. -/
def newestFirst : Option Int → Option Int → Bool
  | _, none => true
  | none, some _ => false
  | some left, some right => right ≤ left

/-- `today - Duration::days(..)`.  A day before the calendar's first is a panic. -/
def cutoff (today newSinceDays : Int) : Option Int :=
  let date := today - max newSinceDays 0
  if calendar.minDate ≤ date then some date else none

/-- `filter_new_by_recency`. -/
def filterNewByRecency (scored : List (Candidate × Option Int)) (today newSinceDays : Int) :
    Option (List Candidate) :=
  (cutoff calendar today newSinceDays).map fun cutoff =>
    let new := scored.filter (·.1.category = .new)
    let other := scored.filter (·.1.category ≠ .new)
    let fresh := new.filter fun finding => finding.2.all (cutoff ≤ ·)
    (other ++ fresh.mergeSort fun left right => newestFirst left.2 right.2).map (·.1)

/-- The findings of a scan, before the window. -/
def scan (catalog : TierCatalog) (source : SortedMap String SourceProvider)
    (credentialed : List (String × String)) : Findings :=
  let carried := Carried.fromCatalog catalog
  credentialed.foldl
    (fun findings lane =>
      match source.get? lane.2 with
      | none => findings
      | some provider => provider.models.entries.foldl (visit calendar carried lane.1) findings)
    ⟨[], []⟩

/-- `discover`: nothing where it panics. -/
def discover (catalog : TierCatalog) (source : SortedMap String SourceProvider)
    (credentialed : List (String × String)) (today newSinceDays : Int) : Option (List Candidate) :=
  filterNewByRecency calendar (scan calendar catalog source credentialed).scored today
    newSinceDays

end Report

end ZeroRouter.Discover
