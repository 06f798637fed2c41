import ZeroRouter.Proofs.Normalize
import ZeroRouter.Config.Validate

/-!
# Evidence that passes

An anchored pin's check answers from the regions its anchors select.  The search for an anchor goes
from the left and takes each place once, so an anchor that overlaps itself is found once and stands
twice; otherwise an unchanged verdict means that every anchor stands at one place and the regions
are the pinned ones.
-/

namespace ZeroRouter.Retention

open ByteOffset Substitute Occurrence Relational

/-! ## Digests a catalog accepts -/

theorem digitChar_hex {n : Nat} (h : n < 16) :
    isAsciiHexdigit (Nat.digitChar n) = true ∧ isWhiteSpace (Nat.digitChar n) = false ∧
      IsAscii (Nat.digitChar n) := by
  have all : ∀ n < 16, isAsciiHexdigit (Nat.digitChar n) = true ∧
      isWhiteSpace (Nat.digitChar n) = false ∧ IsAscii (Nat.digitChar n) := by decide
  exact all n h

theorem mem_hexEncode {bytes : List UInt8} {c : Char} (mem : c ∈ hexEncode bytes) :
    ∃ n < 16, c = Nat.digitChar n := by
  obtain ⟨byte, -, mem⟩ := List.mem_flatMap.mp mem
  have small : byte.toNat < 256 := byte.toNat_lt
  simp only [List.mem_cons, List.not_mem_nil, or_false] at mem
  rcases mem with rfl | rfl
  · exact ⟨_, by omega, rfl⟩
  · exact ⟨_, by omega, rfl⟩

theorem length_hexEncode (bytes : List UInt8) : (hexEncode bytes).length = 2 * bytes.length := by
  induction bytes with
  | nil => rfl
  | cons byte bytes ih =>
      unfold hexEncode at ih ⊢
      rw [List.flatMap_cons, List.length_append, ih]
      simp
      omega

theorem trim_ofList {text : List Char} (visible : ∀ c ∈ text, isWhiteSpace c = false) :
    trim (String.ofList text) = String.ofList text := by
  have kept : ∀ l : List Char, (∀ c ∈ l, isWhiteSpace c = false) → l.dropWhile isWhiteSpace = l := by
    intro l all
    cases l with
    | nil => rfl
    | cons c rest => rw [List.dropWhile_cons_of_neg (by rw [all c List.mem_cons_self]; simp)]
  unfold trim
  rw [String.toList_ofList, kept text visible, kept text.reverse (by simpa using visible),
    List.reverse_reverse]

theorem utf8ByteSize_ofList (text : List Char) :
    (String.ofList text).utf8ByteSize = byteCount text := by
  unfold String.utf8ByteSize byteCount Utf8.encode
  rw [String.ofList]
  simp [List.utf8Encode, ByteArray.size]

section Pins

variable {isDate : String → Bool} {subject : String} {pin : RetentionPin}

/-- A pin the catalog accepts. -/
def Accepted (isDate : String → Bool) (subject : String) (pin : RetentionPin) : Prop :=
  validateRetentionPin isDate subject pin = .ok ()

theorem accepted_iff :
    Accepted isDate subject pin ↔
      (¬ isBlank pin.description ∧ ¬ isBlank pin.sourceUrl ∧ ¬ isBlank pin.verified ∧
        ¬ isBlank pin.sourceSha256) ∧
      isDate (trim pin.verified) ∧
      (startsWith "https://" (trim pin.sourceUrl) ∨ startsWith "http://" (trim pin.sourceUrl)) ∧
      ((trim pin.sourceSha256).utf8ByteSize = 64 ∧
        (trim pin.sourceSha256).toList.all isAsciiHexdigit) ∧
      ¬ pin.sourceExtractAnchors.any isBlank := by
  unfold Accepted validateRetentionPin
  simp only [bind_eq_ok, ensure_eq_ok, checkAll_eq_ok, List.forall_mem_cons, List.not_mem_nil,
    IsEmpty.forall_iff, implies_true, and_true, exists_const]

theorem Accepted.anchors (h : Accepted isDate subject pin) :
    ∀ anchor ∈ pin.sourceExtractAnchors, anchor.toList ≠ [] := by
  obtain ⟨-, -, -, -, not_blank⟩ := accepted_iff.mp h
  intro anchor mem nil
  refine not_blank (List.any_eq_true.mpr ⟨anchor, mem, ?_⟩)
  unfold isBlank trim
  rw [nil]
  rfl

/-- Any digest of the right shape is as good. -/
theorem Accepted.withDigest (h : Accepted isDate subject pin) {digest : List Char}
    (size : digest.length = 64) (hex : ∀ c ∈ digest, ∃ n < 16, c = Nat.digitChar n) :
    Accepted isDate subject { pin with sourceSha256 := String.ofList digest } := by
  have each : ∀ c ∈ digest, isAsciiHexdigit c = true ∧ isWhiteSpace c = false ∧ IsAscii c := by
    intro c mem
    obtain ⟨n, small, rfl⟩ := hex c mem
    exact digitChar_hex small
  have trimmed : trim (String.ofList digest) = String.ofList digest :=
    trim_ofList fun c mem => (each c mem).2.1
  obtain ⟨⟨described, located, dated, -⟩, is_date, is_url, -, anchored⟩ := accepted_iff.mp h
  refine accepted_iff.mpr ⟨⟨described, located, dated, ?_⟩, is_date, is_url, ⟨?_, ?_⟩, anchored⟩
  · have filled : digest ≠ [] := List.ne_nil_of_length_pos (by omega)
    simp [isBlank, trimmed, filled]
  · rw [trimmed, utf8ByteSize_ofList, byteCount_eq_length fun c mem => (each c mem).2.2, size]
  · rw [trimmed, String.toList_ofList, List.all_eq_true]
    exact fun c mem => (each c mem).1

end Pins

/-! ## Regions -/

section Regions

variable {normalized : List Char} {anchor : String} {anchors : List String}

/-- The region an anchor selects at a position. -/
def windowAt (normalized : List Char) (i : Nat) : List Char :=
  (normalized.drop i).take extractWindowChars

/-- Every occurrence of the anchor starts inside the first, at this position. -/
def StandsAt (normalized : List Char) (anchor : String) (i : Nat) : Prop :=
  Occurs anchor.toList normalized i ∧
    ∀ j, Occurs anchor.toList normalized j → i ≤ j ∧ j < i + anchor.toList.length

/-- An anchor has a region exactly where all its occurrences start inside the first. -/
theorem region_eq_ok (filled : anchor.toList ≠ []) {window : List Char} :
    region normalized anchor = .ok window ↔
      ∃ i, StandsAt normalized anchor i ∧ windowAt normalized i = window := by
  have single : ∀ found, matchesOf anchor.toList normalized = [found] ↔
      ∃ i, found = normalized.drop i ∧ StandsAt normalized anchor i :=
    fun found => matchesOf_eq_singleton filled
  unfold region
  constructor
  · intro h
    split at h
    · cases h
    · next found is_matches =>
        cases h
        obtain ⟨i, rfl, stands⟩ := (single found).mp is_matches
        exact ⟨i, stands, rfl⟩
    · cases h
  · rintro ⟨i, stands, rfl⟩
    rw [(single _).mpr ⟨i, rfl, stands⟩]
    rfl

/-- The regions of a list of anchors. -/
def regions (normalized : List Char) (anchors : List String) :
    Except ExtractError (List (List Char)) :=
  anchors.mapM (region normalized)

theorem regions_cons (anchor : String) (anchors : List String) :
    regions normalized (anchor :: anchors) = do
      let window ← region normalized anchor
      let windows ← regions normalized anchors
      return window :: windows := by
  unfold regions
  rw [List.mapM_cons]

theorem regions_congr {text text' : List Char}
    (same : ∀ anchor ∈ anchors, region text anchor = region text' anchor) :
    regions text anchors = regions text' anchors := by
  induction anchors with
  | nil => rfl
  | cons anchor anchors ih =>
      rw [regions_cons, regions_cons, same anchor List.mem_cons_self,
        ih fun other mem => same other (List.mem_cons_of_mem _ mem)]

theorem regions_eq_ok (filled : ∀ anchor ∈ anchors, anchor.toList ≠ [])
    {windows : List (List Char)} :
    regions normalized anchors = .ok windows ↔
      List.Forall₂ (fun anchor window =>
        ∃ i, StandsAt normalized anchor i ∧ windowAt normalized i = window) anchors windows := by
  induction anchors generalizing windows with
  | nil =>
      unfold regions
      rw [List.mapM_nil, List.forall₂_nil_left_iff]
      exact ⟨fun h => by cases h; rfl, fun h => by rw [h]; rfl⟩
  | cons anchor anchors ih =>
      have own := filled anchor List.mem_cons_self
      have ih := fun windows => @ih (fun other mem => filled other (List.mem_cons_of_mem _ mem))
        windows
      rw [regions_cons]
      simp only [bind_eq_ok, region_eq_ok own, ih]
      rw [List.forall₂_cons_left_iff]
      constructor
      · rintro ⟨window, stands, rest, is_rest, is_windows⟩
        cases is_windows
        exact ⟨window, rest, stands, is_rest, rfl⟩
      · rintro ⟨window, rest, stands, is_rest, rfl⟩
        exact ⟨window, stands, rest, is_rest, rfl⟩

theorem extract_eq (normalized : List Char) (anchors : List String) :
    extract normalized anchors = (regions normalized anchors).map extractJoin.intercalate := rfl

/-- A region holds no line feed where the text it is of has none. -/
theorem not_mem_region (filled : ∀ anchor ∈ anchors, anchor.toList ≠ [])
    (unmarked : '\n' ∉ normalized) {windows : List (List Char)}
    (h : regions normalized anchors = .ok windows) : ∀ window ∈ windows, '\n' ∉ window := by
  have select := (regions_eq_ok filled).mp h
  clear h filled
  induction select with
  | nil => nofun
  | cons stands _ ih =>
      obtain ⟨i, -, rfl⟩ := stands
      intro window mem mem'
      rcases List.mem_cons.mp mem with rfl | mem
      · exact unmarked (List.mem_of_mem_drop (List.mem_of_mem_take mem'))
      · exact ih window mem mem'

end Regions

/-- The white space of a normalised text is spaces. -/
theorem not_mem_of_normalize {document normalized : List Char}
    (h : normalize document = some normalized) : '\n' ∉ normalized := by
  unfold normalize at h
  obtain ⟨text, -, rfl⟩ := Option.map_eq_some_iff.mp h
  intro mem
  rcases mem_spaced mem with is_space | visible
  · exact absurd is_space (by decide)
  · exact absurd visible (by decide)

/-! ## The verdict -/

section Verdicts

variable (sha256 : List UInt8 → Vector UInt8 32) {isDate : String → Bool} {subject : String}
  {pin : RetentionPin} {document normalized : List Char}

/-- The verdict of a check. -/
def verdict (subject : String) (pin : RetentionPin) (document : List Char) : Option Verdict :=
  (check sha256 subject pin document).map (·.verdict)

theorem verdict_anchored (is_text : normalize document = some normalized)
    (anchored : pin.sourceExtractAnchors ≠ []) :
    verdict sha256 subject pin document =
      some (match regions normalized pin.sourceExtractAnchors with
        | .ok windows =>
            if isPinned pin (hash sha256 (extractJoin.intercalate windows)) then .unchanged
            else .changed
        | .error _ => .changed) := by
  unfold verdict check evidence
  rw [is_text, Option.map_some, if_neg (by simpa using anchored), Option.map_some, Option.map_some,
    extract_eq]
  cases regions normalized pin.sourceExtractAnchors <;> rfl

/-- An anchor stands at one position of a text, overlapping occurrences counted. -/
def OccursOnce (normalized : List Char) (anchor : String) : Prop :=
  ∃ i, Occurs anchor.toList normalized i ∧ ∀ j, Occurs anchor.toList normalized j → j = i

/-- What an unchanged verdict claims: every anchor stands once, and the regions from there are the
    pinned ones. -/
def Evident (pin : RetentionPin) (normalized : List Char) : Prop :=
  (∀ anchor ∈ pin.sourceExtractAnchors, OccursOnce normalized anchor) ∧
    ∃ windows, List.Forall₂ (fun anchor window =>
        ∃ i, Occurs anchor.toList normalized i ∧ windowAt normalized i = window)
      pin.sourceExtractAnchors windows ∧
      isPinned pin (hash sha256 (extractJoin.intercalate windows)) = true

/-- Some anchor is missing, or stands at two places clear of each other; or every anchor stands
    once. -/
def AnchorsTell (normalized : List Char) (anchors : List String) : Prop :=
  (∃ anchor ∈ anchors, (∀ i, ¬ Occurs anchor.toList normalized i) ∨
    ∃ i j, Occurs anchor.toList normalized i ∧ Occurs anchor.toList normalized j ∧
      i + anchor.toList.length ≤ j) ∨
  ∀ anchor ∈ anchors, OccursOnce normalized anchor

theorem isPinned_self (pin : RetentionPin) (text : List Char) :
    isPinned { pin with sourceSha256 := String.ofList (hash sha256 text) } (hash sha256 text) =
      true := by
  have visible : ∀ c ∈ hash sha256 text, isWhiteSpace c = false := by
    intro c mem
    obtain ⟨n, small, rfl⟩ := mem_hexEncode mem
    exact (digitChar_hex small).2.1
  unfold isPinned
  dsimp only
  rw [trim_ofList visible, String.toList_ofList, decide_eq_true_eq]

/-- An anchor stands somewhere, all its occurrences inside the first: its region is read. -/
theorem exists_standsAt {anchor : String} {i : Nat}
    (occurs : Occurs anchor.toList normalized i)
    (close : ∀ i j, Occurs anchor.toList normalized i → Occurs anchor.toList normalized j →
      j < i + anchor.toList.length) : ∃ k, StandsAt normalized anchor k := by
  have found : ∃ k, Occurs anchor.toList normalized k := ⟨i, occurs⟩
  classical
  refine ⟨Nat.find found, Nat.find_spec found, fun j occurs' => ⟨Nat.find_min' found occurs', ?_⟩⟩
  exact close _ _ (Nat.find_spec found) occurs'

theorem unchanged_evident (accepted : Accepted isDate subject pin)
    (is_text : normalize document = some normalized) (anchored : pin.sourceExtractAnchors ≠ [])
    (tells : AnchorsTell normalized pin.sourceExtractAnchors)
    (unchanged : verdict sha256 subject pin document = some .unchanged) :
    Evident sha256 pin normalized := by
  rw [verdict_anchored sha256 is_text anchored, Option.some.injEq] at unchanged
  cases read : regions normalized pin.sourceExtractAnchors with
  | error error =>
      rw [read] at unchanged
      cases unchanged
  | ok windows =>
      rw [read] at unchanged
      dsimp only at unchanged
      have select := (regions_eq_ok accepted.anchors).mp read
      have pinned : isPinned pin (hash sha256 (extractJoin.intercalate windows)) = true := by
        by_contra other
        rw [if_neg other] at unchanged
        cases unchanged
      have stands : ∀ anchor ∈ pin.sourceExtractAnchors, ∃ i, StandsAt normalized anchor i :=
        ((List.forall₂_and_left _ _).mp (select.imp fun anchor window ⟨i, stands, is_window⟩ =>
          (⟨⟨i, stands⟩, trivial⟩ : (∃ i, StandsAt normalized anchor i) ∧ True))).1
      refine ⟨?_, windows, select.imp fun anchor window ⟨i, stands, is_window⟩ =>
        ⟨i, stands.1, is_window⟩, pinned⟩
      refine tells.resolve_left ?_
      rintro ⟨anchor, mem, never | ⟨i, j, occurs, occurs', clear⟩⟩
      · obtain ⟨i, stands⟩ := stands anchor mem
        exact never i stands.1
      · obtain ⟨k, stands⟩ := stands anchor mem
        have := stands.2 i occurs
        have := stands.2 j occurs'
        omega

theorem exists_regions {anchors : List String} (filled : ∀ anchor ∈ anchors, anchor.toList ≠ [])
    (stands : ∀ anchor ∈ anchors, ∃ i, StandsAt normalized anchor i) :
    ∃ windows, regions normalized anchors = .ok windows := by
  induction anchors with
  | nil => exact ⟨[], rfl⟩
  | cons anchor anchors ih =>
      obtain ⟨windows, read⟩ := ih (fun other mem => filled other (List.mem_cons_of_mem _ mem))
        fun other mem => stands other (List.mem_cons_of_mem _ mem)
      obtain ⟨i, own⟩ := stands anchor List.mem_cons_self
      have is_region := (region_eq_ok (filled anchor List.mem_cons_self)).mpr ⟨i, own, rfl⟩
      exact ⟨windowAt normalized i :: windows, by rw [regions_cons, is_region, read]; rfl⟩

/-- An unchanged verdict says that the anchors stand once and the regions are the pinned ones,
    whatever the pinned digest, exactly where the anchors tell. -/
theorem evident_iff (accepted : Accepted isDate subject pin)
    (is_text : normalize document = some normalized) (anchored : pin.sourceExtractAnchors ≠ []) :
    (∀ digest, Accepted isDate subject { pin with sourceSha256 := digest } →
      verdict sha256 subject { pin with sourceSha256 := digest } document = some .unchanged →
        Evident sha256 { pin with sourceSha256 := digest } normalized) ↔
      AnchorsTell normalized pin.sourceExtractAnchors := by
  constructor
  · intro evident
    by_contra silent
    unfold AnchorsTell at silent
    push Not at silent
    obtain ⟨close, anchor, mem, twice⟩ := silent
    have stands : ∀ anchor ∈ pin.sourceExtractAnchors, ∃ i, StandsAt normalized anchor i := by
      intro anchor mem
      obtain ⟨⟨i, occurs⟩, close⟩ := close anchor mem
      exact exists_standsAt occurs close
    obtain ⟨windows, read⟩ := exists_regions accepted.anchors stands
    have joined := isPinned_self sha256 pin (extractJoin.intercalate windows)
    have size : (hash sha256 (extractJoin.intercalate windows)).length = 64 := by
      rw [hash, length_hexEncode, Vector.length_toList]
    have accepted' := accepted.withDigest size fun c => mem_hexEncode
    refine twice ((evident _ accepted' ?_).1 anchor mem)
    rw [verdict_anchored sha256 is_text (by exact anchored), read]
    dsimp only
    rw [if_pos joined]
  · intro tells digest accepted' unchanged
    exact unchanged_evident sha256 accepted' is_text anchored tells unchanged

/-- What changes before the first anchor, and makes no anchor stand there, does not matter. -/
theorem verdict_congr {before before' rest document' : List Char}
    (accepted : Accepted isDate subject pin) (anchored : pin.sourceExtractAnchors ≠ [])
    (is_text : normalize document = some (before ++ rest))
    (is_text' : normalize document' = some (before' ++ rest))
    (none_before : ∀ anchor ∈ pin.sourceExtractAnchors, ∀ i < before.length,
      ¬ Occurs anchor.toList (before ++ rest) i)
    (none_before' : ∀ anchor ∈ pin.sourceExtractAnchors, ∀ i < before'.length,
      ¬ Occurs anchor.toList (before' ++ rest) i) :
    verdict sha256 subject pin document = verdict sha256 subject pin document' := by
  have behind : ∀ front : List Char, (∀ anchor ∈ pin.sourceExtractAnchors, ∀ i < front.length,
      ¬ Occurs anchor.toList (front ++ rest) i) →
      regions (front ++ rest) pin.sourceExtractAnchors = regions rest pin.sourceExtractAnchors := by
    intro front none_there
    refine regions_congr fun anchor mem => ?_
    unfold region
    rw [matchesOf_append (accepted.anchors anchor mem) (none_there anchor mem)]
  rw [verdict_anchored sha256 is_text anchored, verdict_anchored sha256 is_text' anchored,
    behind before none_before, behind before' none_before']

end Verdicts

/-- The joint of the regions tells which they are. -/
theorem regions_of_extract {document document' normalized normalized' joint : List Char}
    {anchors anchors' : List String} (is_text : normalize document = some normalized)
    (is_text' : normalize document' = some normalized')
    (filled : ∀ anchor ∈ anchors, anchor.toList ≠ [])
    (filled' : ∀ anchor ∈ anchors', anchor.toList ≠ []) (anchored : anchors ≠ [])
    (anchored' : anchors' ≠ []) (read : extract normalized anchors = .ok joint)
    (read' : extract normalized' anchors' = .ok joint) :
    ∃ windows, regions normalized anchors = .ok windows ∧
      regions normalized' anchors' = .ok windows := by
  rw [extract_eq, map_eq_ok] at read read'
  obtain ⟨windows, is_windows, is_joint⟩ := read
  obtain ⟨windows', is_windows', is_joint'⟩ := read'
  have as_many : ∀ {text : List Char} {anchors : List String} {windows : List (List Char)},
      (∀ anchor ∈ anchors, anchor.toList ≠ []) → regions text anchors = .ok windows →
      anchors ≠ [] → windows ≠ [] := by
    rintro text anchors windows filled is_windows anchored rfl
    have := ((regions_eq_ok filled).mp is_windows).length_eq
    exact anchored (List.length_eq_zero_iff.mp this)
  have same : windows = windows' :=
    intercalate_inj (as_many filled is_windows anchored) (as_many filled' is_windows' anchored')
      (not_mem_region filled (not_mem_of_normalize is_text) is_windows)
      (not_mem_region filled' (not_mem_of_normalize is_text') is_windows')
      (is_joint.trans is_joint'.symm)
  exact ⟨windows, is_windows, same ▸ is_windows'⟩

/-! ## What a check is worth -/

/-- The properties of the evidence behind an accepted pin. -/
structure EvidenceHolds (sha256 : List UInt8 → Vector UInt8 32) (isDate : String → Bool)
    (subject : String) (pin : RetentionPin) : Prop where
  /-- No document makes the reduction run on, or cut a character. -/
  total : ∀ document, ∃ normalized, normalize document = some normalized
  /-- Of a page made of pieces the visible text is left, exactly where no entity is doubly
      encoded. -/
  visible : ∀ document : Document,
    normalize document.render = some document.visible ↔ ¬ DoublyEncoded document.texts
  /-- Two such pages that read differently are told apart. -/
  apart : ∀ document document' : Document, ¬ DoublyEncoded document.texts →
    ¬ DoublyEncoded document'.texts → document.visible ≠ document'.visible →
    normalize document.render ≠ normalize document'.render
  /-- An unchanged verdict is evident exactly where the anchors tell. -/
  evident : pin.sourceExtractAnchors ≠ [] → ∀ document normalized,
    normalize document = some normalized →
    ((∀ digest, Accepted isDate subject { pin with sourceSha256 := digest } →
      verdict sha256 subject { pin with sourceSha256 := digest } document = some .unchanged →
        Evident sha256 { pin with sourceSha256 := digest } normalized) ↔
      AnchorsTell normalized pin.sourceExtractAnchors)
  /-- The joint of the regions tells which they are. -/
  joined : pin.sourceExtractAnchors ≠ [] → ∀ subject' pin', Accepted isDate subject' pin' →
    pin'.sourceExtractAnchors ≠ [] → ∀ document document' normalized normalized' joint,
    normalize document = some normalized → normalize document' = some normalized' →
    extract normalized pin.sourceExtractAnchors = .ok joint →
    extract normalized' pin'.sourceExtractAnchors = .ok joint →
    ∃ windows, regions normalized pin.sourceExtractAnchors = .ok windows ∧
      regions normalized' pin'.sourceExtractAnchors = .ok windows
  /-- Text before the first anchor comes and goes without a change of the verdict. -/
  steady : pin.sourceExtractAnchors ≠ [] → ∀ document document' before before' rest,
    normalize document = some (before ++ rest) → normalize document' = some (before' ++ rest) →
    (∀ anchor ∈ pin.sourceExtractAnchors, ∀ i < before.length,
      ¬ Occurs anchor.toList (before ++ rest) i) →
    (∀ anchor ∈ pin.sourceExtractAnchors, ∀ i < before'.length,
      ¬ Occurs anchor.toList (before' ++ rest) i) →
    verdict sha256 subject pin document = verdict sha256 subject pin document'

/-- Evidence passes silently only through a doubly encoded entity, or through anchors all of whose
    occurrences overlap. -/
theorem retention_evidence (sha256 : List UInt8 → Vector UInt8 32) {isDate : String → Bool}
    {subject : String} {pin : RetentionPin} (accepted : Accepted isDate subject pin) :
    EvidenceHolds sha256 isDate subject pin where
  total document := Option.isSome_iff_exists.mp (normalize_isSome document)
  visible := normalize_visible_iff
  apart document document' single single' differ same := by
    rw [(normalize_visible_iff document).mpr single,
      (normalize_visible_iff document').mpr single', Option.some.injEq] at same
    exact differ same
  evident anchored _ _ is_text := evident_iff sha256 accepted is_text anchored
  joined anchored _ _ accepted' anchored' _ _ _ _ _ is_text is_text' :=
    regions_of_extract is_text is_text' accepted.anchors accepted'.anchors anchored anchored'
  steady anchored _ _ _ _ _ is_text is_text' :=
    verdict_congr sha256 accepted anchored is_text is_text'

/-! ### Two pages that pass -/

/-- A pin on the phrase `none, none`. -/
def phrasePin : RetentionPin where
  posture := .zero
  description := "no retention"
  sourceUrl := "https://example.com/retention"
  verified := "2026-01-01"
  sourceSha256 := "e3b0c44298fc1c149afbf4c8996fb92427ae41e4649b934ca495991b7852b855"
  sourceExtractAnchors := ["none, none"]

theorem phrasePin_accepted : Accepted (fun raw => raw = "2026-01-01") "openai" phrasePin := by
  unfold Accepted
  decide +kernel

/-- No bytes, and their digest. -/
def emptyDigest : List UInt8 → Vector UInt8 32 := fun _ =>
  #v[0xe3, 0xb0, 0xc4, 0x42, 0x98, 0xfc, 0x1c, 0x14, 0x9a, 0xfb, 0xf4, 0xc8, 0x99, 0x6f, 0xb9, 0x24,
    0x27, 0xae, 0x41, 0xe4, 0x64, 0x9b, 0x93, 0x4c, 0xa4, 0x95, 0x99, 0x1b, 0x78, 0x52, 0xb8, 0x55]

theorem retention_evidence_phrase :
    EvidenceHolds emptyDigest (fun raw => raw = "2026-01-01") "openai" phrasePin :=
  retention_evidence emptyDigest phrasePin_accepted

/-- A page that quotes an entity. -/
def quoting : Document := ⟨⟨"&amp;lt;".toList, by decide⟩, []⟩

/-- A page on which the phrase overlaps itself. -/
def page : List Char := "<p>Retained: none, none, none.</p>".toList

theorem normalize_page : normalize page = some "Retained: none, none, none.".toList := by
  decide +kernel

theorem regions_page :
    regions "Retained: none, none, none.".toList phrasePin.sourceExtractAnchors =
      .ok ["none, none, none.".toList] := by
  decide +kernel

/-- A quoted entity is read as the character itself; and whatever the digest of the page, a pin that
    holds it is unchanged on an anchor that stands twice. -/
theorem retention_evidence_passes_silently :
    normalize quoting.render ≠ some quoting.visible ∧
      ∀ sha256, ∃ digest,
        Accepted (fun raw => raw = "2026-01-01") "openai"
          { phrasePin with sourceSha256 := digest } ∧
        verdict sha256 "openai" { phrasePin with sourceSha256 := digest } page =
          some .unchanged ∧
        ¬ Evident sha256 { phrasePin with sourceSha256 := digest }
          "Retained: none, none, none.".toList := by
  refine ⟨fun same => ?_, fun sha256 => ?_⟩
  · refine (normalize_visible_iff quoting).mp same ?_
    unfold DoublyEncoded Doubled
    decide +kernel
  · have joined := isPinned_self sha256 phrasePin
      (extractJoin.intercalate ["none, none, none.".toList])
    refine ⟨String.ofList (hash sha256 (extractJoin.intercalate ["none, none, none.".toList])),
      phrasePin_accepted.withDigest ?_ fun c => mem_hexEncode, ?_, ?_⟩
    · rw [hash, length_hexEncode, Vector.length_toList]
    · rw [verdict_anchored sha256 normalize_page (List.cons_ne_nil _ _), regions_page]
      dsimp only
      rw [if_pos joined]
    · rintro ⟨once, -⟩
      obtain ⟨i, -, only⟩ := once "none, none" (List.mem_singleton_self _)
      have first := only 10 (by decide +kernel)
      have second := only 16 (by decide +kernel)
      omega

end ZeroRouter.Retention
