import ZeroRouter.Lib.Utf8
import ZeroRouter.Wire.Stream
import ZeroRouter.Wire.Message

/-!
# Server-sent events off the network

`src/router/src/wire/mod.rs`: `drain_sse_payloads`.  The bytes of a chunk are decoded
up to the last whole character; the text is cut at the first blank line, LF or CRLF,
as long as there is one; a block's payload is its `data:` lines.
-/

namespace ZeroRouter.Wire

open List Incremental Option

variable {text d : List Char} {i : Nat}

def maxSseEventBytes : Nat := 4 * 1024 * 1024

/-- The bytes no character is complete in, and the text no blank line ends. -/
structure SseBuffers where
  rawBuffer : List UInt8
  buffer : List Char
  deriving DecidableEq, Repr

namespace SseBuffers

def empty : SseBuffers := ⟨[], []⟩

/-- `buffer.len() + raw_buffer.len()`. -/
def retained (buffers : SseBuffers) : Nat :=
  (Utf8.encode buffers.buffer).length + buffers.rawBuffer.length

end SseBuffers

/-- `str::find`. -/
def findText (pattern : List Char) : List Char → Option Nat
  | [] => if pattern = [] then some 0 else none
  | c :: rest =>
      if pattern.isPrefixOf (c :: rest) then some 0 else (findText pattern rest).map (· + 1)

/-- Where the next event ends and how long its delimiter is: LF-LF or CRLF-CRLF,
    whichever comes first. -/
def findEventBoundary (buffer : List Char) : Option (Nat × Nat) :=
  let lf := (findText ['\n', '\n'] buffer).map fun start => (start, 2)
  let crlf := (findText ['\r', '\n', '\r', '\n'] buffer).map fun start => (start, 4)
  match lf, crlf with
  | some lf, some crlf =>
      if crlf.1 + 2 = lf.1 then some crlf else if crlf.1 < lf.1 then some crlf else some lf
  | only, none => only
  | none, only => only

/-- The next event's text, and the buffer it is drained from. -/
def nextEvent (buffer : List Char) : Except Empty (Option (List Char × List Char)) :=
  match findEventBoundary buffer with
  | none => .ok none
  | some (boundary, delimiterLen) =>
      .ok (some (buffer.take boundary, buffer.drop (boundary + delimiterLen)))

/-! ## Blank lines -/

/-- The two blank lines that end an event. -/
def delimiters : List (List Char) := [['\n', '\n'], ['\r', '\n', '\r', '\n']]

/-- A blank line starts here. -/
def BlankAt (text : List Char) (i : Nat) : Prop := ∃ d ∈ delimiters, d <+: text.drop i

theorem cons_prefix_drop {c : Char} :
    c :: d <+: text.drop i ↔ text[i]? = some c ∧ d <+: text.drop (i + 1) := by
  rw [← head?_drop, ← tail_drop]
  cases text.drop i with
  | nil => simp
  | cons x rest => simp [cons_prefix_cons, eq_comm]

theorem blankAt_iff :
    BlankAt text i ↔
      (text[i]? = some '\n' ∧ text[i + 1]? = some '\n') ∨
      (text[i]? = some '\r' ∧ text[i + 1]? = some '\n' ∧ text[i + 2]? = some '\r' ∧
        text[i + 3]? = some '\n') := by
  simp [BlankAt, delimiters, cons_prefix_drop]

theorem findText_eq_some {pattern : List Char} (h : pattern ≠ []) :
    findText pattern text = some i ↔
      pattern <+: text.drop i ∧ ∀ j < i, ¬ pattern <+: text.drop j := by
  induction text generalizing i with
  | nil => simp [findText, h]
  | cons c rest ih =>
      rw [findText]
      by_cases here : pattern <+: c :: rest
      · rw [if_pos (List.isPrefixOf_iff_prefix.mpr here)]
        constructor
        · rintro ⟨⟩
          exact ⟨here, fun j hj => absurd hj (by omega)⟩
        · rintro ⟨-, first⟩
          cases i with
          | zero => rfl
          | succ i => exact absurd here (first 0 (by omega))
      · rw [if_neg (by simpa using here), map_eq_some_iff]
        constructor
        · rintro ⟨i, hi, rfl⟩
          obtain ⟨at_i, first⟩ := ih.mp hi
          refine ⟨at_i, fun j hj => ?_⟩
          cases j with
          | zero => exact here
          | succ j => exact first j (by omega)
        · rintro ⟨at_i, first⟩
          cases i with
          | zero => exact absurd at_i here
          | succ i => exact ⟨i, ih.mpr ⟨at_i, fun j hj => first (j + 1) (by omega)⟩, rfl⟩

theorem findText_eq_none {pattern : List Char} (h : pattern ≠ []) :
    findText pattern text = none ↔ ∀ j, ¬ pattern <+: text.drop j := by
  constructor
  · intro hnone j
    induction j using Nat.strong_induction_on with
    | _ j ih =>
        intro found
        rw [(findText_eq_some h).mpr ⟨found, ih⟩] at hnone
        cases hnone
  · intro hnone
    cases hfound : findText pattern text with
    | none => rfl
    | some i => exact absurd ((findText_eq_some h).mp hfound).1 (hnone i)

/-- The two delimiters cannot start at one place. -/
theorem not_both_at (h : ['\n', '\n'] <+: text.drop i) :
    ¬ ['\r', '\n', '\r', '\n'] <+: text.drop i := by
  intro h'
  have hn := (cons_prefix_drop.mp h).1
  rw [(cons_prefix_drop.mp h').1] at hn
  exact absurd hn (by decide)

theorem findEventBoundary_eq_none :
    findEventBoundary text = none ↔ ∀ j, ¬ BlankAt text j := by
  have hlf : findText ['\n', '\n'] text = none ↔ ∀ j, ¬ ['\n', '\n'] <+: text.drop j :=
    findText_eq_none (by simp)
  have hcrlf : findText ['\r', '\n', '\r', '\n'] text = none ↔
      ∀ j, ¬ ['\r', '\n', '\r', '\n'] <+: text.drop j :=
    findText_eq_none (by simp)
  have both : (∀ j, ¬ BlankAt text j) ↔
      findText ['\n', '\n'] text = none ∧ findText ['\r', '\n', '\r', '\n'] text = none := by
    rw [hlf, hcrlf, ← forall_and]
    simp [BlankAt, delimiters]
  rw [both, findEventBoundary]
  cases findText ['\n', '\n'] text <;> cases findText ['\r', '\n', '\r', '\n'] text <;>
    simp only [map_some, map_none, reduceCtorEq, and_false, false_and, and_self,
      iff_false]
  split_ifs <;> simp

theorem findEventBoundary_of_first (mem : d ∈ delimiters) (here : d <+: text.drop i)
    (first : ∀ j < i, ¬ BlankAt text j) :
    findEventBoundary text = some (i, d.length) := by
  have apart : ∀ d' ∈ delimiters, ∀ k, findText d' text = some k → d' ≠ [] → i ≤ k := by
    intro d' mem' k found hne
    by_contra hlt
    exact first k (by omega) ⟨d', mem', ((findText_eq_some hne).mp found).1⟩
  simp only [delimiters, mem_cons, not_mem_nil, or_false] at mem
  rcases mem with rfl | rfl
  · have lf : findText ['\n', '\n'] text = some i :=
      (findText_eq_some (by simp)).mpr
        ⟨here, fun j hj found => first j hj ⟨_, by simp [delimiters], found⟩⟩
    simp only [findEventBoundary, lf, map_some]
    cases crlf : findText ['\r', '\n', '\r', '\n'] text with
    | none => rfl
    | some k =>
        have := apart _ (by simp [delimiters]) k crlf (by simp)
        simp only [map_some]
        rw [if_neg (by omega), if_neg (by omega)]
        rfl
  · have crlf : findText ['\r', '\n', '\r', '\n'] text = some i :=
      (findText_eq_some (by simp)).mpr
        ⟨here, fun j hj found => first j hj ⟨_, by simp [delimiters], found⟩⟩
    simp only [findEventBoundary, crlf, map_some]
    cases lf : findText ['\n', '\n'] text with
    | none => rfl
    | some k =>
        have hle := apart _ (by simp [delimiters]) k lf (by simp)
        have hne : k ≠ i := by
          rintro rfl
          exact not_both_at ((findText_eq_some (by simp)).mp lf).1 here
        simp only [map_some]
        split_ifs
        · rfl
        · rfl
        · omega

/-- The boundary found is a blank line, and none starts before it. -/
theorem findEventBoundary_eq_some {n : Nat} :
    findEventBoundary text = some (i, n) ↔
      (∃ d ∈ delimiters, n = d.length ∧ d <+: text.drop i) ∧ ∀ j < i, ¬ BlankAt text j := by
  constructor
  · intro found
    have some_blank : ∃ j, BlankAt text j := by
      by_contra hno
      rw [findEventBoundary_eq_none.mpr (not_exists.mp hno)] at found
      cases found
    classical
    obtain ⟨d, mem, here⟩ := Nat.find_spec some_blank
    have first : ∀ j < Nat.find some_blank, ¬ BlankAt text j :=
      fun j hj => Nat.find_min some_blank hj
    rw [findEventBoundary_of_first mem here first] at found
    simp only [some.injEq, Prod.mk.injEq] at found
    obtain ⟨rfl, rfl⟩ := found
    exact ⟨⟨d, mem, rfl, here⟩, first⟩
  · rintro ⟨⟨d, mem, rfl, here⟩, first⟩
    exact findEventBoundary_of_first mem here first

/-- What is first in the text that has arrived is first in all that may follow: a
    CRLF-CRLF cut off by its end would overlap the LF-LF. -/
theorem blankAt_append_of_first {more : List Char} (mem : d ∈ delimiters)
    (here : d <+: text.drop i) (first : ∀ j < i, ¬ BlankAt text j) :
    ∀ j < i, ¬ BlankAt (text ++ more) j := by
  intro j hj blank
  apply first j hj
  have hlen : d.length + i ≤ text.length := by
    have := here.length_le
    have : d ≠ [] := by rintro rfl; simp [delimiters] at mem
    have := length_pos_iff.mpr this
    rw [length_drop] at *
    omega
  simp only [delimiters, mem_cons, not_mem_nil, or_false] at mem
  rw [blankAt_iff] at blank ⊢
  rcases blank with ⟨h0, h1⟩ | ⟨h0, h1, h2, h3⟩
  · have hd : 2 ≤ d.length := by rcases mem with rfl | rfl <;> simp
    rw [getElem?_append_left (by omega)] at h0 h1
    exact .inl ⟨h0, h1⟩
  · rcases mem with rfl | rfl
    · simp only [length_cons, length_nil] at hlen
      rw [getElem?_append_left (by omega)] at h0 h1 h2
      by_cases hi : i = j + 1
      · -- the LF-LF would have to be the CRLF's LF and the CR after it
        subst hi
        have := (cons_prefix_drop.mp (cons_prefix_drop.mp here).2).1
        rw [h2] at this
        exact absurd this (by decide)
      · rw [getElem?_append_left (by omega)] at h3
        exact .inr ⟨h0, h1, h2, h3⟩
    · simp only [length_cons, length_nil] at hlen
      rw [getElem?_append_left (by omega)] at h0 h1 h2 h3
      exact .inr ⟨h0, h1, h2, h3⟩

/-- An event taken off the head is the text before the first blank line, which it
    leaves behind. -/
theorem nextEvent_eq_some {raw rest : List Char} :
    nextEvent text = .ok (some (raw, rest)) ↔
      ∃ d ∈ delimiters, text = raw ++ d ++ rest ∧ ∀ j < raw.length, ¬ BlankAt text j := by
  constructor
  · intro h
    unfold nextEvent at h
    split at h
    · cases h
    · next boundary delimiterLen found =>
      obtain ⟨⟨d, mem, rfl, here⟩, first⟩ := findEventBoundary_eq_some.mp found
      simp only [Except.ok.injEq, some.injEq, Prod.mk.injEq] at h
      obtain ⟨rfl, rfl⟩ := h
      obtain ⟨after, hafter⟩ := here
      have hle : boundary ≤ text.length := by
        by_contra hgt
        rw [drop_eq_nil_of_le (by omega), append_eq_nil_iff] at hafter
        rw [hafter.1] at mem
        simp [delimiters] at mem
      refine ⟨d, mem, ?_, by rwa [length_take_of_le hle]⟩
      rw [← drop_drop, ← hafter, drop_left, append_assoc, hafter,
        take_append_drop]
  · rintro ⟨d, mem, rfl, first⟩
    have here : d <+: (raw ++ d ++ rest).drop raw.length := by
      rw [append_assoc, drop_left]
      exact prefix_append d rest
    have hdrop : (raw ++ d ++ rest).drop (raw.length + d.length) = rest := by
      rw [← length_append, drop_left]
    simp only [nextEvent, findEventBoundary_of_first mem here first, hdrop]
    rw [append_assoc, take_left]

/-- The events at the head of a text. -/
def events : Decoder Char (List Char) Empty where
  head := nextEvent
  shrinks h := by
    obtain ⟨d, mem, rfl, -⟩ := nextEvent_eq_some.mp h
    have : 0 < d.length := by
      simp only [delimiters, List.mem_cons, List.not_mem_nil, or_false] at mem
      rcases mem with rfl | rfl <;> simp
    simp only [List.length_append]
    omega
  item_append more h := by
    obtain ⟨d, mem, rfl, first⟩ := nextEvent_eq_some.mp h
    rw [nextEvent_eq_some]
    refine ⟨d, mem, by simp, ?_⟩
    refine blankAt_append_of_first mem ?_ first
    rw [List.append_assoc, List.drop_left]
    exact List.prefix_append d _
  bad_append {_ e} _ _ := e.elim

/-! ## Payloads -/

/-- `str::split_inclusive` at line feeds. -/
def splitInclusive : List Char → List (List Char)
  | [] => []
  | c :: rest =>
      if c = '\n' then [c] :: splitInclusive rest
      else
        match splitInclusive rest with
        | [] => [[c]]
        | line :: lines => (c :: line) :: lines

/-- `str::strip_suffix` of one character. -/
def stripLast (c : Char) (text : List Char) : Option (List Char) :=
  if text.getLast? = some c then some text.dropLast else none

/-- `str::lines`: a line ends with LF or CRLF, which is not part of it. -/
def lines (text : List Char) : List (List Char) :=
  (splitInclusive text).map fun line =>
    match stripLast '\n' line with
    | none => line
    | some line => (stripLast '\r' line).getD line

/-- What an event's `data:` lines carry. -/
def eventData (raw : List Char) : String :=
  "\n".intercalate <|
    ((lines raw).map fun line => (stripLast '\r' line).getD line).filterMap fun line =>
      (stripPrefix "data:" (String.ofList line)).map fun data =>
        String.ofList (data.toList.dropWhile isWhiteSpace)

/-- An event without data is no payload. -/
def eventPayload (raw : List Char) : Option String :=
  if eventData raw = "" then none else some (eventData raw)

def sseTooLong : StreamError :=
  .invalidSse s!"upstream SSE event exceeded {maxSseEventBytes} bytes without terminating"

/-- `drain_sse_payloads`: the buffers a chunk leaves, and its payloads or the error. -/
def drainSsePayloads (buffers : SseBuffers) (chunk : List UInt8) :
    SseBuffers × Except StreamError (List String) :=
  let decoded := Utf8.characters.drain (buffers.rawBuffer ++ chunk)
  let drained := events.drain (buffers.buffer ++ decoded.items)
  let buffers : SseBuffers := ⟨decoded.rest, drained.rest⟩
  -- only an unterminated tail is fatal, so the size is checked after draining
  (buffers,
    if maxSseEventBytes < buffers.retained then .error sseTooLong
    else .ok (drained.items.filterMap eventPayload))

/-- A call for each chunk, up to the first that reports an error. -/
def drainChunks (buffers : SseBuffers) :
    List (List UInt8) → Except StreamError (List String × SseBuffers)
  | [] => .ok ([], buffers)
  | chunk :: chunks =>
      match drainSsePayloads buffers chunk with
      | (_, .error error) => .error error
      | (buffers, .ok payloads) =>
          (drainChunks buffers chunks).map fun (later, kept) => (payloads ++ later, kept)

end ZeroRouter.Wire
