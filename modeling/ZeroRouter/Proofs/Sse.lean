import ZeroRouter.Wire.Sse

/-!
# How the network cut the bytes is not visible in the events

What `drain_sse_payloads` has returned and kept back after any chunks is what it would
have made of their bytes at once: the longest decodable prefix, cut at its blank lines.
-/

namespace ZeroRouter.Wire

open Incremental

/-- A text cut at its blank lines: the blocks they end, and the tail none ends. -/
inductive Cut : List Char → List (List Char) → List Char → Prop
  | tail {text : List Char} : (∀ i, ¬ BlankAt text i) → Cut text [] text
  | block {block delimiter rest tail : List Char} {blocks : List (List Char)} :
      delimiter ∈ delimiters → (∀ i < block.length, ¬ BlankAt (block ++ delimiter ++ rest) i) →
      Cut rest blocks tail → Cut (block ++ delimiter ++ rest) (block :: blocks) tail

theorem cut_of_reads {text tail : List Char} {blocks : List (List Char)}
    (h : events.Reads text blocks tail) (wait : nextEvent tail = .ok none) :
    Cut text blocks tail := by
  induction h with
  | done text =>
      apply Cut.tail
      unfold nextEvent at wait
      split at wait
      · next none_found => exact findEventBoundary_eq_none.mp none_found
      · cases wait
  | item head _ ih =>
      obtain ⟨delimiter, mem, rfl, first⟩ := nextEvent_eq_some.mp head
      exact .block mem first (ih wait)

/-- What all the bytes give at once. -/
def payloadsOf (stream : List UInt8) : List String × SseBuffers :=
  let decoded := Utf8.characters.drain stream
  let drained := events.drain decoded.items
  (drained.items.filterMap eventPayload, ⟨decoded.rest, drained.rest⟩)

theorem payloadsOf_nil : payloadsOf [] = ([], .empty) := by decide +kernel

theorem payloadsOf_append (stream chunk : List UInt8) :
    payloadsOf (stream ++ chunk) =
      let (payloads, kept) := payloadsOf stream
      let decoded := Utf8.characters.drain (kept.rawBuffer ++ chunk)
      let drained := events.drain (kept.buffer ++ decoded.items)
      (payloads ++ drained.items.filterMap eventPayload, ⟨decoded.rest, drained.rest⟩) := by
  simp only [payloadsOf]
  rw [Decoder.drain_append stream chunk]
  simp only [Drained.after]
  rw [Decoder.drain_append (Utf8.characters.drain stream).items]
  simp only [Drained.after, List.filterMap_append]

theorem events_error (text : List Char) : (events.drain text).error = none := by
  cases h : (events.drain text).error with
  | none => rfl
  | some e => exact e.elim

/-- The two levels of the batch, as a cut of the longest decodable prefix. -/
theorem payloadsOf_spec (stream : List UInt8) :
    ∃ text blocks, stream = Utf8.encode text ++ (payloadsOf stream).2.rawBuffer ∧
      (∀ text' rest, stream = Utf8.encode text' ++ rest → text' <+: text) ∧
      Cut text blocks (payloadsOf stream).2.buffer ∧
      (payloadsOf stream).1 = blocks.filterMap eventPayload := by
  refine ⟨(Utf8.characters.drain stream).items,
    (events.drain (Utf8.characters.drain stream).items).items,
    Utf8.drain_eq stream, fun _ _ => Utf8.prefix_drain, ?_, rfl⟩
  obtain ⟨reads, verdict⟩ := events.reads_drain (Utf8.characters.drain stream).items
  rw [events_error] at verdict
  exact cut_of_reads reads verdict

/-- A call goes on from what the bytes before it left. -/
theorem drainSsePayloads_step {stream chunk : List UInt8} {buffers : SseBuffers}
    {payloads : List String}
    (h : drainSsePayloads (payloadsOf stream).2 chunk = (buffers, .ok payloads)) :
    payloadsOf (stream ++ chunk) = ((payloadsOf stream).1 ++ payloads, buffers) ∧
      buffers.retained ≤ maxSseEventBytes := by
  rw [payloadsOf_append]
  simp only [drainSsePayloads, Prod.mk.injEq] at h
  obtain ⟨rfl, h⟩ := h
  split_ifs at h with size
  cases h
  exact ⟨rfl, by omega⟩

/-- Chunks without an error give what their bytes give at once, after each of them. -/
theorem drainChunks_spec {chunks : List (List UInt8)} :
    ∀ {stream : List UInt8} {payloads : List String} {kept : SseBuffers},
      (payloadsOf stream).2.retained ≤ maxSseEventBytes →
      drainChunks (payloadsOf stream).2 chunks = .ok (payloads, kept) →
      payloadsOf (stream ++ chunks.flatten) = ((payloadsOf stream).1 ++ payloads, kept) ∧
        kept.retained ≤ maxSseEventBytes := by
  induction chunks with
  | nil =>
      intro stream payloads kept small h
      simp only [drainChunks, Except.ok.injEq, Prod.mk.injEq] at h
      obtain ⟨rfl, rfl⟩ := h
      simpa using small
  | cons chunk chunks ih =>
      intro stream payloads kept small h
      rw [drainChunks] at h
      split at h
      · cases h
      · next buffers first call =>
        obtain ⟨onward, small⟩ := drainSsePayloads_step call
        have hbuffers : buffers = (payloadsOf (stream ++ chunk)).2 := by rw [onward]
        cases later : drainChunks buffers chunks with
        | error e =>
            rw [later] at h
            cases h
        | ok result =>
            obtain ⟨rest, last⟩ := result
            rw [later] at h
            simp only [Except.map, Except.ok.injEq, Prod.mk.injEq] at h
            obtain ⟨rfl, rfl⟩ := h
            rw [hbuffers] at later small
            obtain ⟨whole, bound⟩ := ih small later
            rw [List.flatten_cons, ← List.append_assoc, whole, onward]
            exact ⟨by simp, bound⟩

/-- A call that succeeds after calls that did. -/
theorem drainChunks_append {before after : List (List UInt8)} :
    ∀ {buffers kept : SseBuffers} {payloads : List String},
      drainChunks buffers (before ++ after) = .ok (payloads, kept) →
      ∃ first between later, drainChunks buffers before = .ok (first, between) ∧
        drainChunks between after = .ok (later, kept) ∧ payloads = first ++ later := by
  induction before with
  | nil =>
      intro buffers kept payloads h
      exact ⟨[], buffers, payloads, rfl, h, rfl⟩
  | cons chunk before ih =>
      intro buffers kept payloads h
      rw [List.cons_append, drainChunks] at h
      rw [drainChunks]
      split at h
      · cases h
      · next next here call =>
        cases hrest : drainChunks next (before ++ after) with
        | error e =>
            rw [hrest] at h
            cases h
        | ok result =>
            obtain ⟨rest, last⟩ := result
            rw [hrest] at h
            simp only [Except.map, Except.ok.injEq, Prod.mk.injEq] at h
            obtain ⟨rfl, rfl⟩ := h
            obtain ⟨first, between, later, hfirst, hlater, rfl⟩ := ih hrest
            exact ⟨here ++ first, between, later, by rw [hfirst]; rfl, hlater, by simp⟩

end ZeroRouter.Wire
