import ZeroRouter.Lib.BigEndian
import ZeroRouter.Lib.SortedMap
import ZeroRouter.Lib.Table
import ZeroRouter.Lib.Utf8
import Mathlib.Data.String.Basic

/-!
# Event stream framing

`src/router/src/wire/eventstream.rs`: `EventStreamDecoder` turns the bytes of
`application/vnd.amazon.eventstream` into headers and payloads.  Every index into the
buffer is a slice that panics out of range.  `src/router/src/wire/bedrock_runtime.rs`:
the loop that feeds it network chunks and ends with its first error.

The checksum is a parameter; `crc32` is the one the source uses.
-/

namespace ZeroRouter.Wire.EventStream

open Incremental Relational List

variable {buffer : List UInt8} {start : Nat} {checksum : List UInt8 → UInt32}

/-- `MAX_EVENTSTREAM_PAYLOAD_BYTES`. -/
def maxPayloadBytes : Nat := 25165824

/-- `MAX_EVENTSTREAM_HEADER_BYTES`. -/
def maxHeaderBytes : Nat := 131072

def frameOverheadBytes : Nat := 16

def maxFrameBytes : Nat := frameOverheadBytes + maxHeaderBytes + maxPayloadBytes

/-! ## The checksum -/

/-- One bit of a reflected CRC-32. -/
def crc32Bit (crc : UInt32) : UInt32 :=
  if crc &&& 1 = 1 then (crc >>> 1) ^^^ 0xEDB88320 else crc >>> 1

def crc32Byte (crc : UInt32) (byte : UInt8) : UInt32 :=
  crc32Bit <| crc32Bit <| crc32Bit <| crc32Bit <| crc32Bit <| crc32Bit <| crc32Bit <| crc32Bit <|
    crc ^^^ byte.toUInt32

/-- `CRC_32_ISO_HDLC`. -/
def crc32 (bytes : List UInt8) : UInt32 := bytes.foldl crc32Byte 0xFFFFFFFF ^^^ 0xFFFFFFFF

/-- The published check value, over "123456789". -/
example : crc32 [49, 50, 51, 52, 53, 54, 55, 56, 57] = 0xCBF43926 := by decide +kernel

/-! ## Errors -/

inductive EventStreamError where
  | preludeChecksum (declared computed : UInt32)
  | messageChecksum (declared computed : UInt32)
  | length (detail : String)
  | headers (detail : String)
  deriving DecidableEq, Repr

/-- How a call can fail: an index out of range, or an error. -/
inductive Failure where
  | panicked
  | refused (error : EventStreamError)
  deriving DecidableEq, Repr

/-- `&bytes[start..stop]`. -/
def slice (bytes : List UInt8) (start stop : Nat) : Except Failure (List UInt8) :=
  if start ≤ stop ∧ stop ≤ bytes.length then .ok ((bytes.take stop).drop start)
  else .error .panicked

/-! ## Headers -/

/-- `split_first`. -/
def splitFirst (bytes : List UInt8) (count : Nat) (field : String) :
    Except EventStreamError (List UInt8 × List UInt8) :=
  if bytes.length < count then
    .error (.headers
      s!"headers section ended mid-{field}: wanted {count} bytes, {bytes.length} remain")
  else .ok (bytes.take count, bytes.drop count)

/-- `std::str::from_utf8`. -/
def fromUtf8 (bytes : List UInt8) (detail : String) : Except EventStreamError String :=
  match Utf8.decode? bytes with
  | some text => .ok text
  | none => .error (.headers detail)

/-- A value skipped by its width. -/
def skipValue (rest : List UInt8) (width : Nat) (field : String) :
    Except EventStreamError (Option String × List UInt8) := do
  let (_, rest) ← splitFirst rest width field
  return (none, rest)

/-- A value behind its two-byte length. -/
def countedValue (rest : List UInt8) : Except EventStreamError (List UInt8 × List UInt8) := do
  let (length, rest) ← splitFirst rest 2 "header value length"
  splitFirst rest (BigEndian.ofBytes length) "header value"

/-- The value of a header, kept when it is a string, and what follows it. -/
def parseValue (name : String) (kind : UInt8) (rest : List UInt8) :
    Except EventStreamError (Option String × List UInt8) :=
  match kind.toNat with
  | 0 | 1 => .ok (none, rest)
  | 2 => skipValue rest 1 "byte header value"
  | 3 => skipValue rest 2 "short header value"
  | 4 => skipValue rest 4 "integer header value"
  | 5 | 8 => skipValue rest 8 "64-bit header value"
  | 9 => skipValue rest 16 "uuid header value"
  | 6 => do
      let (_, rest) ← countedValue rest
      return (none, rest)
  | 7 => do
      let (value, rest) ← countedValue rest
      let value ← fromUtf8 value s!"header {name} is typed string but is not valid UTF-8"
      return (some value, rest)
  | unknown => .error (.headers
      (s!"header {name} has unknown value type {unknown}, whose width is unknown, " ++
        "so the rest of the headers section cannot be located"))

/-- One entry of the headers section: its name, its string value, and what follows. -/
def parseEntry (bytes : List UInt8) :
    Except EventStreamError (String × Option String × List UInt8) := do
  let (nameLength, rest) ← splitFirst bytes 1 "header name length"
  ensure (BigEndian.ofBytes nameLength ≠ 0)
    (.headers "a header name is zero bytes long; names must be at least one byte")
  let (name, rest) ← splitFirst rest (BigEndian.ofBytes nameLength) "header name"
  let name ← fromUtf8 name "a header name is not valid UTF-8"
  let (valueType, rest) ← splitFirst rest 1 "header value type"
  let (value, rest) ← parseValue name (UInt8.ofNat (BigEndian.ofBytes valueType)) rest
  return (name, value, rest)

/-- The string headers by name; of two under one name the later one. -/
abbrev Headers := Ordered.SortedMap String String

/-- `headers.insert`, of a string value. -/
def keep (headers : Headers) (name : String) : Option String → Headers
  | none => headers
  | some value => headers.insert name value

/-- The loop of `parse_headers`; an entry takes at least one byte. -/
def parseHeadersFuel : Nat → List UInt8 → Headers → Except EventStreamError Headers
  | 0, _, headers => .ok headers
  | fuel + 1, bytes, headers =>
      if bytes.isEmpty then .ok headers
      else
        match parseEntry bytes with
        | .error error => .error error
        | .ok (name, value, rest) => parseHeadersFuel fuel rest (keep headers name value)

def parseHeaders (bytes : List UInt8) : Except EventStreamError Headers :=
  parseHeadersFuel bytes.length bytes .empty

/-! ## Frames -/

/-- `EventStreamMessage`. -/
structure Message where
  headers : Headers
  payload : List UInt8
  deriving DecidableEq

/-- `u32::from_be_bytes` of four bytes of the buffer. -/
def readU32 (buffer : List UInt8) (start : Nat) : Except Failure UInt32 :=
  (slice buffer start (start + 4)).map fun bytes => UInt32.ofNat (BigEndian.ofBytes bytes)

/-- A refusal, as a failure of the call. -/
def refuse {α : Type} : Except EventStreamError α → Except Failure α :=
  Except.mapError .refused

/-- `take_frame`: the frame at the head of the buffer and the buffer drained of it. -/
def takeFrame (checksum : List UInt8 → UInt32) (buffer : List UInt8) :
    Except Failure (Option (Message × List UInt8)) :=
  if buffer.length < 12 then .ok none
  else do
    let totalLength ← readU32 buffer 0
    let headersLength ← readU32 buffer 4
    let declaredPreludeCrc ← readU32 buffer 8
    -- the prelude's checksum first, before either length is used
    let computedPreludeCrc := checksum (← slice buffer 0 8)
    ensure (computedPreludeCrc = declaredPreludeCrc)
      (.refused (.preludeChecksum declaredPreludeCrc computedPreludeCrc))
    let totalLength := totalLength.toNat
    let headersLength := headersLength.toNat
    ensure (totalLength ≤ maxFrameBytes) (.refused (.length
      s!"frame declares {totalLength} bytes, past the {maxFrameBytes}-byte ceiling"))
    ensure (headersLength ≤ maxHeaderBytes) (.refused (.length
      s!"frame declares {headersLength} header bytes, past the {maxHeaderBytes}-byte ceiling"))
    ensure (frameOverheadBytes + headersLength ≤ totalLength) (.refused (.length
      (s!"frame declares {totalLength} total bytes but {headersLength} header bytes, " ++
        s!"which does not leave room for the {frameOverheadBytes} bytes of framing")))
    if buffer.length < totalLength then return none
    let declaredMessageCrc ← readU32 buffer (totalLength - 4)
    let computedMessageCrc := checksum (← slice buffer 0 (totalLength - 4))
    ensure (computedMessageCrc = declaredMessageCrc)
      (.refused (.messageChecksum declaredMessageCrc computedMessageCrc))
    let headers ← refuse (parseHeaders (← slice buffer 12 (12 + headersLength)))
    let payload ← slice buffer (12 + headersLength) (totalLength - 4)
    return some (⟨headers, payload⟩, buffer.drop totalLength)

/-! ## No index is out of range -/

/-- Four bytes of a buffer that has them. -/
def u32At (buffer : List UInt8) (start : Nat) : UInt32 :=
  UInt32.ofNat (BigEndian.ofBytes ((buffer.take (start + 4)).drop start))

theorem slice_eq {bytes : List UInt8} {stop : Nat} (h : start ≤ stop) (h' : stop ≤ bytes.length) :
    slice bytes start stop = .ok ((bytes.take stop).drop start) :=
  if_pos ⟨h, h'⟩

theorem readU32_eq (h : start + 4 ≤ buffer.length) :
    readU32 buffer start = .ok (u32At buffer start) := by
  rw [readU32, slice_eq (by omega) h]
  rfl

/-- What the prelude says the lengths are, once it is believed. -/
def lengthsOf (checksum : List UInt8 → UInt32) (buffer : List UInt8) :
    Except Failure (Nat × Nat) := do
  let declared := u32At buffer 8
  let computed := checksum (buffer.take 8)
  ensure (computed = declared) (.refused (.preludeChecksum declared computed))
  let totalLength := (u32At buffer 0).toNat
  let headersLength := (u32At buffer 4).toNat
  ensure (totalLength ≤ maxFrameBytes) (.refused (.length
    s!"frame declares {totalLength} bytes, past the {maxFrameBytes}-byte ceiling"))
  ensure (headersLength ≤ maxHeaderBytes) (.refused (.length
    s!"frame declares {headersLength} header bytes, past the {maxHeaderBytes}-byte ceiling"))
  ensure (frameOverheadBytes + headersLength ≤ totalLength) (.refused (.length
    (s!"frame declares {totalLength} total bytes but {headersLength} header bytes, " ++
      s!"which does not leave room for the {frameOverheadBytes} bytes of framing")))
  return (totalLength, headersLength)

/-- The message of a whole frame. -/
def openFrame (checksum : List UInt8 → UInt32) (frame : List UInt8) (headersLength : Nat) :
    Except Failure Message := do
  let declared := u32At frame (frame.length - 4)
  let computed := checksum (frame.take (frame.length - 4))
  ensure (computed = declared) (.refused (.messageChecksum declared computed))
  let headers ← refuse (parseHeaders ((frame.take (12 + headersLength)).drop 12))
  return ⟨headers, (frame.take (frame.length - 4)).drop (12 + headersLength)⟩

theorem lengthsOf_eq_ok {total headers : Nat} :
    lengthsOf checksum buffer = .ok (total, headers) ↔
      checksum (buffer.take 8) = u32At buffer 8 ∧ total = (u32At buffer 0).toNat ∧
        headers = (u32At buffer 4).toNat ∧ total ≤ maxFrameBytes ∧ headers ≤ maxHeaderBytes ∧
        frameOverheadBytes + headers ≤ total := by
  simp only [lengthsOf, bind_eq_ok, ensure_eq_ok, exists_const, pure, Except.pure, Except.ok.injEq,
    Prod.mk.injEq]
  constructor
  · rintro ⟨h, h1, h2, h3, rfl, rfl⟩
    exact ⟨h, rfl, rfl, h1, h2, h3⟩
  · rintro ⟨h, rfl, rfl, h1, h2, h3⟩
    exact ⟨h, h1, h2, h3, rfl, rfl⟩

theorem u32At_take {n : Nat} (h : start + 4 ≤ n) :
    u32At (buffer.take n) start = u32At buffer start := by
  rw [u32At, u32At, take_take, Nat.min_eq_left h]

theorem lengthsOf_take (checksum : List UInt8 → UInt32) (buffer : List UInt8) :
    lengthsOf checksum (buffer.take 12) = lengthsOf checksum buffer := by
  simp only [lengthsOf, u32At_take (Nat.le_refl 12), u32At_take (show 4 + 4 ≤ 12 by omega),
    u32At_take (show 0 + 4 ≤ 12 by omega), take_take]
  rfl

theorem openFrame_take (checksum : List UInt8 → UInt32) {total headers : Nat}
    (whole : total ≤ buffer.length) (room : 16 + headers ≤ total) :
    openFrame checksum (buffer.take total) headers = (do
      let declared := u32At buffer (total - 4)
      let computed := checksum (buffer.take (total - 4))
      ensure (computed = declared) (.refused (.messageChecksum declared computed))
      let headersMap ← refuse (parseHeaders ((buffer.take (12 + headers)).drop 12))
      return ⟨headersMap, (buffer.take (total - 4)).drop (12 + headers)⟩) := by
  have hcrc : u32At (buffer.take total) (total - 4) = u32At buffer (total - 4) :=
    u32At_take (by omega)
  have hbody : min (total - 4) total = total - 4 := by omega
  have hheaders : min (12 + headers) total = 12 + headers := by omega
  simp only [openFrame, length_take_of_le whole, take_take, hcrc, hbody, hheaders]

/-- `take_frame` without its indices: the lengths of the prelude, then the frame of that
    length when it is there. -/
theorem takeFrame_eq (checksum : List UInt8 → UInt32) (h : 12 ≤ buffer.length) :
    takeFrame checksum buffer = (do
      let (totalLength, headersLength) ← lengthsOf checksum buffer
      if buffer.length < totalLength then return none
      let message ← openFrame checksum (buffer.take totalLength) headersLength
      return some (message, buffer.drop totalLength)) := by
  rw [takeFrame, if_neg (by omega), readU32_eq (by omega), readU32_eq (by omega),
    readU32_eq (by omega), slice_eq (by omega) (by omega)]
  simp only [lengthsOf, bind, Except.bind, drop_zero]
  by_cases hprelude : checksum (buffer.take 8) = u32At buffer 8
  · by_cases htotal : (u32At buffer 0).toNat ≤ maxFrameBytes
    · by_cases hheaders : (u32At buffer 4).toNat ≤ maxHeaderBytes
      · by_cases hroom : frameOverheadBytes + (u32At buffer 4).toNat ≤ (u32At buffer 0).toNat
        · simp only [ensure, hprelude, htotal, hheaders, hroom, if_true]
          by_cases hwhole : buffer.length < (u32At buffer 0).toNat
          · simp [hwhole, pure, Except.pure]
          · have : frameOverheadBytes = 16 := rfl
            rw [if_neg hwhole, readU32_eq (by omega), slice_eq (by omega) (by omega),
              slice_eq (by omega) (by omega), slice_eq (by omega) (by omega)]
            have opened := openFrame_take checksum (not_lt.mp hwhole)
              (show 16 + (u32At buffer 4).toNat ≤ (u32At buffer 0).toNat by omega)
            simp only [opened, ensure, if_neg hwhole, bind, Except.bind, pure, Except.pure, drop_zero]
            split_ifs
            · cases refuse (parseHeaders ((buffer.take (12 + (u32At buffer 4).toNat)).drop 12)) <;>
                rfl
            · rfl
        · simp [ensure, hprelude, htotal, hheaders, hroom]
      · simp [ensure, hprelude, htotal, hheaders]
    · simp [ensure, hprelude, htotal]
  · simp [ensure, hprelude]

/-- A head that is settled stays as it is when more arrives behind. -/
theorem takeFrame_append (more : List UInt8) (settled : takeFrame checksum buffer ≠ .ok none) :
    takeFrame checksum (buffer ++ more) =
      (takeFrame checksum buffer).map (Option.map fun (message, rest) => (message, rest ++ more)) := by
  have hlen : 12 ≤ buffer.length := by
    by_contra hlt
    exact settled (if_pos (by omega))
  rw [takeFrame_eq checksum hlen] at settled ⊢
  rw [takeFrame_eq checksum (by rw [length_append]; omega),
    ← lengthsOf_take checksum (buffer ++ more), take_append_of_le_length hlen, lengthsOf_take]
  cases hlengths : lengthsOf checksum buffer with
  | error failure => rfl
  | ok lengths =>
      obtain ⟨total, headers⟩ := lengths
      rw [hlengths] at settled
      by_cases hwhole : buffer.length < total
      · simp [bind, Except.bind, pure, Except.pure, hwhole] at settled
      · have hwhole' : ¬ (buffer ++ more).length < total := by
          rw [length_append]
          omega
        simp only [bind, Except.bind, pure, Except.pure, if_neg hwhole, if_neg hwhole']
        rw [take_append_of_le_length (not_lt.mp hwhole),
          drop_append_of_le_length (not_lt.mp hwhole)]
        cases openFrame checksum (buffer.take total) headers <;> rfl

theorem takeFrame_shrinks {rest : List UInt8} {message : Message}
    (h : takeFrame checksum buffer = .ok (some (message, rest))) :
    rest.length < buffer.length := by
  by_cases hlen : buffer.length < 12
  · simp [takeFrame, hlen] at h
  · rw [takeFrame_eq checksum (by omega)] at h
    simp only [bind_eq_ok] at h
    obtain ⟨⟨total, headers⟩, hlengths, h⟩ := h
    obtain ⟨-, -, -, -, -, room⟩ := lengthsOf_eq_ok.mp hlengths
    have : frameOverheadBytes = 16 := rfl
    split_ifs at h
    · simp [pure, Except.pure] at h
    · simp only [bind_eq_ok, pure, Except.pure, Except.ok.injEq, Option.some.injEq,
        Prod.mk.injEq] at h
      obtain ⟨_, -, -, rfl⟩ := h
      rw [length_drop]
      omega

theorem ensure_ne_panicked {c : Prop} [Decidable c] {error : EventStreamError} :
    ensure c (Failure.refused error) ≠ .error .panicked := by
  unfold ensure
  split_ifs <;> simp

theorem bind_ne_panicked {α β : Type} {x : Except Failure α} {f : α → Except Failure β}
    (hx : x ≠ .error .panicked) (hf : ∀ a, f a ≠ .error .panicked) :
    x >>= f ≠ .error .panicked := by
  cases x with
  | error failure => simpa [bind, Except.bind] using hx
  | ok a => exact hf a

theorem refuse_ne_panicked {α : Type} (x : Except EventStreamError α) :
    refuse x ≠ .error .panicked := by
  cases x <;> simp [refuse, Except.mapError]

/-- `take_frame` indexes within the buffer. -/
theorem takeFrame_ne_panicked (checksum : List UInt8 → UInt32) (buffer : List UInt8) :
    takeFrame checksum buffer ≠ .error .panicked := by
  by_cases hlen : buffer.length < 12
  · simp [takeFrame, hlen]
  · rw [takeFrame_eq checksum (by omega)]
    apply bind_ne_panicked
    · refine bind_ne_panicked ensure_ne_panicked fun _ => ?_
      refine bind_ne_panicked ensure_ne_panicked fun _ => ?_
      refine bind_ne_panicked ensure_ne_panicked fun _ => ?_
      exact bind_ne_panicked ensure_ne_panicked fun _ => by simp [pure, Except.pure]
    · rintro ⟨total, headers⟩
      simp only
      split_ifs
      · simp [pure, Except.pure]
      · refine bind_ne_panicked ?_ fun _ => by simp [pure, Except.pure]
        refine bind_ne_panicked ensure_ne_panicked fun _ => ?_
        exact bind_ne_panicked (refuse_ne_panicked _) fun _ => by simp [pure, Except.pure]

/-! ## The decoder -/

/-- The frames at the head of a byte stream. -/
def frames (checksum : List UInt8 → UInt32) : Decoder UInt8 Message Failure where
  head := takeFrame checksum
  shrinks := takeFrame_shrinks
  item_append more h := by
    rw [takeFrame_append more (by simp [h]), h]
    rfl
  bad_append more h := by
    rw [takeFrame_append more (by simp [h]), h]
    rfl

/-- `EventStreamDecoder::push`: the buffer a chunk leaves, and the frames it completed or
    the error that took their place. -/
def push (checksum : List UInt8 → UInt32) (buffer chunk : List UInt8) :
    List UInt8 × Except Failure (List Message) :=
  let drained := (frames checksum).drain (buffer ++ chunk)
  (drained.rest,
    match drained.error with
    | some failure => .error failure
    | none => .ok drained.items)

def hasPartialFrame (buffer : List UInt8) : Bool := !buffer.isEmpty

/-- What a stream's chunks gave. -/
structure Delivery where
  frames : List Message
  failure : Option Failure
  buffer : List UInt8
  deriving DecidableEq

/-- `stream_chat`'s loop over the network's chunks: each call's frames are handed on, and
    the first error ends it. -/
def deliver (checksum : List UInt8 → UInt32) (buffer : List UInt8) :
    List (List UInt8) → Delivery
  | [] => ⟨[], none, buffer⟩
  | chunk :: chunks =>
      match push checksum buffer chunk with
      | (buffer, .error failure) => ⟨[], some failure, buffer⟩
      | (buffer, .ok messages) =>
          let rest := deliver checksum buffer chunks
          { rest with frames := messages ++ rest.frames }

end ZeroRouter.Wire.EventStream
