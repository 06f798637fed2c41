import ZeroRouter.Lib.Incremental

/-!
# UTF-8, decoded as the bytes arrive

The characters of a byte stream, one at a time off its head.  A character cut off
mid-way, or bytes no character starts with, make the decoder wait; so what it has
taken is the longest prefix that is valid UTF-8.
-/

namespace Utf8

open Incremental

variable {bytes rest : List UInt8} {text : List Char}

/-- The bytes of a text. -/
def encode (text : List Char) : List UInt8 :=
  text.flatMap String.utf8EncodeChar

@[simp] theorem encode_nil : encode [] = [] := rfl

@[simp] theorem encode_cons (c : Char) (text : List Char) :
    encode (c :: text) = String.utf8EncodeChar c ++ encode text := rfl

@[simp] theorem encode_append (text more : List Char) :
    encode (text ++ more) = encode text ++ encode more :=
  List.flatMap_append

/-- The character at the head, when all its bytes are there. -/
def head (bytes : List UInt8) : Except Empty (Option (Char × List UInt8)) :=
  match bytes.toByteArray.utf8DecodeChar? 0 with
  | some c => .ok (some (c, bytes.drop c.utf8Size))
  | none => .ok none

@[simp] theorem head_encode (c : Char) (rest : List UInt8) :
    head (String.utf8EncodeChar c ++ rest) = .ok (some (c, rest)) := by
  have decoded : (String.utf8EncodeChar c ++ rest).toByteArray.utf8DecodeChar? 0 = some c := by
    rw [List.toByteArray_append]
    exact ByteArray.utf8DecodeChar?_utf8EncodeChar_append
  rw [head, decoded]
  simp [← String.length_utf8EncodeChar]

theorem head_eq_some {c : Char} (h : head bytes = .ok (some (c, rest))) :
    bytes = String.utf8EncodeChar c ++ rest := by
  unfold head at h
  split at h
  · next c' decoded =>
    obtain ⟨l, hl⟩ := ByteArray.exists_of_utf8DecodeChar?_eq_some decoded
    have hbytes : bytes = String.utf8EncodeChar c' ++ l.data.toList := by
      have := congrArg (fun b => b.data.toList) hl
      simpa using this
    rw [hbytes] at h
    simp only [Except.ok.injEq, Option.some.injEq, Prod.mk.injEq,
      ← String.length_utf8EncodeChar, List.drop_left] at h
    rw [hbytes, h.1, h.2]
  · cases h

theorem head_ne_error {e : Empty} : head bytes ≠ .error e :=
  e.elim

/-- The characters at the head of a byte stream. -/
def characters : Decoder UInt8 Char Empty where
  head := head
  shrinks h := by
    have := Char.utf8Size_pos
    rw [head_eq_some h]
    simp [String.length_utf8EncodeChar, this]
  item_append more h := by rw [head_eq_some h, List.append_assoc, head_encode]
  bad_append _ h := (head_ne_error h).elim

/-- A text is read off its own bytes, and nothing else is. -/
theorem reads_iff :
    characters.Reads bytes text rest ↔ bytes = encode text ++ rest := by
  constructor
  · intro h
    induction h with
    | done => simp
    | item h _ ih => rw [head_eq_some h, ih, encode_cons, List.append_assoc]
  · intro h
    induction text generalizing bytes with
    | nil =>
        rw [h]
        exact .done _
    | cons c text ih =>
        rw [h, encode_cons, List.append_assoc]
        exact .item (head_encode c _) (ih rfl)

theorem drain_eq (bytes : List UInt8) :
    bytes = encode (characters.drain bytes).items ++ (characters.drain bytes).rest :=
  reads_iff.mp (characters.reads_drain bytes).1

/-- No text reaches further than what draining takes. -/
theorem prefix_drain (h : bytes = encode text ++ rest) :
    text <+: (characters.drain bytes).items := by
  obtain ⟨later, verdict⟩ := characters.reads_drain rest
  have := ((reads_iff.mpr h).trans later).drain_eq verdict
  exact ⟨_, (congrArg Drained.items this).symm⟩

/-- `bytes` as a string, when they are one. -/
def decode? (bytes : List UInt8) : Option String :=
  let drained := characters.drain bytes
  if drained.rest.isEmpty then some (String.ofList drained.items) else none

theorem decode?_eq_some {text : String} :
    decode? bytes = some text ↔ bytes = encode text.toList := by
  simp only [decode?, Option.ite_none_right_eq_some, List.isEmpty_iff, Option.some.injEq]
  constructor
  · rintro ⟨hrest, rfl⟩
    simpa [hrest] using drain_eq bytes
  · intro h
    have reads : characters.Reads bytes text.toList [] := reads_iff.mpr (by simpa using h)
    rw [reads.drain_of_wait (by decide)]
    simp

end Utf8
