import ZeroRouter.Api.Reservation
import ZeroRouter.Api.Retry
import ZeroRouter.Lib.Binary64

/-!
# Reading a retry hint

`src/router/src/retry.rs` `parse_retry_after_ms` and `compute_backoff`, from the text of the failure:
the byte offsets, the slice, the float and the duration that the wait goes through, each with the
panic it can end in.

A text is its characters.  The number after a hint is of digits and dots only, so what `f64` parses
is a non-negative decimal.
-/

namespace ZeroRouter.Backoff

/-- How reading a hint can end in a panic. -/
inductive Panic where
  | slice
  | duration
  deriving DecidableEq, Repr

/-! ## Text -/

/-- `str::len`. -/
def utf8Len (text : List Char) : Nat := (text.map Char.utf8Size).sum

/-- `str::find`: the byte offset of the first occurrence. -/
def find (pattern : List Char) : List Char → Option Nat
  | [] => if pattern.isEmpty then some 0 else none
  | c :: rest =>
      if pattern.isPrefixOf (c :: rest) then some 0
      else (find pattern rest).map (c.utf8Size + ·)

/-- `&text[offset..]`: none off a character's boundary. -/
def sliceFrom : List Char → Nat → Option (List Char)
  | text, 0 => some text
  | [], _ + 1 => none
  | c :: rest, offset + 1 =>
      if c.utf8Size ≤ offset + 1 then sliceFrom rest (offset + 1 - c.utf8Size) else none

/-! ## Numbers -/

def digitsValue (digits : List Char) : Nat :=
  digits.foldl (fun value c => value * 10 + (c.toNat - 48)) 0

/-- `str::parse::<f64>` on digits and dots, before rounding. -/
def parseDecimal (text : List Char) : Option ℚ :=
  let whole := text.takeWhile Char.isDigit
  match text.dropWhile Char.isDigit with
  | [] => if whole.isEmpty then none else some (digitsValue whole)
  | _ :: fraction =>
      if fraction.all Char.isDigit && !(whole ++ fraction).isEmpty then
        some (digitsValue (whole ++ fraction) / 10 ^ fraction.length)
      else none

/-- `Duration::from_secs_f64`, in nanoseconds.  The seconds are a 64-bit integer. -/
def fromSecsF64 (secs : ℚ) : Except Panic Nat :=
  if secs < 2 ^ (64 : ℤ) then .ok (roundHalfEven (secs * 10 ^ 9)).toNat else .error .duration

/-- `as_millis`, where it is a `u64`. -/
def millis (nanos : Nat) : Option Nat :=
  if nanos / 10 ^ 6 ≤ u64Max then some (nanos / 10 ^ 6) else none

/-! ## The hint -/

def hints : List (List Char) :=
  ["retry-after:".toList, "retry_after:".toList, "retry-after ".toList, "retry_after ".toList]

/-- The digits and dots a text starts with, blanks aside. -/
def numStr (text : List Char) : List Char :=
  (trim (String.ofList text)).toList.takeWhile fun c => c.isDigit || c = '.'

/-- The wait a parsed number comes to. -/
def waitOf (number : Option ℚ) : Except Panic (Option Nat) :=
  match number.map Binary64.ofRat with
  | none | some .infinity => .ok none
  | some (.finite secs) =>
      match fromSecsF64 secs with
      | .error panic => .error panic
      | .ok nanos => .ok (millis nanos)

/-- What one spelling of the hint comes to. -/
def readHint (lower hint : List Char) : Except Panic (Option Nat) :=
  match find hint lower with
  | none => .ok none
  | some pos =>
      match sliceFrom lower (pos + utf8Len hint) with
      | none => .error .slice
      | some after => waitOf (parseDecimal (numStr after))

/-- The first spelling that comes to a wait. -/
def firstHint (lower : List Char) : List (List Char) → Except Panic (Option Nat)
  | [] => .ok none
  | hint :: rest =>
      match readHint lower hint with
      | .error panic => .error panic
      | .ok (some value) => .ok (some value)
      | .ok none => firstHint lower rest

/-- `parse_retry_after_ms`. -/
def parseRetryAfterMs (err : UpstreamError) : Except Panic (Option Nat) :=
  firstHint (toLowercase err.text).toList hints

/-- `compute_backoff`. -/
def computeBackoff (baseMs : Nat) (err : UpstreamError) : Except Panic Nat :=
  match parseRetryAfterMs err with
  | .error panic => .error panic
  | .ok (some retryAfter) => .ok (max (min retryAfter retryAfterCapMs) baseMs)
  | .ok none => .ok baseMs

end ZeroRouter.Backoff
