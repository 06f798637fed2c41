import ZeroRouter.Api.Retry
import ZeroRouter.Lib.ByteOffset
import ZeroRouter.Lib.Occurrence

/-!
# Upstream error text, scrubbed and bounded

`src/router/src/retry.rs`: an upstream's error text with what looks like a credential taken out of
it, cut to a length, as it goes to the logs and the error bodies.

A text is its characters, and a slice at an offset inside one of them is a panic: the functions that
slice return nothing there.
-/

namespace ZeroRouter.Redaction

open ByteOffset Occurrence

/-- `MAX_API_ERROR_CHARS`. -/
def maxApiErrorChars : Nat := 500

/-- `is_secret_char`. -/
def isSecretChar (c : Char) : Bool := c.isAlphanum || c ∈ ['-', '_', '.', ':']

/-- The loop of `token_end`: the end so far, and what is behind it. -/
def secretEnd (end_ : Nat) : List Char → Nat
  | [] => end_
  | c :: rest => if isSecretChar c then secretEnd (end_ + c.utf8Size) rest else end_

/-- `token_end`. -/
def tokenEnd (input : List Char) (start : Nat) : Option Nat :=
  (sliceFrom input start).map (secretEnd start)

/-- `PREFIXES`, in the order of their passes. -/
def prefixes : List (List Char) :=
  ["sk-".toList, "xoxb-".toList, "xoxp-".toList, "ghp_".toList, "gho_".toList, "ghu_".toList,
    "github_pat_".toList]

def redacted : List Char := "[REDACTED]".toList

/-- `String::replace_range`. -/
def replaceRange (text : List Char) (start end_ : Nat) (replacement : List Char) :
    Option (List Char) :=
  if start ≤ end_ then do
    let before ← sliceTo text start
    let after ← sliceFrom text end_
    return before ++ replacement ++ after
  else none

/-- The scan for one prefix: the text so far, and where the search goes on. -/
def scrubPrefix (start : List Char) : Nat → List Char → Nat → Option (List Char)
  | 0, _, _ => none
  | fuel + 1, scrubbed, searchFrom => do
      let behind ← sliceFrom scrubbed searchFrom
      match find start behind with
      | none => return scrubbed
      | some relative =>
          let tokenStart := searchFrom + relative
          let contentStart := tokenStart + byteCount start
          let end_ ← tokenEnd scrubbed contentStart
          -- a bare prefix is not a token
          if end_ = contentStart then
            scrubPrefix start fuel scrubbed contentStart
          else
            let scrubbed ← replaceRange scrubbed tokenStart end_ redacted
            scrubPrefix start fuel scrubbed (tokenStart + byteCount redacted)

/-- `scrub_secret_patterns`. -/
def scrubSecretPatterns (fuel : Nat) (input : List Char) : Option (List Char) :=
  prefixes.foldlM (fun scrubbed start => scrubPrefix start fuel scrubbed 0) input

/-- `is_char_boundary`. -/
def isCharBoundary (text : List Char) (offset : Nat) : Bool := (cut text offset).isSome

/-- The last boundary up to an offset. -/
def boundaryUpTo (text : List Char) : Nat → Nat
  | 0 => 0
  | offset + 1 => if isCharBoundary text (offset + 1) then offset + 1 else boundaryUpTo text offset

def ellipsis : List Char := "...".toList

/-- `sanitize_api_error`. -/
def sanitizeApiError (fuel : Nat) (input : List Char) : Option (List Char) := do
  let scrubbed ← scrubSecretPatterns fuel input
  if scrubbed.length ≤ maxApiErrorChars then
    return scrubbed
  else
    let kept ← sliceTo scrubbed (boundaryUpTo scrubbed maxApiErrorChars)
    return kept ++ ellipsis

/-- `compact_error_detail`, of the error as it prints. -/
def compactErrorDetail (fuel : Nat) (printed : List Char) : Option (List Char) :=
  (sanitizeApiError fuel printed).map (spaced isWhiteSpace ' ')

end ZeroRouter.Redaction
