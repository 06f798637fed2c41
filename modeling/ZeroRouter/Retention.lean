import ZeroRouter.Config.Catalog
import ZeroRouter.Lib.ByteOffset
import ZeroRouter.Lib.Substitute
import ZeroRouter.Lib.Occurrence

/-!
# Retention evidence

`src/router/src/retention.rs`: a policy page reduced to its visible text, the regions a pin's anchors
select of it, and whether they still say what they said when the pin was made.

A text is its characters, and a slice at an offset inside one of them is a panic: the functions that
slice return nothing there.
-/

namespace ZeroRouter.Retention

open ByteOffset Substitute Occurrence

inductive Verdict where
  | unchanged
  | changed
  | unfetchable
  deriving DecidableEq, Repr

/-- `is_actionable`. -/
def Verdict.isActionable : Verdict → Bool
  | .unchanged => false
  | .changed | .unfetchable => true

/-! ## The visible text -/

/-- The characters that end a tag's name. -/
def nameEnds : List Char := ['>', ' ', '\t', '\n', '\r', '/']

def closingTag (name : List Char) : List Char := '<' :: '/' :: (name ++ ['>'])

/-- `block_len`. -/
def blockLen (tail name : List Char) : Option (Option Nat) :=
  match tail with
  | '<' :: afterLt =>
      match sliceTo afterLt (byteCount name) with
      | none => some none
      | some head =>
          if head.map Char.toLower = name.map Char.toLower then
            (sliceFrom afterLt (byteCount name)).map fun after =>
              if after.head?.any (· ∈ nameEnds) then
                some ((findAsciiCi tail (closingTag name)).elim (byteCount tail)
                  (· + byteCount (closingTag name)))
              else none
          else some none
  | _ => some none

def commentOpen : List Char := ['<', '!', '-', '-']

def commentClose : List Char := ['-', '-', '>']

/-- `comment_len`. -/
def commentLen (tail : List Char) : Option Nat :=
  if commentOpen.isPrefixOf tail then
    some ((find commentClose tail).elim (byteCount tail) (· + byteCount commentClose))
  else none

/-- How much of the text is left out at a `<`: a block, a comment, or nothing as a whole. -/
def elementLen (tail : List Char) : Option (Option Nat) := do
  let script ← blockLen tail "script".toList
  if script.isSome then return script
  let style ← blockLen tail "style".toList
  if style.isSome then return style
  return commentLen tail

/-- The loop of `normalize`: the text so far and the rest of the document. -/
def stripTags : Nat → List Char → List Char → Option (List Char)
  | 0, _, _ => none
  | fuel + 1, text, rest =>
      match find ['<'] rest with
      | none => some (text ++ rest)
      | some start => do
          let before ← sliceTo rest start
          let tail ← sliceFrom rest start
          match ← elementLen tail with
          | some len => stripTags fuel (text ++ before ++ [' ']) (← sliceFrom tail len)
          | none =>
              match find ['>'] tail with
              | some close => stripTags fuel (text ++ before ++ [' ']) (← sliceFrom tail (close + 1))
              -- an unterminated `<` is the end of anything readable
              | none => some (text ++ before)

/-- The entities, in the order of their replacements. -/
def entities : List (Rule Char) :=
  [⟨"&nbsp;".toList, [' ']⟩, ⟨"&amp;".toList, ['&']⟩, ⟨"&lt;".toList, ['<']⟩,
    ⟨"&gt;".toList, ['>']⟩, ⟨"&quot;".toList, ['"']⟩, ⟨"&#39;".toList, ['\'']⟩,
    ⟨"&#x27;".toList, ['\'']⟩]

/-- `str::replace`, entity by entity. -/
def decodeEntities (text : List Char) : List Char :=
  entities.foldl (fun text entity => substitute [entity] text) text

/-- `split_whitespace().join(" ")`. -/
def collapse (text : List Char) : List Char := spaced isWhiteSpace ' ' text

/-- `normalize`. -/
def normalize (document : List Char) : Option (List Char) :=
  (stripTags (document.length + 1) [] document).map fun text => collapse (decodeEntities text)

/-! ## The evidence -/

section Evidence

variable (sha256 : List UInt8 → Vector UInt8 32)

/-- `hex::encode`. -/
def hexEncode (bytes : List UInt8) : List Char :=
  bytes.flatMap fun byte => [Nat.digitChar (byte.toNat / 16), Nat.digitChar (byte.toNat % 16)]

/-- `hash`. -/
def hash (text : List Char) : List Char := hexEncode (sha256 (Utf8.encode text)).toList

/-- `digest`. -/
def digest (document : List Char) : Option (List Char) := (normalize document).map (hash sha256)

def extractWindowChars : Nat := 2000

/-- `EXTRACT_JOIN`. -/
def extractJoin : List Char := ['\n', Char.ofNat 0x241f, '\n']

/-- Why an extract could not be taken. -/
inductive ExtractError where
  | missing (anchor : String)
  | ambiguous (anchor : String) (total : Nat)
  deriving DecidableEq, Repr

/-- The region of one anchor. -/
def region (normalized : List Char) (anchor : String) : Except ExtractError (List Char) :=
  match matchesOf anchor.toList normalized with
  | [] => .error (.missing anchor)
  | [found] => .ok (found.take extractWindowChars)
  | found => .error (.ambiguous anchor found.length)

/-- `extract`. -/
def extract (normalized : List Char) (anchors : List String) : Except ExtractError (List Char) :=
  (anchors.mapM (region normalized)).map extractJoin.intercalate

/-- `evidence`. -/
def evidence (pin : RetentionPin) (document : List Char) :
    Option (Except ExtractError (List Char)) :=
  (normalize document).map fun normalized =>
    if pin.sourceExtractAnchors.isEmpty then .ok normalized
    else extract normalized pin.sourceExtractAnchors

structure ProviderCheck where
  subject : String
  pin : RetentionPin
  verdict : Verdict
  observedSha256 : Option (List Char)
  error : Option ExtractError
  deriving DecidableEq, Repr

/-- `eq_ignore_ascii_case` with the pinned digest. -/
def isPinned (pin : RetentionPin) (observed : List Char) : Bool :=
  observed.map Char.toLower = (trim pin.sourceSha256).toList.map Char.toLower

/-- `check`. -/
def check (subject : String) (pin : RetentionPin) (document : List Char) : Option ProviderCheck :=
  (evidence pin document).map fun evidence =>
    match evidence with
    | .ok evidence =>
        let observed := hash sha256 evidence
        { subject, pin
          verdict := if isPinned pin observed then .unchanged else .changed
          observedSha256 := some observed, error := none }
    | .error error =>
        { subject, pin, verdict := .changed, observedSha256 := none, error := some error }

end Evidence

end ZeroRouter.Retention
