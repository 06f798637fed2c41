import ZeroRouter.Config.Catalog
import ZeroRouter.Api.Backoff
import ZeroRouter.Lib.ByteOffset
import ZeroRouter.Lib.Positional

/-!
# The second pricing source

`src/router/src/corroborate.rs`: the second source's prices, texts of dollars a token, as the rates
of a million tokens that the rest of the crate speaks in.

A text is its characters, and a slice at an offset inside one of them is a panic: the functions that
slice return nothing there.
-/

namespace ZeroRouter.Corroborate

open ByteOffset

/-! ## A price -/

/-- `SHIFT`. -/
def shift : Nat := 6

/-- `strip_prefix('+')`, or the text as it is. -/
def stripPlus : List Char → List Char
  | '+' :: rest => rest
  | text => text

/-- `split_once('.')`, or all of it and nothing. -/
def splitPoint (price : List Char) : List Char × List Char :=
  (splitFirst '.' price).getD (price, [])

/-- `bytes().all(|b| b.is_ascii_digit())`. -/
def allDigits (text : List Char) : Bool :=
  (Utf8.encode text).all fun byte => 48 ≤ byte && byte ≤ 57

/-- The digits with the point moved across them. -/
def movePoint (whole fraction : List Char) : Option (List Char) := do
  let moved := min (byteCount fraction) shift
  let shifted := whole ++ (← sliceTo fraction moved) ++ List.replicate (shift - moved) '0'
  if moved < byteCount fraction then
    return shifted ++ '.' :: (← sliceFrom fraction moved)
  else
    return shifted

/-- The text `per_mtok` hands to the parser, where it comes so far. -/
def shifted (price : String) : Option (Option (List Char)) :=
  let price := stripPlus (trim price).toList
  if price.isEmpty || price.head? = some '-' then
    some none
  else
    let (whole, fraction) := splitPoint price
    if whole.isEmpty && fraction.isEmpty then
      some none
    else if !allDigits whole || !allDigits fraction then
      some none
    else
      (movePoint whole fraction).map some

/-- `per_mtok`. -/
def perMtok (price : String) : Option (Option Binary64) :=
  (shifted price).map fun text =>
    text.bind fun text => (Backoff.parseDecimal text).map Binary64.ofRat

end ZeroRouter.Corroborate
