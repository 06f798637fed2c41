import Mathlib.Data.List.TakeWhile
import ZeroRouter.Corroborate

/-!
# A price moved by a million is exact

A price that is read is a decimal: digits with at most one point.  What is parsed is that decimal
with its point moved, so it denotes a million times as much and is rounded once.  No slice falls
inside a character.
-/

namespace ZeroRouter.Corroborate

open List ByteOffset Positional

variable {numeral : Numeral Char} {text : List Char} {price : String}

/-! ## Decimals -/

/-- A text is digits with at most one point, and at least one digit. -/
inductive IsDecimal : List Char → Numeral Char → Prop where
  | plain {whole : List Char} (filled : whole ≠ []) (digits : ∀ c ∈ whole, c.isDigit = true) :
      IsDecimal whole ⟨whole, []⟩
  | pointed {whole fraction : List Char} (filled : whole ++ fraction ≠ [])
      (digits : ∀ c ∈ whole ++ fraction, c.isDigit = true) :
      IsDecimal (whole ++ '.' :: fraction) ⟨whole, fraction⟩

/-- The digit a character stands for. -/
def digit (c : Char) : Nat := c.toNat - 48

/-- What a decimal denotes. -/
def denoted (numeral : Numeral Char) : ℚ := numeral.value 10 digit

/-- A price is a decimal, but for blanks around it and a plus before it. -/
def Writes (price : String) (numeral : Numeral Char) : Prop :=
  ∃ text, IsDecimal text numeral ∧
    ((trim price).toList = text ∨ (trim price).toList = '+' :: text)

/-- The text of a decimal, without a point that nothing follows. -/
def render (numeral : Numeral Char) : List Char :=
  if numeral.fraction = [] then numeral.whole else numeral.whole ++ '.' :: numeral.fraction

theorem isDecimal_render (filled : numeral.whole ++ numeral.fraction ≠ [])
    (digits : ∀ c ∈ numeral.whole ++ numeral.fraction, c.isDigit = true) :
    IsDecimal (render numeral) numeral := by
  obtain ⟨whole, fraction⟩ := numeral
  unfold render
  by_cases none_behind : fraction = []
  · subst none_behind
    rw [if_pos rfl]
    rw [append_nil] at filled digits
    exact .plain filled digits
  · rw [if_neg none_behind]
    exact .pointed filled digits

theorem isAscii_of_isDigit {c : Char} (h : c.isDigit = true) : IsAscii c := by
  have range := Char.isDigit_iff_toNat.mp h
  exact UInt32.le_iff_toNat_le.mpr (Nat.le_trans range.2 (by decide))

theorem IsDecimal.digits (h : IsDecimal text numeral) :
    ∀ c ∈ numeral.whole ++ numeral.fraction, c.isDigit = true := by
  cases h with
  | plain filled digits => simpa using digits
  | pointed filled digits => exact digits

theorem IsDecimal.filled (h : IsDecimal text numeral) :
    numeral.whole ++ numeral.fraction ≠ [] := by
  cases h with
  | plain filled digits => simpa using filled
  | pointed filled digits => exact filled

/-! ## The parser -/

theorem digitsValue_eq (digits : List Char) :
    Backoff.digitsValue digits = natOf 10 digit digits :=
  natOf_eq_foldl 10 digit digits

/-- The parser reads a decimal as what it denotes. -/
theorem parseDecimal_eq (h : IsDecimal text numeral) :
    Backoff.parseDecimal text = some (denoted numeral) := by
  unfold Backoff.parseDecimal denoted Numeral.value
  dsimp only
  cases h with
  | plain filled digits =>
      rw [dropWhile_eq_nil_iff.mpr digits, takeWhile_eq_self_iff.mpr digits]
      simp [filled, digitsValue_eq]
  | @pointed whole fraction filled digits =>
      have whole_digits : ∀ c ∈ whole, c.isDigit = true := fun c mem =>
        digits c (mem_append_left _ mem)
      have fraction_digits : fraction.all Char.isDigit = true :=
        all_eq_true.mpr fun c mem => digits c (mem_append_right _ mem)
      rw [dropWhile_append_of_pos whole_digits, takeWhile_append_of_pos whole_digits]
      have stops : ('.' :: fraction).takeWhile Char.isDigit = [] := rfl
      have behind : ('.' :: fraction).dropWhile Char.isDigit = '.' :: fraction := rfl
      rw [stops, behind, append_nil]
      simp [fraction_digits, filled, digitsValue_eq]

/-! ## The bytes -/

/-- A digit among the bytes is a digit among the characters. -/
theorem allDigits_iff :
    allDigits text = true ↔ ∀ c ∈ text, c.isDigit = true := by
  unfold allDigits
  induction text with
  | nil => simp
  | cons c text ih =>
      rw [Utf8.encode_cons, all_append, Bool.and_eq_true, ih, forall_mem_cons]
      refine and_congr_left fun _ => ?_
      by_cases ascii : IsAscii c
      · have same : c.val.toUInt8.toNat = c.toNat := toNat_toUInt8 ascii
        rw [utf8EncodeChar_of_isAscii ascii, Char.isDigit_iff_toNat, all_cons, all_nil,
          Bool.and_true, Bool.and_eq_true, decide_eq_true_eq, decide_eq_true_eq,
          UInt8.le_iff_toNat_le, UInt8.le_iff_toNat_le, same]
        rfl
      · obtain ⟨byte, bytes, is_bytes⟩ :=
          exists_cons_of_ne_nil (String.utf8EncodeChar_ne_nil (c := c))
        have big := le_of_mem_utf8EncodeChar ascii
          (is_bytes ▸ mem_cons_self : byte ∈ String.utf8EncodeChar c)
        refine iff_of_false ?_ fun digit => ascii (isAscii_of_isDigit digit)
        rw [is_bytes]
        simp only [all_cons, Bool.and_eq_true, decide_eq_true_eq, UInt8.le_iff_toNat_le]
        rintro ⟨⟨-, small⟩, -⟩
        have : (57 : UInt8).toNat = 57 := rfl
        omega

/-- The digits moved across the point are the decimal with its point moved. -/
theorem movePoint_eq {whole fraction : List Char} (digits : ∀ c ∈ fraction, c.isDigit = true) :
    movePoint whole fraction = some (render (Numeral.shift '0' shift ⟨whole, fraction⟩)) := by
  have size := byteCount_eq_length fun c mem => isAscii_of_isDigit (digits c mem)
  have is_moved : byteCount (fraction.take shift) = min fraction.length shift := by
    rw [byteCount_eq_length fun c mem => isAscii_of_isDigit (digits c (mem_of_mem_take mem)),
      length_take, Nat.min_comm]
  have is_cut : cut fraction (min fraction.length shift) =
      some (fraction.take shift, fraction.drop shift) :=
    cut_eq_some.mpr ⟨(take_append_drop _ _).symm, is_moved⟩
  have zeros : shift - min fraction.length shift = shift - fraction.length := by omega
  unfold movePoint render Numeral.shift
  simp only [size, sliceTo, sliceFrom, is_cut, zeros, Option.map_some, Option.pure_def,
    Option.bind_eq_bind, Option.bind_some]
  by_cases long : shift < fraction.length
  · rw [if_pos (by omega), if_neg (by rw [drop_eq_nil_iff]; omega)]
  · rw [if_neg (by omega), if_pos (by rw [drop_eq_nil_iff]; omega)]

/-! ## A price -/

theorem stripPlus_cons (text : List Char) : stripPlus ('+' :: text) = text := rfl

/-- A decimal starts with no sign. -/
theorem IsDecimal.head (h : IsDecimal text numeral) :
    ∃ c rest, text = c :: rest ∧ c ≠ '+' ∧ c ≠ '-' := by
  have unsigned : ∀ c : Char, c.isDigit = true → c ≠ '+' ∧ c ≠ '-' := by
    rintro c digit
    constructor <;> (rintro rfl; cases digit)
  cases h with
  | plain filled digits =>
      obtain ⟨c, rest, rfl⟩ := exists_cons_of_ne_nil filled
      exact ⟨c, rest, rfl, unsigned c (digits c mem_cons_self)⟩
  | @pointed whole fraction filled digits =>
      cases whole with
      | nil => exact ⟨'.', fraction, rfl, by decide, by decide⟩
      | cons c whole =>
          exact ⟨c, _, rfl, unsigned c (digits c (by simp))⟩

theorem stripPlus_of_writes (is_decimal : IsDecimal text numeral)
    (is_text : (trim price).toList = text ∨ (trim price).toList = '+' :: text) :
    stripPlus (trim price).toList = text := by
  obtain ⟨c, rest, rfl, no_plus, -⟩ := is_decimal.head
  rcases is_text with is_text | is_text
  · rw [is_text]
    unfold stripPlus
    split
    · next eq =>
        cases eq
        exact absurd rfl no_plus
    · rfl
  · rw [is_text, stripPlus_cons]

/-- A decimal is split where its point stands. -/
theorem splitPoint_eq (h : IsDecimal text numeral) :
    splitPoint text = (numeral.whole, numeral.fraction) := by
  have no_point : ∀ digits : List Char, (∀ c ∈ digits, c.isDigit = true) → '.' ∉ digits := by
    intro digits all mem
    cases all '.' mem
  unfold splitPoint
  cases h with
  | plain filled digits =>
      cases found : splitFirst '.' text with
      | none => rfl
      | some parts =>
          obtain ⟨is_whole, -⟩ := splitFirst_eq_some.mp found
          exact absurd (is_whole ▸ by simp : '.' ∈ text) (no_point text digits)
  | @pointed whole fraction filled digits =>
      have found : splitFirst '.' (whole ++ '.' :: fraction) = some (whole, fraction) :=
        splitFirst_eq_some.mpr
          ⟨rfl, no_point whole fun c mem => digits c (mem_append_left _ mem)⟩
      rw [found]
      rfl

/-- A text is what it is split into, with a point between the two. -/
theorem isDecimal_of_splitPoint {whole fraction : List Char}
    (is_split : splitPoint text = (whole, fraction)) (filled : whole ++ fraction ≠ [])
    (digits : ∀ c ∈ whole ++ fraction, c.isDigit = true) :
    IsDecimal text ⟨whole, fraction⟩ := by
  unfold splitPoint at is_split
  cases found : splitFirst '.' text with
  | none =>
      rw [found] at is_split
      cases is_split
      rw [append_nil] at filled digits
      exact .plain filled digits
  | some parts =>
      rw [found] at is_split
      cases is_split
      obtain ⟨rfl, -⟩ := splitFirst_eq_some.mp found
      exact .pointed filled digits

/-- A decimal is handed on with its point moved. -/
theorem shifted_of_writes (h : Writes price numeral) :
    shifted price = some (some (render (numeral.shift '0' shift))) := by
  obtain ⟨text, is_decimal, is_text⟩ := h
  obtain ⟨c, rest, is_cons, -, no_minus⟩ := is_decimal.head
  have digits := is_decimal.digits
  have whole_digits := allDigits_iff.mpr fun c mem => digits c (List.mem_append_left _ mem)
  have fraction_digits := allDigits_iff.mpr fun c mem => digits c (List.mem_append_right _ mem)
  have filled : ¬ (numeral.whole.isEmpty && numeral.fraction.isEmpty) = true := by
    have filled := is_decimal.filled
    rw [Bool.and_eq_true, List.isEmpty_iff, List.isEmpty_iff]
    rintro ⟨no_whole, no_fraction⟩
    rw [no_whole, no_fraction] at filled
    exact filled rfl
  have signless : ¬ (text.isEmpty || text.head? = some '-') = true := by
    rw [is_cons]
    simpa using no_minus
  unfold shifted
  dsimp only
  rw [stripPlus_of_writes is_decimal is_text, if_neg signless, splitPoint_eq is_decimal]
  dsimp only
  rw [if_neg filled, whole_digits, fraction_digits, if_neg (by simp),
    movePoint_eq fun c mem => digits c (List.mem_append_right _ mem), Option.map_some]

/-- What is no decimal is handed to no parser, and cut nowhere. -/
theorem shifted_cases (price : String) :
    shifted price = some none ∨ ∃ numeral, Writes price numeral := by
  cases is_split : splitPoint (stripPlus (trim price).toList) with
  | mk whole fraction =>
      have writes_of (filled : whole ++ fraction ≠ [])
          (digits : ∀ c ∈ whole ++ fraction, c.isDigit = true) :
          ∃ numeral, Writes price numeral := by
        refine ⟨⟨whole, fraction⟩, _, isDecimal_of_splitPoint is_split filled digits, ?_⟩
        unfold stripPlus
        split
        · next eq => exact .inr eq
        · exact .inl rfl
      unfold shifted
      dsimp only
      split
      · exact .inl rfl
      · rw [is_split]
        dsimp only
        split
        · exact .inl rfl
        · next filled =>
            split
            · exact .inl rfl
            · next digits =>
                right
                simp only [Bool.or_eq_true, Bool.not_eq_true', not_or, Bool.not_eq_false,
                  allDigits_iff] at digits
                refine writes_of (fun empty => filled ?_) fun c mem =>
                  (mem_append.mp mem).elim (digits.1 c) (digits.2 c)
                obtain ⟨rfl, rfl⟩ := append_eq_nil_iff.mp empty
                rfl

/-- A moved decimal is a decimal, of a million times as much. -/
theorem isDecimal_shift (h : Writes price numeral) :
    IsDecimal (render (numeral.shift '0' shift)) (numeral.shift '0' shift) ∧
      denoted (numeral.shift '0' shift) = 10 ^ 6 * denoted numeral := by
  obtain ⟨text, is_decimal, -⟩ := h
  refine ⟨isDecimal_render ?_ ?_, ?_⟩
  · intro empty
    have one := congrArg List.length empty
    have some_digit := length_pos_iff.mpr is_decimal.filled
    simp only [Numeral.shift, length_append, length_take, length_replicate,
      length_drop, length_nil] at one some_digit
    omega
  · intro c mem
    rcases Numeral.mem_shift mem with mem | rfl
    · exact is_decimal.digits c mem
    · rfl
  · have value : (numeral.shift '0' shift).value 10 digit = _ :=
      Numeral.value_shift 10 digit rfl (by decide) shift numeral
    unfold denoted
    rw [value]
    norm_num [shift]

theorem perMtok_of_writes (h : Writes price numeral) :
    perMtok price = some (some (Binary64.ofRat (10 ^ 6 * denoted numeral))) := by
  obtain ⟨is_decimal, is_value⟩ := isDecimal_shift h
  unfold perMtok
  rw [shifted_of_writes h, Option.map_some, Option.bind_some, parseDecimal_eq is_decimal, is_value,
    Option.map_some]

theorem perMtok_cases (price : String) :
    perMtok price = some none ∨ ∃ numeral, Writes price numeral := by
  refine (shifted_cases price).imp_left fun refused => ?_
  unfold perMtok
  rw [refused]
  rfl

/-- A price is read where it is a decimal, and nowhere else; what is parsed then is a decimal of
    exactly a million times as much, so equal decimals come to equal rates. -/
theorem perMtok_exact (price : String) :
    (∃ rate, perMtok price = some rate ∧ (rate.isSome = true ↔ ∃ numeral, Writes price numeral)) ∧
    (∀ numeral, Writes price numeral →
      ∃ text moved, shifted price = some (some text) ∧ IsDecimal text moved ∧
        denoted moved = 10 ^ 6 * denoted numeral ∧
        perMtok price = some (some (Binary64.ofRat (denoted moved)))) ∧
    ∀ other numeral numeral', Writes price numeral → Writes other numeral' →
      denoted numeral = denoted numeral' → perMtok price = perMtok other := by
  refine ⟨?_, ?_, ?_⟩
  · by_cases written : ∃ numeral, Writes price numeral
    · obtain ⟨numeral, is_written⟩ := written
      exact ⟨_, perMtok_of_writes is_written, iff_of_true rfl ⟨numeral, is_written⟩⟩
    · have refused := (perMtok_cases price).resolve_right written
      exact ⟨none, refused, iff_of_false (by simp) written⟩
  · intro numeral is_written
    obtain ⟨is_decimal, is_value⟩ := isDecimal_shift is_written
    refine ⟨_, _, shifted_of_writes is_written, is_decimal, is_value, ?_⟩
    rw [perMtok_of_writes is_written, is_value]
  · intro other numeral numeral' is_written is_written' same
    rw [perMtok_of_writes is_written, perMtok_of_writes is_written', same]

example : shifted " +.0000002 " = some (some "000000.2".toList) := by decide +kernel

end ZeroRouter.Corroborate
