import ZeroRouter.Lib.Utf8

/-!
# Texts cut at byte offsets

A text is its characters; an offset counts the bytes of their encoding.  A cut inside a character is
no cut.  A search gives the offset of the first match, by characters or, where only ASCII is sought,
byte by byte without regard to case; what either finds can be cut at.

The module names no text of any particular program.
-/

namespace ByteOffset

open List Utf8 Option

variable {c : Char} {text : List Char} {n : Nat}

/-! ## Cuts -/

def byteCount (text : List Char) : Nat := (encode text).length

@[simp] theorem byteCount_nil : byteCount [] = 0 := rfl

@[simp] theorem byteCount_cons (c : Char) (text : List Char) :
    byteCount (c :: text) = c.utf8Size + byteCount text := by
  simp [byteCount, String.length_utf8EncodeChar]

@[simp] theorem byteCount_append (text more : List Char) :
    byteCount (text ++ more) = byteCount text + byteCount more := by
  simp [byteCount]

/-- The text before an offset, and from it on. -/
def cut : List Char → Nat → Option (List Char × List Char)
  | text, 0 => some ([], text)
  | [], _ + 1 => none
  | c :: rest, n + 1 =>
      if c.utf8Size ≤ n + 1 then
        (cut rest (n + 1 - c.utf8Size)).map fun parts => (c :: parts.1, parts.2)
      else none

@[simp] theorem cut_zero (text : List Char) : cut text 0 = some ([], text) := by
  cases text <;> rfl

theorem cut_cons (c : Char) (rest : List Char) (n : Nat) :
    cut (c :: rest) (c.utf8Size + n) =
      (cut rest n).map fun parts => (c :: parts.1, parts.2) := by
  have positive := c.utf8Size_pos
  obtain ⟨size, is_size⟩ : ∃ size, c.utf8Size = size + 1 := ⟨c.utf8Size - 1, by omega⟩
  have fits : c.utf8Size + n = (size + n) + 1 := by omega
  rw [fits, cut, if_pos (by omega)]
  congr 2
  omega

/-- A text can be cut exactly where a character starts. -/
theorem cut_eq_some {before after : List Char} :
    cut text n = some (before, after) ↔ text = before ++ after ∧ byteCount before = n := by
  constructor
  · intro h
    fun_induction cut text n generalizing before with
    | case1 text =>
        cases h
        exact ⟨rfl, rfl⟩
    | case2 n => cases h
    | case3 c rest n fits ih =>
        obtain ⟨parts, is_cut, is_parts⟩ := map_eq_some_iff.mp h
        cases is_parts
        obtain ⟨rfl, is_len⟩ := ih is_cut
        refine ⟨rfl, ?_⟩
        rw [byteCount_cons, is_len]
        omega
    | case4 c rest n fits => cases h
  · rintro ⟨rfl, rfl⟩
    induction before with
    | nil => simp
    | cons c before ih => rw [cons_append, byteCount_cons, cut_cons, ih, map_some]

@[simp] theorem cut_append (before after : List Char) :
    cut (before ++ after) (byteCount before) = some (before, after) :=
  cut_eq_some.mpr ⟨rfl, rfl⟩

/-- `&text[..n]`: nothing where it would cut a character. -/
def sliceTo (text : List Char) (n : Nat) : Option (List Char) := (cut text n).map (·.1)

/-- `&text[n..]`. -/
def sliceFrom (text : List Char) (n : Nat) : Option (List Char) := (cut text n).map (·.2)

@[simp] theorem sliceTo_append (before after : List Char) :
    sliceTo (before ++ after) (byteCount before) = some before := by
  simp [sliceTo]

@[simp] theorem sliceFrom_append (before after : List Char) :
    sliceFrom (before ++ after) (byteCount before) = some after := by
  simp [sliceFrom]

/-! ## A search by characters -/

section Find

variable (sought : List Char → Bool)

/-- The offset of the first place a search stops at. -/
def findWhere : List Char → Option Nat
  | [] => if sought [] then some 0 else none
  | c :: rest =>
      if sought (c :: rest) then some 0 else (findWhere rest).map (c.utf8Size + ·)

theorem findWhere_eq_none :
    findWhere sought text = none ↔ ∀ after, after <:+ text → sought after = false := by
  induction text with
  | nil => simp [findWhere]
  | cons c rest ih =>
      rw [findWhere]
      by_cases here : sought (c :: rest) = true
      · rw [if_pos here]
        refine iff_of_false (by simp) fun h => ?_
        rw [h _ suffix_rfl] at here
        cases here
      · rw [if_neg here, map_eq_none_iff, ih]
        simp only [suffix_cons_iff]
        constructor
        · rintro h after (rfl | is_suffix)
          · simpa using here
          · exact h after is_suffix
        · exact fun h after is_suffix => h after (.inr is_suffix)

/-- The search stops at the first suffix it seeks. -/
theorem findWhere_eq_some :
    findWhere sought text = some n ↔
      ∃ before after, text = before ++ after ∧ byteCount before = n ∧ sought after = true ∧
        ∀ start rest, before = start ++ rest → rest ≠ [] → sought (rest ++ after) = false := by
  induction text generalizing n with
  | nil =>
      rw [findWhere]
      constructor
      · intro h
        split at h
        · next here =>
            cases h
            exact ⟨[], [], rfl, rfl, here, by simp⟩
        · cases h
      · rintro ⟨before, after, is_text, rfl, here, -⟩
        obtain ⟨rfl, rfl⟩ := append_eq_nil_iff.mp is_text.symm
        rw [if_pos here]
        rfl
  | cons c rest ih =>
      rw [findWhere]
      constructor
      · intro h
        by_cases here : sought (c :: rest) = true
        · rw [if_pos here, some.injEq] at h
          subst h
          exact ⟨[], c :: rest, rfl, rfl, here, by simp⟩
        · rw [if_neg here] at h
          obtain ⟨m, found, rfl⟩ := map_eq_some_iff.mp h
          obtain ⟨before, after, rfl, rfl, stops, first⟩ := ih.mp found
          refine ⟨c :: before, after, rfl, by simp, stops, ?_⟩
          intro start tail is_before nonempty
          cases start with
          | nil =>
              rw [nil_append] at is_before
              rw [← is_before]
              simpa using here
          | cons c' start =>
              rw [cons_append, List.cons.injEq] at is_before
              exact first start tail is_before.2 nonempty
      · rintro ⟨before, after, is_text, rfl, stops, first⟩
        cases before with
        | nil =>
            rw [nil_append] at is_text
            rw [is_text, if_pos stops]
            rfl
        | cons c' before =>
            rw [cons_append, List.cons.injEq] at is_text
            obtain ⟨rfl, rfl⟩ := is_text
            have before_it := first [] (c :: before) rfl (cons_ne_nil _ _)
            rw [cons_append] at before_it
            rw [if_neg (by rw [before_it]; simp),
              ih.mpr ⟨before, after, rfl, rfl, stops, fun start tail is_before nonempty =>
                first (c :: start) tail (by rw [is_before]; rfl) nonempty⟩]
            simp

/-- Where a search stops, the text can be cut. -/
theorem cut_of_findWhere (h : findWhere sought text = some n) :
    ∃ before after, text = before ++ after ∧ byteCount before = n ∧ sought after = true := by
  obtain ⟨before, after, is_text, is_len, stops, -⟩ := (findWhere_eq_some sought).mp h
  exact ⟨before, after, is_text, is_len, stops⟩

end Find

/-- `str::find`. -/
def find (needle text : List Char) : Option Nat := findWhere needle.isPrefixOf text

/-! ## A search by bytes -/

/-- An ASCII letter in lower case. -/
def asciiLower (byte : UInt8) : UInt8 := if 65 ≤ byte ∧ byte ≤ 90 then byte + 32 else byte

/-- The position of the first window that is the needle but for case. -/
def findBytes (needle : List UInt8) : List UInt8 → Option Nat
  | [] => none
  | byte :: rest =>
      if ((byte :: rest).take needle.length).map asciiLower = needle.map asciiLower then some 0
      else (findBytes needle rest).map (1 + ·)

/-- A search for an ASCII needle without regard to case, over the bytes. -/
def findAsciiCi (haystack needle : List Char) : Option Nat :=
  findBytes (encode needle) (encode haystack)

/-- A text starts with a needle, but for case. -/
def isPrefixCi (needle text : List Char) : Bool :=
  (text.take needle.length).map Char.toLower = needle.map Char.toLower

def IsAscii (c : Char) : Prop := c.val ≤ 127

instance (c : Char) : Decidable (IsAscii c) := inferInstanceAs (Decidable (_ ≤ _))

/-- An ASCII text has a byte for each character. -/
theorem byteCount_eq_length (ascii : ∀ c ∈ text, IsAscii c) :
    byteCount text = text.length := by
  induction text with
  | nil => rfl
  | cons c text ih =>
      rw [byteCount_cons, ih fun d mem => ascii d (mem_cons_of_mem _ mem),
        Char.utf8Size_eq_one_iff.mpr (ascii c mem_cons_self), length_cons]
      omega

theorem utf8EncodeChar_of_isAscii (h : IsAscii c) :
    String.utf8EncodeChar c = [c.val.toUInt8] :=
  String.utf8EncodeChar_eq_singleton (Char.utf8Size_eq_one_iff.mpr h)

theorem le_or {a b : UInt8} (h : n ≤ b.toNat) : n ≤ (a ||| b).toNat := by
  rw [UInt8.toNat_or]
  exact Nat.le_trans h Nat.right_le_or

/-- No byte of a character that is not ASCII is ASCII. -/
theorem le_of_mem_utf8EncodeChar (h : ¬ IsAscii c) {byte : UInt8}
    (mem : byte ∈ String.utf8EncodeChar c) : 128 ≤ byte.toNat := by
  have big : c.utf8Size ≠ 1 := fun one => h (Char.utf8Size_eq_one_iff.mp one)
  match size : c.utf8Size, c.utf8Size_pos, c.utf8Size_le_four with
  | 1, _, _ => exact absurd size big
  | 2, _, _ =>
      rw [String.utf8EncodeChar_eq_cons_cons size] at mem
      simp only [mem_cons, not_mem_nil, or_false] at mem
      rcases mem with rfl | rfl <;> exact le_or (by decide)
  | 3, _, _ =>
      rw [String.utf8EncodeChar_eq_cons_cons_cons size] at mem
      simp only [mem_cons, not_mem_nil, or_false] at mem
      rcases mem with rfl | rfl | rfl <;> exact le_or (by decide)
  | 4, _, _ =>
      rw [String.utf8EncodeChar_eq_cons_cons_cons_cons size] at mem
      simp only [mem_cons, not_mem_nil, or_false] at mem
      rcases mem with rfl | rfl | rfl | rfl <;> exact le_or (by decide)

theorem asciiLower_lt {byte : UInt8} : (asciiLower byte).toNat < 128 ↔ byte.toNat < 128 := by
  unfold asciiLower
  split
  · next upper =>
      have := UInt8.le_iff_toNat_le.mp upper.1
      have := UInt8.le_iff_toNat_le.mp upper.2
      rw [UInt8.toNat_add]
      simp at *
      omega
  · rfl

theorem toLower_isAscii : IsAscii c.toLower ↔ IsAscii c := by
  unfold IsAscii Char.toLower
  simp only [UInt32.le_iff_toNat_le]
  split
  · next upper =>
      have := UInt32.le_iff_toNat_le.mp upper.1
      have := UInt32.le_iff_toNat_le.mp upper.2
      simp [UInt32.toNat_add] at *
      omega
  · rfl

theorem toNat_toUInt8 (h : IsAscii c) : c.val.toUInt8.toNat = c.val.toNat := by
  have small := UInt32.le_iff_toNat_le.mp h
  rw [UInt32.toNat_toUInt8]
  exact Nat.mod_eq_of_lt (Nat.lt_of_le_of_lt small (by decide))

theorem toUInt8_inj {d : Char} (hc : IsAscii c) (hd : IsAscii d) :
    c.val.toUInt8 = d.val.toUInt8 ↔ c = d := by
  rw [Char.ext_iff, ← UInt8.toNat_inj, ← UInt32.toNat_inj, toNat_toUInt8 hc, toNat_toUInt8 hd]

/-- The lower case of an ASCII character's byte is the byte of its lower case. -/
theorem asciiLower_toUInt8 (h : IsAscii c) :
    asciiLower c.val.toUInt8 = c.toLower.val.toUInt8 := by
  apply UInt8.toNat_inj.mp
  rw [toNat_toUInt8 (toLower_isAscii.mpr h)]
  have same := toNat_toUInt8 h
  unfold asciiLower Char.toLower
  by_cases upper : c.val ≥ 'A'.val ∧ c.val ≤ 'Z'.val
  · have from_A : 65 ≤ c.val.toNat := UInt32.le_iff_toNat_le.mp upper.1
    have to_Z : c.val.toNat ≤ 90 := UInt32.le_iff_toNat_le.mp upper.2
    rw [dif_pos upper, if_pos ⟨UInt8.le_iff_toNat_le.mpr (same ▸ from_A),
      UInt8.le_iff_toNat_le.mpr (same ▸ to_Z)⟩, UInt8.toNat_add, same, UInt32.toNat_add]
    change (c.val.toNat + 32) % 2 ^ 8 = (c.val.toNat + 32) % 2 ^ 32
    omega
  · rw [dif_neg upper, if_neg, same]
    intro upper'
    have from_A := UInt8.le_iff_toNat_le.mp upper'.1
    have to_Z := UInt8.le_iff_toNat_le.mp upper'.2
    rw [same] at from_A to_Z
    exact upper ⟨UInt32.le_iff_toNat_le.mpr from_A, UInt32.le_iff_toNat_le.mpr to_Z⟩

/-- A window of the bytes is the needle, but for case, where the characters there are. -/
theorem window_iff {needle : List Char} (ascii : ∀ d ∈ needle, IsAscii d) (text : List Char) :
    ((encode text).take (encode needle).length).map asciiLower =
        (encode needle).map asciiLower ↔
      isPrefixCi needle text = true := by
  unfold isPrefixCi
  rw [decide_eq_true_eq]
  induction needle generalizing text with
  | nil => simp
  | cons d needle ih =>
      have d_ascii := ascii d mem_cons_self
      have ih := ih fun e mem => ascii e (mem_cons_of_mem _ mem)
      rw [encode_cons, utf8EncodeChar_of_isAscii d_ascii]
      cases text with
      | nil => simp
      | cons c rest =>
          by_cases c_ascii : IsAscii c
          · rw [encode_cons, utf8EncodeChar_of_isAscii c_ascii]
            simp only [singleton_append, length_cons, take_succ_cons, map_cons,
              List.cons.injEq, asciiLower_toUInt8 c_ascii, asciiLower_toUInt8 d_ascii, ih,
              toUInt8_inj (toLower_isAscii.mpr c_ascii) (toLower_isAscii.mpr d_ascii)]
          · obtain ⟨byte, bytes, is_bytes⟩ :=
              exists_cons_of_ne_nil (String.utf8EncodeChar_ne_nil (c := c))
            have big := le_of_mem_utf8EncodeChar c_ascii
              (is_bytes ▸ mem_cons_self : byte ∈ String.utf8EncodeChar c)
            rw [encode_cons, is_bytes]
            simp only [singleton_append, cons_append, length_cons,
              take_succ_cons, map_cons, List.cons.injEq]
            refine iff_of_false (fun same => ?_) fun same => ?_
            · have small : (asciiLower d.val.toUInt8).toNat < 128 := by
                rw [asciiLower_lt, toNat_toUInt8 d_ascii]
                exact Nat.lt_succ_of_le (UInt32.le_iff_toNat_le.mp d_ascii)
              rw [← same.1, asciiLower_lt] at small
              omega
            · exact c_ascii (toLower_isAscii.mp (same.1 ▸ toLower_isAscii.mpr d_ascii))

/-- The bytes of a character that is not ASCII are passed by. -/
theorem findBytes_append {needle : List UInt8} {d : UInt8} {ds : List UInt8}
    (is_needle : needle = d :: ds) (small : d.toNat < 128) {bytes : List UInt8}
    (big : ∀ byte ∈ bytes, 128 ≤ byte.toNat) (rest : List UInt8) :
    findBytes needle (bytes ++ rest) = (findBytes needle rest).map (bytes.length + ·) := by
  induction bytes with
  | nil => simp
  | cons byte bytes ih =>
      have byte_big := big byte mem_cons_self
      rw [cons_append, findBytes, if_neg, ih fun b mem => big b (mem_cons_of_mem _ mem)]
      · cases findBytes needle rest with
        | none => rfl
        | some n =>
            simp only [map_some, length_cons, some.injEq]
            omega
      · rw [is_needle]
        simp only [length_cons, take_succ_cons, map_cons, List.cons.injEq]
        intro same
        have lower := asciiLower_lt.mpr small
        rw [← same.1, asciiLower_lt] at lower
        omega

/-- The search over the bytes is a search over the characters. -/
theorem findAsciiCi_eq {needle : List Char} (ascii : ∀ d ∈ needle, IsAscii d) (filled : needle ≠ [])
    (haystack : List Char) :
    findAsciiCi haystack needle = findWhere (isPrefixCi needle) haystack := by
  unfold findAsciiCi
  obtain ⟨d, ds, rfl⟩ := exists_cons_of_ne_nil filled
  have d_ascii := ascii d mem_cons_self
  induction haystack with
  | nil => simp [findBytes, findWhere, isPrefixCi]
  | cons c rest ih =>
      have window := window_iff ascii (c :: rest)
      rw [findWhere]
      by_cases c_ascii : IsAscii c
      · have is_bytes := utf8EncodeChar_of_isAscii c_ascii
        have is_size := Char.utf8Size_eq_one_iff.mpr c_ascii
        rw [encode_cons c rest, is_bytes, singleton_append] at window ⊢
        rw [findBytes, ih, is_size]
        by_cases here : isPrefixCi (d :: ds) (c :: rest) = true
        · rw [if_pos here, if_pos (window.mpr here)]
        · rw [if_neg here, if_neg fun h => here (window.mp h)]
      · have not_here : ¬ isPrefixCi (d :: ds) (c :: rest) = true := by
          unfold isPrefixCi
          rw [decide_eq_true_eq]
          simp only [length_cons, take_succ_cons, map_cons, List.cons.injEq]
          intro same
          exact c_ascii (toLower_isAscii.mp (same.1 ▸ toLower_isAscii.mpr d_ascii))
        have is_needle : encode (d :: ds) = d.val.toUInt8 :: encode ds := by
          rw [encode_cons, utf8EncodeChar_of_isAscii d_ascii]
          rfl
        rw [if_neg not_here, encode_cons c rest, findBytes_append is_needle
          (by
            rw [toNat_toUInt8 d_ascii]
            exact Nat.lt_succ_of_le (UInt32.le_iff_toNat_le.mp d_ascii))
          (fun byte mem => le_of_mem_utf8EncodeChar c_ascii mem), ih,
          String.length_utf8EncodeChar]

end ByteOffset
