import Mathlib.Data.List.Basic

/-!
# Decoders fed piece by piece

A decoder looks at the head of what has arrived: it takes one item off, refuses the
head, or waits for more.  What it takes or refuses it must still take or refuse when
more arrives behind; then how the input was cut into pieces cannot change what is
decoded, and what is kept back is the undecoded tail of the whole input.

The module names no particular format.
-/

namespace Incremental

variable {β ρ ε : Type}

/-- A decoder, by its look at the head of the input. -/
structure Decoder (β ρ ε : Type) where
  head : List β → Except ε (Option (ρ × List β))
  shrinks : ∀ {input item rest}, head input = .ok (some (item, rest)) →
    rest.length < input.length
  item_append : ∀ {input item rest} (more : List β), head input = .ok (some (item, rest)) →
    head (input ++ more) = .ok (some (item, rest ++ more))
  bad_append : ∀ {input error} (more : List β), head input = .error error →
    head (input ++ more) = .error error

/-- What draining a buffer gives: the items, what stays in the buffer, and the error the
    head was refused with. -/
structure Drained (β ρ ε : Type) where
  items : List ρ
  rest : List β
  error : Option ε
  deriving DecidableEq, Repr

/-- The same, with items taken before it. -/
def Drained.after (items : List ρ) (d : Drained β ρ ε) : Drained β ρ ε :=
  { d with items := items ++ d.items }

namespace Decoder

variable (d : Decoder β ρ ε)

/-- Take items off the head until it waits or is refused. -/
def drainFuel : Nat → List β → Drained β ρ ε
  | 0, input => ⟨[], input, none⟩
  | fuel + 1, input =>
    match d.head input with
    | .error error => ⟨[], input, some error⟩
    | .ok none => ⟨[], input, none⟩
    | .ok (some (item, rest)) => (drainFuel fuel rest).after [item]

/-- The loop runs at most once for each element of the input. -/
def drain (input : List β) : Drained β ρ ε :=
  d.drainFuel (input.length + 1) input

/-- Feed the pieces one after another, each behind what was kept back, up to the first
    error. -/
def feed (held : List β) : List (List β) → Drained β ρ ε
  | [] => ⟨[], held, none⟩
  | piece :: pieces =>
    let drained := d.drain (held ++ piece)
    match drained.error with
    | none => (feed drained.rest pieces).after drained.items
    | some _ => drained

/-- `input` is `items` one after another, then `tail`. -/
inductive Reads : List β → List ρ → List β → Prop
  | done (input : List β) : Reads input [] input
  | item {input rest tail : List β} {item : ρ} {items : List ρ} :
      d.head input = .ok (some (item, rest)) → Reads rest items tail →
      Reads input (item :: items) tail

variable {d}

namespace Reads

variable {input tail : List β} {items : List ρ}

theorem append (more : List β) (h : d.Reads input items tail) :
    d.Reads (input ++ more) items (tail ++ more) := by
  induction h with
  | done input => exact .done _
  | item head _ ih => exact .item (d.item_append more head) ih

theorem trans {last : List β} {later : List ρ} (h : d.Reads input items tail)
    (h' : d.Reads tail later last) : d.Reads input (items ++ later) last := by
  induction h with
  | done input => exact h'
  | item head _ ih => exact .item head (ih h')

/-- Two readings of one input: the longer goes on where the shorter stopped. -/
theorem split {items' : List ρ} {tail' : List β} (h : d.Reads input items tail)
    (h' : d.Reads input items' tail') (hle : items.length ≤ items'.length) :
    ∃ later, items' = items ++ later ∧ d.Reads tail later tail' := by
  induction h generalizing items' with
  | done input => exact ⟨items', rfl, h'⟩
  | item head _ ih =>
      cases h' with
      | done => simp at hle
      | item head' rest' =>
          rw [head] at head'
          cases head'
          obtain ⟨later, rfl, onward⟩ := ih rest' (by simpa using hle)
          exact ⟨later, rfl, onward⟩

theorem nil_or_head (h : d.Reads input items tail) :
    items = [] ∨ ∃ item rest, d.head input = .ok (some (item, rest)) := by
  cases h with
  | done => exact .inl rfl
  | item head _ => exact .inr ⟨_, _, head⟩

/-- Fuel for one item an element is enough, whatever the tail's head then says. -/
theorem drainFuel_eq (h : d.Reads input items tail) :
    ∀ fuel, input.length < fuel →
      ∃ left, tail.length < left ∧ d.drainFuel fuel input = (d.drainFuel left tail).after items := by
  induction h with
  | done input =>
      intro fuel hfuel
      exact ⟨fuel, hfuel, by simp [Drained.after]⟩
  | item head _ ih =>
      intro fuel hfuel
      have := d.shrinks head
      obtain ⟨fuel, rfl⟩ : ∃ n, fuel = n + 1 := ⟨fuel - 1, by omega⟩
      obtain ⟨left, hleft, heq⟩ := ih fuel (by omega)
      refine ⟨left, hleft, ?_⟩
      simp only [drainFuel, head, heq]
      simp [Drained.after]

theorem drain_of_wait (h : d.Reads input items tail) (wait : d.head tail = .ok none) :
    d.drain input = ⟨items, tail, none⟩ := by
  obtain ⟨left, hleft, heq⟩ := h.drainFuel_eq (input.length + 1) (by omega)
  obtain ⟨left, rfl⟩ : ∃ n, left = n + 1 := ⟨left - 1, by omega⟩
  rw [drain, heq]
  simp [drainFuel, wait, Drained.after]

theorem drain_of_bad {error : ε} (h : d.Reads input items tail)
    (bad : d.head tail = .error error) : d.drain input = ⟨items, tail, some error⟩ := by
  obtain ⟨left, hleft, heq⟩ := h.drainFuel_eq (input.length + 1) (by omega)
  obtain ⟨left, rfl⟩ : ∃ n, left = n + 1 := ⟨left - 1, by omega⟩
  rw [drain, heq]
  simp [drainFuel, bad, Drained.after]

end Reads

/-- What the head of the undrained rest says. -/
def Verdict (d : Decoder β ρ ε) (rest : List β) : Option ε → Prop
  | none => d.head rest = .ok none
  | some error => d.head rest = .error error

theorem reads_drainFuel (fuel : Nat) (input : List β) (h : input.length < fuel) :
    d.Reads input (d.drainFuel fuel input).items (d.drainFuel fuel input).rest ∧
      d.Verdict (d.drainFuel fuel input).rest (d.drainFuel fuel input).error := by
  induction fuel generalizing input with
  | zero => omega
  | succ fuel ih =>
      rw [drainFuel]
      split
      · next error head => exact ⟨.done _, head⟩
      · next head => exact ⟨.done _, head⟩
      · next item rest head =>
        have := d.shrinks head
        obtain ⟨reads, verdict⟩ := ih rest (by omega)
        exact ⟨.item head reads, verdict⟩

/-- Draining reads items off the head until what is left has none to give. -/
theorem reads_drain (input : List β) :
    d.Reads input (d.drain input).items (d.drain input).rest ∧
      d.Verdict (d.drain input).rest (d.drain input).error :=
  reads_drainFuel _ _ (by omega)

/-- Only draining does that. -/
theorem Reads.drain_eq {input tail : List β} {items : List ρ} {error : Option ε}
    (h : d.Reads input items tail) (verdict : d.Verdict tail error) :
    d.drain input = ⟨items, tail, error⟩ := by
  cases error with
  | none => exact h.drain_of_wait verdict
  | some error => exact h.drain_of_bad verdict

/-- Draining goes on where it stopped. -/
theorem drain_append (input more : List β) :
    d.drain (input ++ more) =
      (d.drain ((d.drain input).rest ++ more)).after (d.drain input).items := by
  obtain ⟨reads, -⟩ := d.reads_drain input
  obtain ⟨later, verdict⟩ := d.reads_drain ((d.drain input).rest ++ more)
  exact ((reads.append more).trans later).drain_eq verdict

/-- What was refused stays refused, after the same items. -/
theorem drain_append_of_bad {input : List β} {error : ε} (more : List β)
    (h : (d.drain input).error = some error) :
    d.drain (input ++ more) =
      ⟨(d.drain input).items, (d.drain input).rest ++ more, some error⟩ := by
  obtain ⟨reads, verdict⟩ := d.reads_drain input
  rw [h] at verdict
  have bad : d.Verdict ((d.drain input).rest ++ more) (some error) := d.bad_append more verdict
  exact (reads.append more).drain_eq bad

end Decoder

end Incremental
