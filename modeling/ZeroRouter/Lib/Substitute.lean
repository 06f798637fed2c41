import Mathlib.Data.List.Basic
import Mathlib.Data.List.Infix
import Mathlib.Data.List.Count
import Mathlib.Tactic.Tauto

/-!
# Substitution in a text

A substitution replaces the places where an old text stands by a new one, from the left, each place
once.  Several rules are tried at each place in order.  Where every old text begins with a mark and
holds no other, and no new text can become part of an old one, substituting one rule after another is
substituting them together.  A rule that writes the mark itself is the exception: what it writes can
begin an old text of a later rule.

The module names no text of any particular program.
-/

namespace Substitute

open List

variable {α : Type} [DecidableEq α]

structure Rule (α : Type) where
  old : List α
  new : List α
  deriving DecidableEq, Repr

/-- The first rule whose old text stands at the head. -/
def ruleAt (rules : List (Rule α)) (text : List α) : Option (Rule α) :=
  rules.find? fun rule => rule.old.isPrefixOf text

/-- The substitution, some characters of a replaced place still to pass over. -/
def substituteFrom (rules : List (Rule α)) : Nat → List α → List α
  | _, [] => []
  | skip + 1, _ :: rest => substituteFrom rules skip rest
  | 0, c :: rest =>
      match ruleAt rules (c :: rest) with
      | some rule => rule.new ++ substituteFrom rules (rule.old.length - 1) rest
      | none => c :: substituteFrom rules 0 rest

def substitute (rules : List (Rule α)) (text : List α) : List α := substituteFrom rules 0 text

@[simp] theorem substitute_nil (rules : List (Rule α)) : substitute rules [] = [] := rfl

theorem substituteFrom_eq (rules : List (Rule α)) (skip : Nat) (text : List α) :
    substituteFrom rules skip text = substitute rules (text.drop skip) := by
  induction skip generalizing text with
  | zero => rfl
  | succ skip ih =>
      cases text with
      | nil => rfl
      | cons c rest => exact ih rest

theorem substitute_cons {rules : List (Rule α)} {c : α} {rest : List α}
    (h : ruleAt rules (c :: rest) = none) :
    substitute rules (c :: rest) = c :: substitute rules rest := by
  unfold substitute
  rw [substituteFrom, h]

theorem ruleAt_eq_some {rules : List (Rule α)} {rule : Rule α} {text : List α}
    (h : ruleAt rules text = some rule) : rule ∈ rules ∧ ∃ rest, text = rule.old ++ rest := by
  unfold ruleAt at h
  refine ⟨mem_of_find?_eq_some h, ?_⟩
  have holds := find?_some h
  obtain ⟨rest, is_text⟩ := List.isPrefixOf_iff_prefix.mp holds
  exact ⟨rest, is_text.symm⟩

theorem ruleAt_append (rules later : List (Rule α)) (text : List α) :
    ruleAt (rules ++ later) text = (ruleAt rules text).or (ruleAt later text) :=
  find?_append

/-! ## Marked rules -/

/-- Every old text begins with the mark and holds no other. -/
def Marked (mark : α) (rules : List (Rule α)) : Prop :=
  ∀ rule ∈ rules, rule.old = mark :: rule.old.tail ∧ mark ∉ rule.old.tail

section Marked

variable {mark : α} {rules later : List (Rule α)} {rule : Rule α} {c : α} {after : List α}

/-- What follows the place of a rule is shorter. -/
theorem length_after_lt {rest body : List α} {n : Nat} (len : (c :: rest).length = n)
    (is_rest : rest = body ++ after) : after.length < n := by
  rw [length_cons, is_rest, length_append] at len
  omega

theorem ruleAt_of_ne (h : Marked mark rules) (other : c ≠ mark) (rest : List α) :
    ruleAt rules (c :: rest) = none := by
  unfold ruleAt
  rw [find?_eq_none]
  intro rule mem is_prefix
  rw [(h rule mem).1, List.isPrefixOf_iff_prefix, cons_prefix_cons] at is_prefix
  exact other is_prefix.1.symm

/-- The place of a rule: its mark, its body and what follows. -/
theorem of_ruleAt (h : Marked mark rules) {rest : List α}
    (found : ruleAt rules (c :: rest) = some rule) :
    rule ∈ rules ∧ mark ∉ rule.old.tail ∧ c = mark ∧ ∃ after, rest = rule.old.tail ++ after := by
  obtain ⟨mem, after, is_text⟩ := ruleAt_eq_some found
  rw [(h rule mem).1, cons_append, List.cons.injEq] at is_text
  exact ⟨mem, (h rule mem).2, is_text.1, after, is_text.2⟩

theorem substitute_of_ruleAt (h : Marked mark rules)
    (found : ruleAt rules (mark :: (rule.old.tail ++ after)) = some rule) :
    substitute rules (mark :: (rule.old.tail ++ after)) = rule.new ++ substitute rules after := by
  have is_length : rule.old.length - 1 = rule.old.tail.length := length_tail.symm
  unfold substitute
  rw [substituteFrom, found]
  dsimp only
  rw [substituteFrom_eq, is_length, drop_left]
  rfl

/-- A text without the mark stays as it is. -/
theorem substitute_unmarked (h : Marked mark rules) {front : List α} (unmarked : mark ∉ front)
    (rest : List α) : substitute rules (front ++ rest) = front ++ substitute rules rest := by
  induction front with
  | nil => rfl
  | cons c front ih =>
      rw [mem_cons, not_or] at unmarked
      rw [cons_append, substitute_cons (ruleAt_of_ne h (Ne.symm unmarked.1) _),
        ih unmarked.2]
      rfl

/-- What a substitution writes cannot be taken for an unmarked text that was not there. -/
theorem prefix_substitute (h : Marked mark rules) {body : List α} (unmarked : mark ∉ body)
    (fresh : ∀ rule ∈ rules, ∃ x more, rule.new = x :: more ∧ x ∉ body) (text : List α) :
    body <+: substitute rules text ↔ body <+: text := by
  induction body generalizing text with
  | nil => simp
  | cons b body ih =>
      cases text with
      | nil => simp
      | cons c rest =>
          cases found : ruleAt rules (c :: rest) with
          | some rule =>
              obtain ⟨mem, -, rfl, after, rfl⟩ := of_ruleAt h found
              obtain ⟨x, more, is_new, not_mem⟩ := fresh rule mem
              rw [substitute_of_ruleAt h found, is_new, cons_append, cons_prefix_cons,
                cons_prefix_cons]
              refine iff_of_false (fun same => ?_) fun same => ?_
              · exact not_mem (same.1 ▸ mem_cons_self)
              · exact unmarked (same.1 ▸ mem_cons_self)
          | none =>
              rw [substitute_cons found, cons_prefix_cons, cons_prefix_cons,
                ih (fun mem => unmarked (mem_cons_of_mem _ mem))]
              intro rule mem
              obtain ⟨x, more, is_new, not_mem⟩ := fresh rule mem
              exact ⟨x, more, is_new, fun mem' => not_mem (mem_cons_of_mem _ mem')⟩

/-- The bodies of later rules are not written by earlier ones. -/
def Fresh (rules later : List (Rule α)) : Prop :=
  ∀ rule ∈ rules, ∃ x more, rule.new = x :: more ∧ ∀ rule' ∈ later, x ∉ rule'.old.tail

/-- It is enough to look at the first character of each new text. -/
theorem fresh_of_heads (h : ∀ rule ∈ rules, rule.new.head?.any fun x =>
    later.all fun rule' => x ∉ rule'.old.tail) : Fresh rules later := by
  intro rule mem
  have first := h rule mem
  cases is_new : rule.new with
  | nil =>
      rw [is_new] at first
      cases first
  | cons x more =>
      rw [is_new] at first
      exact ⟨x, more, rfl, by simpa using first⟩

theorem Fresh.prefix_iff (fresh : Fresh rules later) (h : Marked mark rules)
    (h' : Marked mark later) (mem : rule ∈ later) (text : List α) :
    rule.old.tail <+: substitute rules text ↔ rule.old.tail <+: text := by
  refine prefix_substitute h (h' rule mem).2 (fun first first_mem => ?_) text
  obtain ⟨x, more, is_new, not_mem⟩ := fresh first first_mem
  exact ⟨x, more, is_new, not_mem rule mem⟩

/-- A later rule stands at a character that is kept exactly where it stood before. -/
theorem ruleAt_substitute (h : Marked mark rules) (h' : Marked mark later)
    (fresh : Fresh rules later) (c : α) (rest : List α) :
    ruleAt later (c :: substitute rules rest) = ruleAt later (c :: rest) := by
  unfold ruleAt
  have same : ∀ rule ∈ later, rule.old.isPrefixOf (c :: substitute rules rest) =
      rule.old.isPrefixOf (c :: rest) := by
    intro rule mem
    rw [Bool.eq_iff_iff, List.isPrefixOf_iff_prefix, List.isPrefixOf_iff_prefix, (h' rule mem).1,
      cons_prefix_cons, cons_prefix_cons, fresh.prefix_iff h h' mem]
  clear h' fresh
  induction later with
  | nil => rfl
  | cons rule later ih =>
      rw [find?_cons, find?_cons, same rule mem_cons_self,
        ih fun rule' mem => same rule' (mem_cons_of_mem _ mem)]

/-- A later rule that stands at a kept mark is substituted as if it were alone. -/
theorem substitute_kept_mark (h : Marked mark rules) (h' : Marked mark later)
    (fresh : Fresh rules later)
    (found : ruleAt later (mark :: (rule.old.tail ++ after)) = some rule) :
    substitute later (mark :: substitute rules (rule.old.tail ++ after)) =
      rule.new ++ substitute later (substitute rules after) := by
  have kept := ruleAt_substitute h h' fresh mark (rule.old.tail ++ after)
  rw [found, substitute_unmarked h (of_ruleAt h' found).2.1] at kept
  rw [substitute_unmarked h (of_ruleAt h' found).2.1, substitute_of_ruleAt h' kept]

/-- Where the earlier rules write no mark, the later ones can be substituted with them. -/
theorem substitute_substitute (h : Marked mark rules) (h' : Marked mark later)
    (fresh : Fresh rules later) (markless : ∀ rule ∈ rules, mark ∉ rule.new) (text : List α) :
    substitute later (substitute rules text) = substitute (rules ++ later) text := by
  have all : Marked mark (rules ++ later) := fun rule mem =>
    (mem_append.mp mem).elim (h rule) (h' rule)
  induction len : text.length using Nat.strong_induction_on generalizing text with
  | _ n ih =>
    cases text with
    | nil => rfl
    | cons c rest =>
        have both := ruleAt_append rules later (c :: rest)
        cases found : ruleAt rules (c :: rest) with
        | some rule =>
            rw [found, Option.some_or] at both
            obtain ⟨mem, -, rfl, after, rfl⟩ := of_ruleAt h found
            rw [substitute_of_ruleAt h found, substitute_of_ruleAt all both,
              substitute_unmarked h' (markless rule mem)]
            congr 1
            exact ih after.length (length_after_lt len rfl) after rfl
        | none =>
            rw [found, Option.none_or] at both
            rw [substitute_cons found]
            cases found' : ruleAt later (c :: rest) with
            | some rule =>
                rw [found'] at both
                obtain ⟨mem, -, rfl, after, rfl⟩ := of_ruleAt h' found'
                rw [substitute_kept_mark h h' fresh found', substitute_of_ruleAt all both]
                congr 1
                exact ih after.length (length_after_lt len rfl) after rfl
            | none =>
                rw [substitute_cons (by rw [ruleAt_substitute h h' fresh, found']),
                  substitute_cons (both.trans found')]
                congr 1
                exact ih rest.length (by rw [← len]; simp) rest rfl

/-- Rules substituted one after another. -/
theorem foldl_substitute (h : Marked mark rules) (fresh : Fresh rules rules)
    (markless : ∀ rule ∈ rules, mark ∉ rule.new) (text : List α) :
    rules.foldl (fun text rule => substitute [rule] text) text = substitute rules text := by
  induction rules using List.reverseRecOn with
  | nil =>
      induction text with
      | nil => rfl
      | cons c rest ih =>
          rw [foldl_nil] at ih ⊢
          rw [substitute_cons rfl, ← ih]
  | append_singleton rules rule ih =>
      have first : ∀ rule' ∈ rules, rule' ∈ rules ++ [rule] := fun _ mem =>
        mem_append_left _ mem
      have last : ∀ rule' ∈ [rule], rule' ∈ rules ++ [rule] := fun _ mem =>
        mem_append_right _ mem
      have ih := ih (fun rule' mem => h rule' (first rule' mem))
        (fun rule' mem => by
          obtain ⟨x, more, is_new, not_mem⟩ := fresh rule' (first rule' mem)
          exact ⟨x, more, is_new, fun other mem' => not_mem other (first other mem')⟩)
        fun rule' mem => markless rule' (first rule' mem)
      rw [foldl_append, ih, foldl_cons, foldl_nil]
      refine substitute_substitute (fun rule' mem => h rule' (first rule' mem))
        (fun rule' mem => h rule' (last rule' mem)) (fun rule' mem => ?_)
        (fun rule' mem => markless rule' (first rule' mem)) text
      obtain ⟨x, more, is_new, not_mem⟩ := fresh rule' (first rule' mem)
      exact ⟨x, more, is_new, fun other mem' => not_mem other (last other mem')⟩

end Marked

/-! ## A rule that writes the mark -/

section Escape

variable (escape : Rule α) (later : List (Rule α))

/-- The escape stands before the body of a later rule. -/
def Doubled (text : List α) : Prop := ∃ rule ∈ later, escape.old ++ rule.old.tail <:+: text

/-- An escape among rules that write no mark: `plain` ones before it, `later` ones after. -/
structure Escapes (mark : α) (plain : List (Rule α)) : Prop where
  marked : Marked mark (plain ++ [escape] ++ later)
  writes : escape.new = [mark]
  fresh : Fresh (plain ++ [escape]) later
  markless : ∀ rule ∈ plain ++ later, mark ∉ rule.new
  apart : ∀ rule ∈ plain, ¬ rule.old <+: escape.old ∧ ¬ escape.old <+: rule.old

variable {escape later} {mark : α} {plain : List (Rule α)}

theorem doubled_cons (c : α) (rest : List α) :
    Doubled escape later (c :: rest) ↔
      (∃ rule ∈ later, escape.old ++ rule.old.tail <+: c :: rest) ∨
        Doubled escape later rest := by
  unfold Doubled
  simp only [infix_cons_iff, ← exists_or, ← and_or_left]

theorem Escapes.old_eq (h : Escapes escape later mark plain) :
    escape.old = mark :: escape.old.tail ∧ mark ∉ escape.old.tail :=
  h.marked escape (by simp)

/-- No escape stands where the rules before and with it do not. -/
theorem Escapes.doubled_cons_of_none (h : Escapes escape later mark plain) {c : α} {rest : List α}
    (none_here : ¬ escape.old <+: c :: rest) :
    Doubled escape later (c :: rest) ↔ Doubled escape later rest := by
  rw [doubled_cons, or_iff_right]
  rintro ⟨rule, -, is_prefix⟩
  exact none_here ((prefix_append _ _).trans is_prefix)

theorem Escapes.doubled_append (h : Escapes escape later mark plain) {front : List α}
    (unmarked : mark ∉ front) (rest : List α) :
    Doubled escape later (front ++ rest) ↔ Doubled escape later rest := by
  induction front with
  | nil => rfl
  | cons c front ih =>
      rw [mem_cons, not_or] at unmarked
      rw [cons_append, h.doubled_cons_of_none, ih unmarked.2]
      rw [h.old_eq.1, cons_prefix_cons]
      exact fun same => unmarked.1 same.1

/-- The same text written before both results. -/
theorem written_before {p : α → Bool} {left left' right right' front : List α} {d d' : Prop}
    (same : d ↔ d') (is_left : left = front ++ left') (is_right : right = front ++ right')
    (h : (¬ d' ∧ left' = right') ∨ (d' ∧ left'.countP p < right'.countP p)) :
    (¬ d ∧ left = right) ∨ (d ∧ left.countP p < right.countP p) := by
  subst is_left is_right
  rw [same, append_right_inj, countP_append, countP_append]
  exact h.imp_right fun less => ⟨less.1, by omega⟩

/-- Substituting the later rules after the others writes what substituting all together does, except
    where an escape is doubled; there it writes less. -/
theorem Escapes.substitute_later (h : Escapes escape later mark plain) (p : α → Bool)
    (lighter : ∀ rule ∈ later, rule.new.countP p < rule.old.countP p) (text : List α) :
    (¬ Doubled escape later text ∧
        substitute later (substitute (plain ++ [escape]) text) =
          substitute (plain ++ [escape] ++ later) text) ∨
      (Doubled escape later text ∧
        (substitute later (substitute (plain ++ [escape]) text)).countP p <
          (substitute (plain ++ [escape] ++ later) text).countP p) := by
  have marked : Marked mark (plain ++ [escape]) := fun rule mem =>
    h.marked rule (mem_append_left _ mem)
  have marked' : Marked mark later := fun rule mem => h.marked rule (mem_append_right _ mem)
  induction len : text.length using Nat.strong_induction_on generalizing text with
  | _ n ih =>
    cases text with
    | nil =>
        refine .inl ⟨?_, rfl⟩
        rintro ⟨rule, -, is_infix⟩
        have := eq_nil_of_infix_nil is_infix
        rw [h.old_eq.1] at this
        cases this
    | cons c rest =>
        have both := ruleAt_append (plain ++ [escape]) later (c :: rest)
        cases found : ruleAt (plain ++ [escape]) (c :: rest) with
        | some rule =>
            rw [found, Option.some_or] at both
            obtain ⟨mem, unmarked, rfl, after, rfl⟩ := of_ruleAt marked found
            have shorter := length_after_lt len rfl
            have is_left := substitute_of_ruleAt marked found
            have is_right := substitute_of_ruleAt h.marked both
            rcases mem_append.mp mem with is_plain | is_escape
            · -- no escape stands where a plain rule does
              refine written_before ?_ (by
                rw [is_left, substitute_unmarked marked'
                  (h.markless rule (mem_append_left _ is_plain))]) is_right
                (ih after.length shorter after rfl)
              rw [h.doubled_cons_of_none, h.doubled_append unmarked]
              intro is_prefix
              have is_rule : rule.old <+: c :: (rule.old.tail ++ after) := by
                rw [(marked rule mem).1]
                exact prefix_append _ _
              exact (List.prefix_or_prefix_of_prefix is_rule is_prefix).elim
                (h.apart rule is_plain).1 (h.apart rule is_plain).2
            · cases mem_singleton.mp is_escape
              rw [h.writes, singleton_append] at is_left is_right
              rw [is_left, is_right]
              cases found' : ruleAt later (c :: after) with
              | some rule =>
                  obtain ⟨mem', unmarked', -, after', rfl⟩ := of_ruleAt marked' found'
                  refine .inr ⟨⟨rule, mem', ?_⟩, ?_⟩
                  · rw [h.old_eq.1]
                    exact ⟨[], after', by simp⟩
                  · rw [substitute_kept_mark marked marked' h.fresh found',
                      substitute_unmarked h.marked unmarked', ← cons_append,
                      ← (marked' rule mem').1, countP_append, countP_append]
                    have less := lighter rule mem'
                    have rest_le : (substitute later
                          (substitute (plain ++ [escape]) after')).countP p ≤
                        (substitute (plain ++ [escape] ++ later) after').countP p := by
                      have shorter' : after'.length < n := by
                        rw [length_append] at shorter
                        omega
                      rcases ih after'.length shorter' after' rfl with ⟨-, same⟩ | ⟨-, fewer⟩
                      · rw [same]
                      · exact fewer.le
                    omega
              | none =>
                  refine written_before ?_ (by
                    rw [substitute_cons (by rw [ruleAt_substitute marked marked' h.fresh, found']),
                      ← singleton_append]) (singleton_append ..).symm
                    (ih after.length shorter after rfl)
                  rw [doubled_cons, h.doubled_append unmarked, or_iff_right]
                  rintro ⟨rule, mem', is_prefix⟩
                  rw [h.old_eq.1, cons_append, cons_prefix_cons, tail_cons,
                    prefix_append_right_inj] at is_prefix
                  unfold ruleAt at found'
                  rw [find?_eq_none] at found'
                  refine found' rule mem' ?_
                  rw [(marked' rule mem').1, List.isPrefixOf_iff_prefix, cons_prefix_cons]
                  exact ⟨rfl, is_prefix.2⟩
        | none =>
            rw [found, Option.none_or] at both
            have none_here : ¬ escape.old <+: c :: rest := by
              unfold ruleAt at found
              rw [find?_eq_none] at found
              intro is_prefix
              exact found escape (by simp) (List.isPrefixOf_iff_prefix.mpr is_prefix)
            rw [substitute_cons found]
            cases found' : ruleAt later (c :: rest) with
            | some rule =>
                rw [found'] at both
                obtain ⟨mem, unmarked, rfl, after, rfl⟩ := of_ruleAt marked' found'
                have shorter := length_after_lt len rfl
                refine written_before ?_ (substitute_kept_mark marked marked' h.fresh found')
                  (substitute_of_ruleAt h.marked both) (ih after.length shorter after rfl)
                rw [h.doubled_cons_of_none none_here, h.doubled_append unmarked]
            | none =>
                refine written_before (h.doubled_cons_of_none none_here) (by
                    rw [substitute_cons (by rw [ruleAt_substitute marked marked' h.fresh, found']),
                      ← singleton_append])
                  (by rw [substitute_cons (both.trans found'), ← singleton_append])
                  (ih rest.length (by rw [← len]; simp) rest rfl)

end Escape

end Substitute
