import ZeroRouter.Wire.Upstream

/-!
# The loop every stream machine runs in

An invariant of a machine and of what its loop yielded so far holds of the whole stream, when each
payload keeps it and each way out of the loop ends in the conclusion.
-/

namespace ZeroRouter.Wire

open List

variable {μ : Type} {events : List StreamEvent} {items : List StreamItem}

/-- The payloads read. -/
def readsOf (items : List StreamItem) : List String :=
  items.filterMap fun
    | .read payload => some payload
    | _ => none

/-- The usages reported. -/
def usagesOf (items : List StreamItem) : List TokenUsage :=
  items.filterMap fun
    | .event (.usage usage) => some usage
    | _ => none

@[simp] theorem readsOf_append (items later : List StreamItem) :
    readsOf (items ++ later) = readsOf items ++ readsOf later := filterMap_append

@[simp] theorem usagesOf_append (items later : List StreamItem) :
    usagesOf (items ++ later) = usagesOf items ++ usagesOf later := filterMap_append

@[simp] theorem readsOf_events (events : List StreamEvent) :
    readsOf (events.map .event) = [] := by
  induction events with
  | nil => rfl
  | cons event events ih => exact ih

namespace StreamMachine

/-- Payloads after payloads. -/
theorem feed_append (machine : StreamMachine μ) (payloads more : List String) (state next : μ)
    (items : List StreamItem) (fed : machine.feed state payloads = (items, some next)) :
    machine.feed state (payloads ++ more) =
      (items ++ (machine.feed next more).1, (machine.feed next more).2) := by
  induction payloads generalizing state items with
  | nil =>
      cases fed
      rfl
  | cons payload payloads ih =>
      rw [cons_append]
      rcases handled : machine.handlePayload state payload with ⟨middle, outcome⟩
      simp only [feed, handled] at fed ⊢
      cases outcome with
      | error error => cases fed
      | ok events =>
          simp only at fed ⊢
          rcases later : machine.feed middle payloads with ⟨rest, out⟩
          rw [later] at fed
          obtain ⟨rfl, rfl⟩ : _ = items ∧ _ = some next := by simpa using fed
          rw [ih middle rest later]
          simp

/-- What payloads leave is what the first of them leave, and the others from there. -/
theorem feed_split (machine : StreamMachine μ) (payloads more : List String) (state last : μ)
    (items : List StreamItem) (fed : machine.feed state (payloads ++ more) = (items, some last)) :
    ∃ first next later, machine.feed state payloads = (first, some next) ∧
      machine.feed next more = (later, some last) ∧ items = first ++ later := by
  induction payloads generalizing state items with
  | nil => exact ⟨[], state, items, rfl, fed, rfl⟩
  | cons payload payloads ih =>
      rw [cons_append] at fed
      rcases handled : machine.handlePayload state payload with ⟨middle, outcome⟩
      simp only [feed, handled] at fed ⊢
      cases outcome with
      | error error => cases fed
      | ok events =>
          simp only at fed ⊢
          rcases whole : machine.feed middle (payloads ++ more) with ⟨rest, out⟩
          rw [whole] at fed
          obtain ⟨rfl, rfl⟩ : _ = items ∧ out = some last := by simpa using fed
          obtain ⟨first, next, later, is_first, is_later, rfl⟩ := ih middle rest whole
          exact ⟨_, next, later, by rw [is_first], is_later, by simp⟩

/-- Payloads that leave a machine have not failed. -/
theorem failed_not_mem_feed (machine : StreamMachine μ) (payloads : List String) (state last : μ)
    (items : List StreamItem) (fed : machine.feed state payloads = (items, some last))
    (error : StreamError) :
    .failed error ∉ items := by
  induction payloads generalizing state items with
  | nil =>
      obtain ⟨rfl, -⟩ := Prod.mk.inj fed
      exact not_mem_nil
  | cons payload payloads ih =>
      rcases handled : machine.handlePayload state payload with ⟨middle, outcome⟩
      rw [feed, handled] at fed
      cases outcome with
      | error error => cases fed
      | ok events =>
          obtain ⟨rfl, is_last⟩ := Prod.mk.inj fed
          have later := ih middle _ (Prod.ext rfl is_last)
          simpa using later

/-- However the payloads are spread over reads, a machine that finishes with the last of them yields
    what it makes of all. -/
theorem run_of_feed (machine : StreamMachine μ) (reads : List (List String)) (body : List String)
    (closing : String) (state last : μ) (items : List StreamItem)
    (whole : reads.flatten = body ++ [closing])
    (fed : machine.feed state (body ++ [closing]) = (items, some last))
    (live : ∀ first more, body = first ++ more → ∀ told next,
      machine.feed state first = (told, some next) → machine.finished next = false)
    (ended : machine.finished last = true) : machine.run state (reads.map .ok) = items := by
  induction reads generalizing state body items with
  | nil => exact absurd whole (by simp)
  | cons read reads ih =>
      rw [flatten_cons] at whole
      rw [map_cons, run]
      rcases append_eq_append_iff.mp whole with ⟨mid, rfl, is_rest⟩ | ⟨mid, is_read, is_rest⟩
      · -- the terminal is in a later read
        rw [append_assoc] at fed
        obtain ⟨first, next, later, is_first, is_later, rfl⟩ :=
          machine.feed_split read _ state last items fed
        rw [is_first]
        dsimp only
        rw [live read mid rfl first next is_first, if_neg Bool.false_ne_true]
        congr 1
        refine ih mid next later is_rest is_later ?_
        rintro ahead more rfl told after fed_ahead
        refine live (read ++ ahead) more (append_assoc _ _ _).symm (first ++ told) after ?_
        rw [machine.feed_append read ahead state next first is_first, fed_ahead]
      · cases mid with
        | nil =>
            -- the terminal opens the next read
            rw [append_nil] at is_read
            subst is_read
            obtain ⟨first, next, later, is_first, is_later, rfl⟩ :=
              machine.feed_split read _ state last items fed
            rw [is_first]
            dsimp only
            rw [live read [] (append_nil _).symm first next is_first,
              if_neg Bool.false_ne_true]
            congr 1
            refine ih [] next later is_rest.symm is_later ?_
            intro ahead more none_ told after fed_ahead
            obtain ⟨rfl, -⟩ := append_eq_nil_iff.mp none_.symm
            cases fed_ahead
            exact live read [] (append_nil _).symm first next is_first
        | cons payload mid =>
            rw [cons_append, List.cons.injEq] at is_rest
            obtain ⟨rfl, none_⟩ := is_rest
            obtain ⟨rfl, no_rest⟩ := append_eq_nil_iff.mp none_.symm
            rw [is_read, fed]
            dsimp only
            rw [if_pos ended]

section Rule

variable {μ : Type} (machine : StreamMachine μ)
  (Told : μ → List StreamItem → Prop) (Fits : μ → List String → Prop)
  (Done : List StreamItem → Prop)

/-- What the payloads of one read leave. -/
theorem feed_told
    (step : ∀ state told payload rest, Told state told → Fits state (payload :: rest) →
      ∀ next events, machine.handlePayload state payload = (next, .ok events) →
        Told next (told ++ .read payload :: events.map .event) ∧ Fits next rest)
    (broken : ∀ state told payload rest, Told state told → Fits state (payload :: rest) →
      ∀ next error, machine.handlePayload state payload = (next, .error error) →
        Done (told ++ .read payload :: machine.abandon next error))
    (payloads : List String) (state : μ) (told : List StreamItem) (holds : Told state told)
    (fits : Fits state payloads) :
    match machine.feed state payloads with
    | (items, none) => Done (told ++ items)
    | (items, some next) => Told next (told ++ items) := by
  induction payloads generalizing state told with
  | nil => simpa [feed] using holds
  | cons payload rest ih =>
      unfold feed
      rcases handled : machine.handlePayload state payload with ⟨next, outcome⟩
      cases outcome with
      | error error => exact broken state told payload rest holds fits next error handled
      | ok events =>
          obtain ⟨kept, fits⟩ := step state told payload rest holds fits next events handled
          have later := ih next _ kept fits
          simp only
          rcases fed : machine.feed next rest with ⟨items, out⟩
          rw [fed] at later
          cases out with
          | none => simpa using later
          | some last => simpa using later

/-- What the whole stream leaves. -/
theorem run_told
    (step : ∀ state told payload rest, Told state told → Fits state (payload :: rest) →
      ∀ next events, machine.handlePayload state payload = (next, .ok events) →
        Told next (told ++ .read payload :: events.map .event) ∧ Fits next rest)
    (broken : ∀ state told payload rest, Told state told → Fits state (payload :: rest) →
      ∀ next error, machine.handlePayload state payload = (next, .error error) →
        Done (told ++ .read payload :: machine.abandon next error))
    (lost : ∀ state told error, Told state told → machine.finished state = false →
      Done (told ++ machine.abandon state error))
    (closed : ∀ state told, Told state told → machine.finished state = false →
      Done (told ++ ((machine.close state).1.map .event ++
        ((machine.close state).2.map .failed).toList)))
    (ended : ∀ state told, Told state told → machine.finished state = true → Done told)
    (reads : List (Except StreamError (List String)))
    (fits : ∀ payloads, .ok payloads ∈ reads → ∀ state told, Told state told →
      machine.finished state = false → Fits state payloads)
    (state : μ) (told : List StreamItem) (holds : Told state told)
    (live : machine.finished state = false) : Done (told ++ machine.run state reads) := by
  induction reads generalizing state told with
  | nil => exact closed state told holds live
  | cons read reads ih =>
      cases read with
      | error error => exact lost state told error holds live
      | ok payloads =>
          have fed := feed_told machine Told Fits Done step broken payloads state told holds
            (fits payloads mem_cons_self state told holds live)
          unfold run
          rcases drained : machine.feed state payloads with ⟨items, out⟩
          rw [drained] at fed
          cases out with
          | none => exact fed
          | some next =>
              simp only at fed ⊢
              cases ends : machine.finished next with
              | true => simpa using ended next _ fed ends
              | false =>
                  have later := ih (fun payloads mem => fits payloads (mem_cons_of_mem _ mem))
                    next _ fed ends
                  simpa using later

end Rule

end StreamMachine

/-! ## Around the terminal -/

/-- Neither the usage nor the terminal. -/
def Plain : StreamEvent → Prop
  | .textDelta _ | .toolCall _ => True
  | .usage _ | .final _ => False

theorem usagesOf_plain (plain : ∀ event ∈ events, Plain event) :
    usagesOf (events.map .event) = [] := by
  rw [usagesOf, filterMap_map, filterMap_eq_nil_iff]
  intro event mem
  cases event with
  | usage usage => exact (plain _ mem).elim
  | textDelta _ => rfl
  | toolCall _ => rfl
  | final _ => rfl

theorem usagesOf_read (payload : String) (later : List StreamItem) :
    usagesOf (.read payload :: later) = usagesOf later := rfl

theorem readsOf_read (payload : String) (later : List StreamItem) :
    readsOf (.read payload :: later) = payload :: readsOf later := rfl

/-- No terminal yet. -/
def Open (items : List StreamItem) : Prop := ∀ final, .event (.final final) ∉ items

theorem Open.plain (unended : Open items) (payload : String)
    (plain : ∀ event ∈ events, Plain event) :
    Open (items ++ .read payload :: events.map .event) := by
  intro final mem
  rcases mem_append.mp mem with mem | mem
  · exact unended final mem
  · simp only [mem_cons, reduceCtorEq, mem_map, StreamItem.event.injEq,
      exists_eq_right, false_or] at mem
    exact plain _ mem

/-- What may follow a terminal. -/
def AfterFinal (P : StreamItem → Prop) (earlier later : StreamItem) : Prop :=
  (∃ final, earlier = .event (.final final)) → P later

section AfterFinal

variable {P : StreamItem → Prop} {items later : List StreamItem}

theorem afterFinal_of_open (unended : Open items) (rest : later.Pairwise (AfterFinal P)) :
    (items ++ later).Pairwise (AfterFinal P) := by
  rw [pairwise_append]
  refine ⟨pairwise_of_forall_mem_list ?_, rest, ?_⟩
  · rintro earlier mem later _ ⟨final, rfl⟩
    exact absurd mem (unended final)
  · rintro earlier mem later _ ⟨final, rfl⟩
    exact absurd mem (unended final)

theorem afterFinal_of_all (first : items.Pairwise (AfterFinal P)) (all : ∀ item ∈ later, P item) :
    (items ++ later).Pairwise (AfterFinal P) := by
  rw [pairwise_append]
  refine ⟨first, ?_, fun _ _ item mem _ => all item mem⟩
  exact pairwise_of_forall_mem_list fun _ _ item mem _ => all item mem

end AfterFinal

def NoUsage (item : StreamItem) : Prop := ∀ usage, item ≠ .event (.usage usage)

theorem noUsage_of_none (none : usagesOf items = []) :
    ∀ item ∈ items, NoUsage item := by
  rintro item mem usage rfl
  have reported : usage ∈ usagesOf items := mem_filterMap.mpr ⟨_, mem, rfl⟩
  rw [none] at reported
  cases reported

end ZeroRouter.Wire
