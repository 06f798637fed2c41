import ZeroRouter.Wire.ChatStream
import Mathlib.Data.List.Sort
import Mathlib.Data.List.Perm.Subperm

/-!
# Tool calls from their fragments

A call arrives in any fragments under its index, or whole under none; the slots it fills are the
calls in order.
-/

namespace ZeroRouter.Wire

open List

variable {slots : Ordered.SortedMap Nat PendingTool} {call : ToolCall}

/-- Pieces in order. -/
def joined (pieces : List String) : String := pieces.foldr (· ++ ·) ""

@[simp] theorem joined_nil : joined [] = "" := rfl

@[simp] theorem joined_cons (piece : String) (pieces : List String) :
    joined (piece :: pieces) = piece ++ joined pieces := rfl

@[simp] theorem joined_append (pieces more : List String) :
    joined (pieces ++ more) = joined pieces ++ joined more := by
  induction pieces with
  | nil => simp
  | cons piece pieces ih => rw [cons_append, joined_cons, ih, joined_cons, String.append_assoc]

/-! ## Calls put together -/

def blankTool : PendingTool := { id := "", name := "", arguments := "" }

/-- A call as it is pending when nothing of it is missing. -/
def pendingOf (call : ToolCall) : PendingTool := ⟨call.id, call.name, call.arguments⟩

def argumentBytes (fragments : List ToolFragment) : Nat :=
  (fragments.map (·.arguments.utf8ByteSize)).sum

@[simp] theorem argumentBytes_append (fragments more : List ToolFragment) :
    argumentBytes (fragments ++ more) = argumentBytes fragments + argumentBytes more := by
  simp [argumentBytes]

/-- What a fragment makes of the slots. -/
def filed (slots : Ordered.SortedMap Nat PendingTool) (index : Nat) (fragment : ToolFragment) :
    Ordered.SortedMap Nat PendingTool :=
  slots.insert index (((slots.get? index).getD blankTool).extend fragment)

/-- The slots a stream of fragments fills: an invariant of the fragments so far, kept by each next
    one, which finds room. -/
structure Assembly (all : List ToolFragment) where
  Slots : List ToolFragment → Ordered.SortedMap Nat PendingTool → Prop
  start : Slots [] .empty
  step : ∀ done fragment rest slots position, all = done ++ fragment :: rest →
    position ≤ done.length → Slots done slots →
    let index := ChatCompletionsStreamMachine.toolSlot slots fragment position
    (slots.get? index = none → slots.entries.length < maxOpenToolBlocks) ∧
      Slots (done ++ [fragment]) (filed slots index fragment)

section Absorb

variable (provider : String)

theorem absorbToolFragment_ok (machine : ChatCompletionsStreamMachine) (fragment : ToolFragment)
    (position : Nat)
    (room : machine.openTools.get?
        (ChatCompletionsStreamMachine.toolSlot machine.openTools fragment position) = none →
      machine.openTools.entries.length < maxOpenToolBlocks)
    (few : machine.toolArgumentBytes + fragment.arguments.utf8ByteSize ≤ maxToolArgumentBytes) :
    machine.absorbToolFragment provider fragment position =
      ({ machine with
          openTools := filed machine.openTools
            (ChatCompletionsStreamMachine.toolSlot machine.openTools fragment position) fragment
          toolArgumentBytes := machine.toolArgumentBytes + fragment.arguments.utf8ByteSize },
        .ok ()) := by
  have bytes : (if fragment.arguments = "" then machine.toolArgumentBytes
      else u64SaturatingAdd machine.toolArgumentBytes fragment.arguments.utf8ByteSize) =
        machine.toolArgumentBytes + fragment.arguments.utf8ByteSize := by
    split
    · next h => rw [h]; rfl
    · unfold u64SaturatingAdd u64Max
      unfold maxToolArgumentBytes at few
      omega
  unfold ChatCompletionsStreamMachine.absorbToolFragment
  simp only [bytes]
  rw [if_neg fun full => absurd full.2 (not_le.mpr (room full.1)),
    if_neg fun long => absurd long.2 (not_lt.mpr few)]
  rfl

/-- The fragments of one delta. -/
theorem absorbToolFragments_ok {all : List ToolFragment} (assembly : Assembly all)
    (few : argumentBytes all ≤ maxToolArgumentBytes) (fragments done rest : List ToolFragment)
    (machine : ChatCompletionsStreamMachine) (position : Nat)
    (split : all = done ++ fragments ++ rest) (early : position ≤ done.length)
    (slots : assembly.Slots done machine.openTools)
    (bytes : machine.toolArgumentBytes = argumentBytes done) :
    ∃ next, machine.absorbToolFragments provider position fragments =
        ({ machine with
            openTools := next
            toolArgumentBytes := argumentBytes (done ++ fragments) }, .ok ()) ∧
      assembly.Slots (done ++ fragments) next := by
  induction fragments generalizing done machine position with
  | nil =>
      refine ⟨machine.openTools, ?_, by rwa [append_nil]⟩
      rw [append_nil, ← bytes]
      rfl
  | cons fragment fragments ih =>
      obtain ⟨room, filled⟩ := assembly.step done fragment (fragments ++ rest) machine.openTools
        position (by rw [split, append_assoc, cons_append]) early slots
      have fits : machine.toolArgumentBytes + fragment.arguments.utf8ByteSize ≤
          maxToolArgumentBytes := by
        rw [split, argumentBytes_append, argumentBytes_append] at few
        have first : argumentBytes (fragment :: fragments) =
          fragment.arguments.utf8ByteSize + argumentBytes fragments := by simp [argumentBytes]
        omega
      have one := absorbToolFragment_ok provider machine fragment position room fits
      obtain ⟨next, absorbed, slots'⟩ := ih (done ++ [fragment])
        { machine with
            openTools := filed machine.openTools
              (ChatCompletionsStreamMachine.toolSlot machine.openTools fragment position) fragment
            toolArgumentBytes := machine.toolArgumentBytes + fragment.arguments.utf8ByteSize }
        (position + 1) (by rw [split]; simp) (by simpa using early) filled
        (by simp [bytes, argumentBytes])
      rw [append_assoc, singleton_append] at absorbed slots'
      refine ⟨next, ?_, slots'⟩
      unfold ChatCompletionsStreamMachine.absorbToolFragments
      rw [one]
      exact absorbed

end Absorb

/-! ## Fragments under an index -/

/-- The pending call some fragments make. -/
def assemble (fragments : List ToolFragment) : Option PendingTool :=
  if fragments = [] then none else some (fragments.foldl PendingTool.extend blankTool)

theorem assemble_getD (fragments : List ToolFragment) :
    (assemble fragments).getD blankTool = fragments.foldl PendingTool.extend blankTool := by
  unfold assemble
  split
  · next h => rw [h]; rfl
  · rfl

theorem assemble_concat (fragments : List ToolFragment) (fragment : ToolFragment) :
    assemble (fragments ++ [fragment]) =
      some (((assemble fragments).getD blankTool).extend fragment) := by
  rw [assemble_getD, assemble, if_neg (by simp), foldl_append]
  rfl

def under (index : Nat) (fragments : List ToolFragment) : List ToolFragment :=
  fragments.filter (·.index = some index)

/-- The fragments of one call: its id and its name each stated at least once and never otherwise,
    its arguments in pieces. -/
structure Pieces (call : ToolCall) (fragments : List ToolFragment) : Prop where
  ids : ∀ fragment ∈ fragments, fragment.id = "" ∨ fragment.id = call.id
  identified : ∃ fragment ∈ fragments, fragment.id = call.id
  names : ∀ fragment ∈ fragments, fragment.name = "" ∨ fragment.name = call.name
  named : ∃ fragment ∈ fragments, fragment.name = call.name
  arguments : joined (fragments.map (·.arguments)) = call.arguments

theorem foldl_extend_arguments (fragments : List ToolFragment) (pending : PendingTool) :
    (fragments.foldl PendingTool.extend pending).arguments =
      pending.arguments ++ joined (fragments.map (·.arguments)) := by
  induction fragments generalizing pending with
  | nil => simp
  | cons fragment fragments ih =>
      rw [foldl_cons, ih, map_cons, joined_cons, ← String.append_assoc]
      rfl

/-- A part that is stated, and never otherwise, is what the fragments leave.  `part` is the id or
    the name. -/
theorem foldl_extend_part (part : PendingTool → String) (stated : ToolFragment → String)
    (extends_ : ∀ pending fragment, part (pending.extend fragment) =
      if stated fragment = "" then part pending else stated fragment)
    (value : String) (fragments : List ToolFragment)
    (agree : ∀ fragment ∈ fragments, stated fragment = "" ∨ stated fragment = value)
    (pending : PendingTool) (before : part pending = "" ∨ part pending = value)
    (said : part pending = value ∨ ∃ fragment ∈ fragments, stated fragment = value) :
    part (fragments.foldl PendingTool.extend pending) = value := by
  induction fragments generalizing pending with
  | nil =>
      rcases said with said | ⟨_, mem, _⟩
      · exact said
      · cases mem
  | cons fragment fragments ih =>
      have first := agree fragment mem_cons_self
      have step := extends_ pending fragment
      rw [foldl_cons]
      refine ih (fun other mem => agree other (mem_cons_of_mem _ mem)) _ ?_ ?_
      · rw [step]
        split
        · exact before
        · exact first
      · rcases said with said | ⟨other, mem, holds⟩
        · left
          rw [step]
          split
          · exact said
          · next h => exact first.resolve_left h
        · rcases mem_cons.mp mem with rfl | mem
          · left
            rw [step]
            split
            · next h =>
                rw [h] at holds
                rcases before with before | before
                · rw [before, holds]
                · exact before
            · exact holds
          · exact .inr ⟨other, mem, holds⟩

theorem assemble_pieces {fragments : List ToolFragment} (pieces : Pieces call fragments) :
    assemble fragments = some (pendingOf call) := by
  obtain ⟨fragment, mem, -⟩ := pieces.identified
  have id := foldl_extend_part (·.id) (·.id) (fun _ _ => rfl) call.id fragments pieces.ids blankTool
    (.inl rfl) (.inr pieces.identified)
  have name := foldl_extend_part (·.name) (·.name) (fun _ _ => rfl) call.name fragments pieces.names
    blankTool (.inl rfl) (.inr pieces.named)
  have arguments := foldl_extend_arguments fragments blankTool
  rw [pieces.arguments] at arguments
  rw [assemble, if_neg (ne_nil_of_mem mem), pendingOf, Option.some.injEq]
  rcases folded : fragments.foldl PendingTool.extend blankTool with ⟨_, _, _⟩
  rw [folded] at id name arguments
  rw [PendingTool.mk.injEq]
  exact ⟨id, name, arguments.trans String.empty_append⟩

/-- Every fragment has an index; the indices ascend with the calls. -/
structure Indexed (calls : List ToolCall) (fragments : List ToolFragment) (indices : List Nat) :
    Prop where
  length : indices.length = calls.length
  ascending : indices.Pairwise (· < ·)
  index : ∀ fragment ∈ fragments, ∃ index ∈ indices, fragment.index = some index
  pieces : ∀ entry ∈ indices.zip calls, Pieces entry.2 (under entry.1 fragments)

section Indexed

variable {calls : List ToolCall} {fragments : List ToolFragment} {indices : List Nat}

theorem under_concat (index : Nat) (done : List ToolFragment) (fragment : ToolFragment) :
    under index (done ++ [fragment]) =
      if fragment.index = some index then under index done ++ [fragment] else under index done := by
  unfold under
  rw [filter_append]
  split
  · next h => simp [h]
  · next h => simp [h]

/-- Slots that hold only stated indices, and not this one, have room for it. -/
theorem room_of_missing {index : Nat} (mem : index ∈ indices)
    (within : ∀ key ∈ slots.keys, key ∈ indices) (missing : slots.get? index = none) :
    slots.entries.length < indices.length := by
  have fresh : index ∉ slots.keys := by
    intro held
    obtain ⟨⟨key, pending⟩, entry, rfl⟩ := mem_map.mp held
    rw [Ordered.SortedMap.mem_entries_iff, missing] at entry
    cases entry
  have more : (index :: slots.keys).length ≤ indices.length := by
    refine (subperm_of_subset (nodup_cons.mpr ⟨fresh, slots.nodup_keys⟩) ?_).length_le
    intro key held
    rcases mem_cons.mp held with rfl | held
    · exact mem
    · exact within key held
  simp only [length_cons, Ordered.SortedMap.keys, length_map] at more
  omega

def Indexed.assembly (indexed : Indexed calls fragments indices)
    (few : calls.length ≤ maxOpenToolBlocks) : Assembly fragments where
  Slots done slots := ∀ index, slots.get? index = assemble (under index done)
  start index := rfl
  step := by
    intro done fragment rest slots position split _ filled
    obtain ⟨index, mem, stated⟩ := indexed.index fragment (by rw [split]; simp)
    have slot : ChatCompletionsStreamMachine.toolSlot slots fragment position = index := by
      unfold ChatCompletionsStreamMachine.toolSlot
      rw [stated]
    simp only [slot]
    constructor
    · intro missing
      refine (room_of_missing mem ?_ missing).trans_le (indexed.length.trans_le few)
      intro key held
      obtain ⟨⟨key, pending⟩, entry, rfl⟩ := List.mem_map.mp held
      rw [Ordered.SortedMap.mem_entries_iff, filled] at entry
      have some_under : under key done ≠ [] := by
        intro h
        rw [h] at entry
        cases entry
      obtain ⟨other, other_mem⟩ := List.exists_mem_of_ne_nil _ some_under
      obtain ⟨other_mem, key_stated⟩ := List.mem_filter.mp other_mem
      obtain ⟨key', key_mem, key_stated'⟩ := indexed.index other
        (by rw [split]; exact List.mem_append_left _ other_mem)
      rw [of_decide_eq_true key_stated, Option.some.injEq] at key_stated'
      rwa [key_stated']
    · intro asked
      rw [filed, Ordered.SortedMap.get?_insert, under_concat, stated, filled, filled]
      by_cases same : index = asked
      · rw [if_pos same, if_pos (congrArg some same), assemble_concat, same]
      · rw [if_neg same, if_neg fun h => same (Option.some.inj h)]

theorem Indexed.values (indexed : Indexed calls fragments indices)
    (filled : ∀ index, slots.get? index = assemble (under index fragments)) :
    slots.values = calls.map pendingOf := by
  have entries : slots.entries = indices.zip (calls.map pendingOf) := by
    refine Ordered.SortedMap.entries_eq_of_mem_iff ?_ ?_
    · have firsts : (indices.zip (calls.map pendingOf)).map Prod.fst = indices :=
        map_fst_zip (by rw [length_map, indexed.length])
      have ascending := indexed.ascending
      rw [← firsts] at ascending
      exact pairwise_map.mp ascending
    · intro key pending
      rw [filled]
      constructor
      · intro held
        have some_under : under key fragments ≠ [] := by
          intro h
          rw [h] at held
          cases held
        obtain ⟨fragment, mem⟩ := exists_mem_of_ne_nil _ some_under
        obtain ⟨mem, stated⟩ := mem_filter.mp mem
        obtain ⟨index, index_mem, stated'⟩ := indexed.index fragment mem
        rw [of_decide_eq_true stated, Option.some.injEq] at stated'
        subst stated'
        have firsts : (indices.zip calls).map Prod.fst = indices :=
          map_fst_zip indexed.length.le
        rw [← firsts] at index_mem
        obtain ⟨⟨_, call⟩, entry, rfl⟩ := mem_map.mp index_mem
        rw [assemble_pieces (indexed.pieces _ entry), Option.some.injEq] at held
        rw [zip_map_right, ← held]
        exact mem_map.mpr ⟨_, entry, rfl⟩
      · intro mem
        rw [zip_map_right] at mem
        obtain ⟨⟨index, call⟩, entry, same⟩ := mem_map.mp mem
        cases same
        have pieces := indexed.pieces (index, call) entry
        exact assemble_pieces pieces
  rw [Ordered.SortedMap.values, entries, map_snd_zip]
  rw [length_map, indexed.length]

end Indexed

/-! ## Whole calls under no index -/

def wholeFragment (call : ToolCall) : ToolFragment where
  index := none
  id := call.id
  name := call.name
  arguments := call.arguments

/-- Calls in slots by position. -/
def enumerated (calls : List ToolCall) : List (Nat × PendingTool) :=
  calls.zipIdx.map fun entry => (entry.2, pendingOf entry.1)

theorem enumerated_concat (calls : List ToolCall) (call : ToolCall) :
    enumerated (calls ++ [call]) = enumerated calls ++ [(calls.length, pendingOf call)] := by
  simp [enumerated, zipIdx_append]

theorem mem_enumerated {calls : List ToolCall} {position : Nat} {pending : PendingTool} :
    (position, pending) ∈ enumerated calls ↔ calls[position]?.map pendingOf = some pending := by
  simp only [enumerated, mem_map, Prod.exists, mk_mem_zipIdx_iff_getElem?, Prod.mk.injEq,
    Option.map_eq_some_iff]
  constructor
  · rintro ⟨call, index, h, rfl, rfl⟩
    exact ⟨call, h, rfl⟩
  · rintro ⟨call, h, rfl⟩
    exact ⟨call, position, h, rfl, rfl⟩

theorem insertEntry_above {entries : List (Nat × PendingTool)} {key : Nat} (pending : PendingTool)
    (above : ∀ entry ∈ entries, entry.1 < key) :
    Ordered.insertEntry key pending entries = entries ++ [(key, pending)] := by
  induction entries with
  | nil => rfl
  | cons entry entries ih =>
      have lt := above entry mem_cons_self
      unfold Ordered.insertEntry
      rw [if_neg (by omega), if_neg (by omega), ih fun other mem =>
        above other (mem_cons_of_mem _ mem), cons_append]

section Indexless

variable {calls : List ToolCall}

theorem get?_enumerated (filled : slots.entries = enumerated calls) (position : Nat) :
    slots.get? position = calls[position]?.map pendingOf := by
  apply Option.ext
  intro pending
  rw [← Ordered.SortedMap.mem_entries_iff, filled]
  exact mem_enumerated

theorem length_enumerated (calls : List ToolCall) : (enumerated calls).length = calls.length := by
  simp [enumerated]

theorem highest_enumerated {done : List ToolCall}
    (filled : slots.entries = enumerated (done ++ [call])) :
    slots.keys.getLast? = some done.length := by
  rw [Ordered.SortedMap.keys, filled, enumerated_concat, map_append, map_singleton,
    getLast?_concat]

/-- A whole call takes the next slot, whatever position its delta gave it. -/
theorem toolSlot_whole {done : List ToolCall} {position : Nat}
    (filled : slots.entries = enumerated done) (few : done.length < maxOpenToolBlocks)
    (early : position ≤ done.length) (identified : call.id ≠ "")
    (ids : ∀ other ∈ done, other.id ≠ "" ∧ other.id ≠ call.id) :
    ChatCompletionsStreamMachine.toolSlot slots (wholeFragment call) position = done.length := by
  unfold ChatCompletionsStreamMachine.toolSlot
  simp only [wholeFragment, get?_enumerated filled]
  rcases Nat.lt_or_eq_of_le early with lt | rfl
  · obtain ⟨named, apart⟩ := ids done[position] (getElem_mem lt)
    rw [getElem?_eq_getElem lt, if_pos (by simp [pendingOf, identified, named, apart])]
    obtain ⟨before, last, rfl⟩ : ∃ before last, done = before ++ [last] := by
      have some_done : done ≠ [] := by
        rintro rfl
        cases lt
      exact ⟨done.dropLast, done.getLast some_done, (dropLast_append_getLast some_done).symm⟩
    rw [highest_enumerated filled, Option.elim_some, u64SaturatingAdd, u64Max]
    unfold maxOpenToolBlocks at few
    rw [length_append, length_singleton] at few ⊢
    omega
  · rw [getElem?_eq_none le_rfl, if_neg (by simp)]

theorem extend_whole (identified : call.id ≠ "") :
    blankTool.extend (wholeFragment call) = pendingOf call := by
  have name : (if call.name = "" then "" else call.name) = call.name := by
    split
    · next h => exact h.symm
    · rfl
  change PendingTool.mk (if call.id = "" then "" else call.id)
    (if call.name = "" then "" else call.name) ("" ++ call.arguments) = _
  rw [if_neg identified, name, String.empty_append]
  rfl

def indexlessAssembly (few : calls.length ≤ maxOpenToolBlocks)
    (identified : ∀ call ∈ calls, call.id ≠ "") (distinct : (calls.map (·.id)).Nodup) :
    Assembly (calls.map wholeFragment) where
  Slots done slots := slots.entries = enumerated (calls.take done.length)
  start := rfl
  step := by
    intro done fragment rest slots position split early filled
    obtain ⟨before, after, rfl, rfl, cut⟩ := List.map_eq_append_iff.mp split
    obtain ⟨call, after, rfl, rfl, rfl⟩ := List.map_eq_cons_iff.mp cut
    rw [List.length_map] at early filled
    rw [List.take_left] at filled
    have bound : before.length < maxOpenToolBlocks := by
      rw [List.length_append, List.length_cons] at few
      omega
    have ids : ∀ other ∈ before, other.id ≠ "" ∧ other.id ≠ call.id := by
      intro other mem
      refine ⟨identified other (List.mem_append_left _ mem), ?_⟩
      rw [List.map_append, List.nodup_append] at distinct
      exact distinct.2.2 _ (List.mem_map_of_mem mem) _ (List.mem_map_of_mem List.mem_cons_self)
    have named := identified call (List.mem_append_right _ List.mem_cons_self)
    have slot := toolSlot_whole filled bound early named ids
    simp only [slot]
    have free : slots.get? before.length = none := by
      rw [get?_enumerated filled, List.getElem?_eq_none le_rfl, Option.map_none]
    constructor
    · intro _
      rwa [filled, length_enumerated]
    · have taken : (before ++ call :: after).take
          (before.map wholeFragment ++ [wholeFragment call]).length = before ++ [call] := by
        rw [List.length_append, List.length_map, List.length_singleton,
          List.append_cons before call after, ← List.length_singleton (a := call),
          ← List.length_append, List.take_left]
      rw [taken, enumerated_concat, filed, free, Option.getD_none, extend_whole named,
        ← filled]
      refine insertEntry_above _ fun entry mem => ?_
      rw [filled] at mem
      have held := mem_enumerated.mp (show (entry.1, entry.2) ∈ enumerated before from mem)
      rw [Option.map_eq_some_iff] at held
      obtain ⟨_, held, -⟩ := held
      exact (List.getElem?_eq_some_iff.mp held).1

theorem values_enumerated (filled : slots.entries = enumerated calls) :
    slots.values = calls.map pendingOf := by
  rw [Ordered.SortedMap.values, filled, enumerated, map_map]
  change calls.zipIdx.map (pendingOf ∘ Prod.fst) = _
  rw [← map_map, zipIdx_map_fst]

end Indexless

end ZeroRouter.Wire
