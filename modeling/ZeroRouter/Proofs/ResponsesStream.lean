import ZeroRouter.Api.Responses
import ZeroRouter.Wire.ResponsesStream
import ZeroRouter.Proofs.ChatAnswer

/-!
# The Responses stream, read back

Each delta extends one item, which its frames name; the items are those of the terminal envelope.
The outbound parser, fed the frames, yields the texts and the calls that were sent, and at the end
the counts and the stop reason.
-/

namespace ZeroRouter.Responses

open Option List Wire

variable {stream : ResponsesStream} {key : String} {state : ResponsesState}
  {events : List StreamEvent} {value : Value} {id alias_ : String} {index : Nat}
  {last : ResponsesState} {frames : List SseFrame} {json : SerdeJson} {countTokens : Bool}

/-! ## Frames -/

theorem lookup_setField {other : String} {fields : List (String × Value)} :
    (setField key value fields).lookup other =
      if other = key then some value else fields.lookup other := by
  induction fields with
  | nil =>
      by_cases same : other = key
      · rw [if_pos same, setField, lookup_cons, same, beq_self_eq_true]
      · rw [if_neg same, setField, lookup_cons, beq_false_of_ne same]
  | cons field rest ih =>
      obtain ⟨name, held⟩ := field
      unfold setField
      by_cases here : key = name
      · subst here
        rw [if_pos rfl, lookup_cons, lookup_cons]
        by_cases same : other = key
        · rw [if_pos same, same, beq_self_eq_true]
        · rw [if_neg same, beq_false_of_ne same]
      · rw [if_neg here]
        by_cases before : key < name
        · rw [if_pos before, lookup_cons]
          by_cases same : other = key
          · rw [if_pos same, same, beq_self_eq_true]
          · rw [if_neg same, beq_false_of_ne same]
        · rw [if_neg before, lookup_cons, lookup_cons, ih]
          by_cases same : other = key
          · subst same
            simp [beq_false_of_ne here]
          · simp [same]

/-- What a frame adds. -/
def SseFrame.delta (frame : SseFrame) : Option String := frame.data.str "delta"

namespace ResponsesStream

variable {stream : ResponsesStream} {event : String} {fields : List (String × Value)}

theorem frame_sequence :
    (stream.frame event fields).1.data.get "sequence_number" = some (.integer stream.sequence) := by
  change (setField _ _ _).lookup _ = _
  rw [lookup_setField, if_pos rfl]

theorem frame_type : (stream.frame event fields).1.data.str "type" = some event := by
  change ((setField _ _ _).lookup _).bind Value.asStr = _
  rw [lookup_setField, if_neg (by decide), lookup_setField, if_pos rfl]
  rfl

/-- A field of a frame's own. -/
theorem frame_get (apart : key ≠ "sequence_number") (apart' : key ≠ "type") :
    (stream.frame event fields).1.data.get key = fields.lookup key := by
  change (setField _ _ _).lookup _ = _
  rw [lookup_setField, if_neg apart, lookup_setField, if_neg apart']

theorem frame_delta :
    (stream.frame event fields).1.delta = (fields.lookup "delta").bind Value.asStr := by
  unfold SseFrame.delta Value.str
  rw [frame_get (by decide) (by decide)]

@[simp] theorem frame_items : (stream.frame event fields).2.items = stream.items := rfl

@[simp] theorem frame_sequence_next :
    (stream.frame event fields).2.sequence = min (stream.sequence + 1) u64Max := rfl

end ResponsesStream

/-! ## The counter -/

/-- Where in its stream a frame says it stands. -/
def SseFrame.number (frame : SseFrame) : Option Value := frame.data.get "sequence_number"

/-- The numbers from a place on, as far as the counter reaches. -/
def numbers (start count : Nat) : List (Option Value) :=
  (List.range' start count).map fun i => some (.integer (min i u64Max : Nat))

theorem numbers_append (start count more : Nat) :
    numbers start count ++ numbers (start + count) more = numbers start (count + more) := by
  unfold numbers
  rw [← map_append, List.range'_append_1]

namespace ResponsesStream

/-- So many frames were sent. -/
def Counts (stream : ResponsesStream) (sent : Nat) : Prop := stream.sequence = min sent u64Max

/-- Frames are numbered from where the counter stood, and leave it behind the last. -/
structure Numbered (sent : Nat) (out : List SseFrame × ResponsesStream) : Prop where
  numbers : out.1.map (·.number) = numbers sent out.1.length
  counts : out.2.Counts (sent + out.1.length)

theorem Counts.frame {sent : Nat} (counts : stream.Counts sent) (event : String)
    (fields : List (String × Value)) :
    (stream.frame event fields).1.number = some (.integer (min sent u64Max : Nat)) ∧
      (stream.frame event fields).2.Counts (sent + 1) := by
  constructor
  · unfold SseFrame.number
    rw [frame_sequence, counts]
  · unfold Counts
    rw [frame_sequence_next, counts]
    omega

theorem Counts.send {sent : Nat} (counts : stream.Counts sent) (requestId : String)
    (delta : Delta) : Numbered sent (stream.send requestId delta) := by
  cases delta with
  | text delta =>
      have one (items : List OutputItem) :
          ({ stream with items } : ResponsesStream).Counts sent := counts
      obtain ⟨number, after⟩ := (one _).frame "response.output_text.delta" _
      refine ⟨?_, after⟩
      change [SseFrame.number _] = [_]
      rw [number]
  | reasoning delta =>
      have one (items : List OutputItem) :
          ({ stream with items } : ResponsesStream).Counts sent := counts
      obtain ⟨number, after⟩ := (one _).frame "response.reasoning_summary_text.delta" _
      refine ⟨?_, after⟩
      change [SseFrame.number _] = [_]
      rw [number]
  | toolCall call =>
      have one (items : List OutputItem) :
          ({ stream with items } : ResponsesStream).Counts sent := counts
      obtain ⟨first, counts⟩ := (one _).frame "response.output_item.added" _
      obtain ⟨second, counts⟩ := counts.frame "response.function_call_arguments.delta" _
      obtain ⟨third, counts⟩ := counts.frame "response.function_call_arguments.done" _
      obtain ⟨fourth, counts⟩ := counts.frame "response.output_item.done" _
      refine ⟨?_, counts⟩
      change [SseFrame.number _, SseFrame.number _, SseFrame.number _, SseFrame.number _] =
        [_, _, _, _]
      rw [first, second, third, fourth]

theorem Counts.sendAll {sent : Nat} (counts : stream.Counts sent) (requestId : String)
    (deltas : List Delta) :
    Numbered sent (stream.sendAll requestId deltas) := by
  induction deltas generalizing stream sent with
  | nil => exact ⟨rfl, counts⟩
  | cons delta rest ih =>
      obtain ⟨first, counts⟩ := counts.send requestId delta
      obtain ⟨later, counts⟩ := ih counts
      constructor
      · rw [ResponsesStream.sendAll]
        simp only [map_append, length_append]
        rw [first, later, numbers_append]
      · rw [ResponsesStream.sendAll]
        simp only [length_append]
        rw [← Nat.add_assoc]
        exact counts

end ResponsesStream

/-! ## The items -/

/-- What an item holds. -/
def OutputItem.content : OutputItem → String
  | .message text => text
  | .reasoning summary => summary
  | .functionCall call => call.arguments

/-- The call an item is. -/
def OutputItem.call : OutputItem → Option ToolCall
  | .functionCall call => some call
  | _ => none

namespace ResponsesStream

namespace Delta

/-- What a delta adds to its item. -/
def content : Delta → String
  | .text delta => delta
  | .reasoning delta => delta
  | .toolCall call => call.arguments

/-- The kind of item a delta extends. -/
def kind : Delta → String
  | .text _ => "msg"
  | .reasoning _ => "rs"
  | .toolCall _ => "fc"

end Delta

/-- The last item is one a delta made or extended; all before it are as they were. -/
structure Extends (items later : List OutputItem) (delta : Delta) (index : Nat)
    (made : OutputItem) : Prop where
  kind : made.kind = delta.kind
  call : made.call = delta.call
  shape : ∃ before, index = before.length ∧ later = before ++ [made] ∧
    (items = before ∧ made.content = delta.content ∨
      ∃ last, items = before ++ [last] ∧ last.kind = made.kind ∧ last.call = none ∧
        made.call = none ∧ made.content = last.content ++ delta.content)

/-- The open item is the last, as it was or fresh. -/
theorem openItem_cases (items : List OutputItem) (reasoning : Bool) :
    ∃ before text, openItem items reasoning =
        before ++ [if reasoning then .reasoning text else .message text] ∧
      (items = before ∧ text = "" ∨
        items = before ++ [if reasoning then .reasoning text else .message text]) := by
  unfold openItem
  rcases eq_nil_or_concat items with rfl | ⟨before, last, rfl⟩
  · exact ⟨[], "", by cases reasoning <;> rfl, .inl ⟨rfl, rfl⟩⟩
  · rw [concat_eq_append, getLast?_append_of_ne_nil _ (cons_ne_nil _ _)]
    cases last with
    | message text =>
        cases reasoning with
        | false => exact ⟨before, text, rfl, .inr rfl⟩
        | true => exact ⟨before ++ [.message text], "", rfl, .inl ⟨rfl, rfl⟩⟩
    | reasoning summary =>
        cases reasoning with
        | false => exact ⟨before ++ [.reasoning summary], "", rfl, .inl ⟨rfl, rfl⟩⟩
        | true => exact ⟨before, summary, rfl, .inr rfl⟩
    | functionCall call =>
        refine ⟨before ++ [.functionCall call], "", ?_, .inl ⟨rfl, rfl⟩⟩
        cases reasoning <;> rfl

theorem modify_last (before : List OutputItem) (last : OutputItem) (f : OutputItem → OutputItem) :
    (before ++ [last]).modify before.length f = before ++ [f last] := by
  induction before with
  | nil => rfl
  | cons item before ih => rw [cons_append, length_cons, modify_succ_cons, ih]; rfl

/-- Where a frame says its item stands. -/
def outputIndex (frame : SseFrame) : Option Int :=
  match frame.data.get "output_index" with
  | some (.integer index) => some index
  | _ => none

/-- The item a frame names, by its own field or as the item it carries. -/
def namedItem (frame : SseFrame) : Option String :=
  (frame.data.str "item_id").or ((frame.data.get "item").bind (·.str "id"))

/-- What a frame adds to the item at a place. -/
def deltaAt (index : Nat) (frame : SseFrame) : Option String :=
  if outputIndex frame = some (index : Int) then frame.delta else none

/-- One delta extends one item, and each of its frames names that item. -/
structure Sent (stream : ResponsesStream) (requestId : String) (delta : Delta)
    (out : List SseFrame × ResponsesStream) (index : Nat) (made : OutputItem) : Prop where
  items : Extends stream.items out.2.items delta index made
  place : ∀ frame ∈ out.1, outputIndex frame = some (index : Int) ∧
    namedItem frame = some (itemId made.kind requestId index)
  adds : out.1.filterMap SseFrame.delta = [delta.content]

theorem namedItem_of_field {frame : SseFrame} (h : frame.data.get "item_id" = some (.string id)) :
    namedItem frame = some id := by
  unfold namedItem Value.str
  rw [h]
  rfl

theorem namedItem_of_item {frame : SseFrame} {item : Value}
    (no_field : frame.data.get "item_id" = none) (is_item : frame.data.get "item" = some item)
    (is_id : item.str "id" = some id) : namedItem frame = some id := by
  unfold namedItem
  rw [Value.str, no_field, is_item]
  exact is_id

theorem outputIndex_of_field {frame : SseFrame}
    (h : frame.data.get "output_index" = some (.integer index)) :
    outputIndex frame = some (index : Int) := by
  unfold outputIndex
  rw [h]

theorem filterMap_delta_singleton {frame : SseFrame} {delta : String}
    (h : frame.delta = some delta) : [frame].filterMap SseFrame.delta = [delta] := by
  rw [filterMap_cons_some h]
  rfl

/-- A text's frame, and the item it extends. -/
theorem sent_text (stream : ResponsesStream) (requestId delta : String) :
    ∃ index made, Sent stream requestId (.text delta) (stream.send requestId (.text delta)) index
      made := by
  obtain ⟨before, text, is_open, shape⟩ := openItem_cases stream.items false
  have is_open' : openItem stream.items false = before ++ [.message text] := is_open
  have is_index : (openItem stream.items false).length - 1 = before.length := by
    rw [is_open', length_append]
    rfl
  refine ⟨before.length, .message (text ++ delta), ⟨⟨rfl, rfl, before, rfl, ?_, ?_⟩, ?_, ?_⟩⟩
  · change (openItem stream.items false).modify _ _ = _
    rw [is_index, is_open', modify_last]
    rfl
  · rcases shape with ⟨same, rfl⟩ | same
    · exact .inl ⟨same, String.empty_append⟩
    · exact .inr ⟨.message text, same, rfl, rfl, rfl, rfl⟩
  · intro frame mem
    obtain rfl := mem_singleton.mp mem
    constructor
    · apply outputIndex_of_field
      rw [frame_get (by decide) (by decide), ← is_index]
      rfl
    · apply namedItem_of_field
      rw [frame_get (by decide) (by decide), ← is_index]
      rfl
  · exact filterMap_delta_singleton frame_delta

/-- A summary's frame, and the item it extends. -/
theorem sent_reasoning (stream : ResponsesStream) (requestId delta : String) :
    ∃ index made, Sent stream requestId (.reasoning delta)
      (stream.send requestId (.reasoning delta)) index made := by
  obtain ⟨before, summary, is_open, shape⟩ := openItem_cases stream.items true
  have is_open' : openItem stream.items true = before ++ [.reasoning summary] := is_open
  have is_index : (openItem stream.items true).length - 1 = before.length := by
    rw [is_open', length_append]
    rfl
  refine ⟨before.length, .reasoning (summary ++ delta), ⟨⟨rfl, rfl, before, rfl, ?_, ?_⟩, ?_, ?_⟩⟩
  · change (openItem stream.items true).modify _ _ = _
    rw [is_index, is_open', modify_last]
    rfl
  · rcases shape with ⟨same, rfl⟩ | same
    · exact .inl ⟨same, String.empty_append⟩
    · exact .inr ⟨.reasoning summary, same, rfl, rfl, rfl, rfl⟩
  · intro frame mem
    obtain rfl := mem_singleton.mp mem
    constructor
    · apply outputIndex_of_field
      rw [frame_get (by decide) (by decide), ← is_index]
      rfl
    · apply namedItem_of_field
      rw [frame_get (by decide) (by decide), ← is_index]
      rfl
  · exact filterMap_delta_singleton frame_delta

/-- The id under which an item goes out. -/
theorem id_toWire (item : OutputItem) (requestId : String) (index : Nat) :
    (item.toWire requestId index).str "id" = some (itemId item.kind requestId index) := by
  cases item <;> rfl

/-- A call's four frames, and the item it is. -/
theorem sent_toolCall (stream : ResponsesStream) (requestId : String) (call : ToolCall) :
    ∃ index made, Sent stream requestId (.toolCall call)
      (stream.send requestId (.toolCall call)) index made := by
  refine ⟨stream.items.length, .functionCall call,
    ⟨⟨rfl, rfl, stream.items, rfl, rfl, .inl ⟨rfl, rfl⟩⟩, ?_, ?_⟩⟩
  · intro frame mem
    change frame ∈ [_, _, _, _] at mem
    simp only [mem_cons, not_mem_nil, or_false] at mem
    rcases mem with rfl | rfl | rfl | rfl
    · have is_id : (opening call (itemId "fc" requestId stream.items.length)).str "id" =
          some (itemId "fc" requestId stream.items.length) := rfl
      refine ⟨outputIndex_of_field ?_, namedItem_of_item ?_ ?_ is_id⟩
      · rw [frame_get (by decide) (by decide)]
        rfl
      · rw [frame_get (by decide) (by decide)]
        rfl
      · rw [frame_get (by decide) (by decide)]
        rfl
    · refine ⟨outputIndex_of_field ?_, namedItem_of_field ?_⟩
      · rw [frame_get (by decide) (by decide)]
        rfl
      · rw [frame_get (by decide) (by decide)]
        rfl
    · refine ⟨outputIndex_of_field ?_, namedItem_of_field ?_⟩
      · rw [frame_get (by decide) (by decide)]
        rfl
      · rw [frame_get (by decide) (by decide)]
        rfl
    · refine ⟨outputIndex_of_field ?_,
        namedItem_of_item ?_ ?_ (id_toWire (.functionCall call) requestId _)⟩
      · rw [frame_get (by decide) (by decide)]
        rfl
      · rw [frame_get (by decide) (by decide)]
        rfl
      · rw [frame_get (by decide) (by decide)]
        rfl
  · change [_, _, _, _].filterMap _ = _
    rw [filterMap_cons_none frame_delta,
      filterMap_cons_some frame_delta,
      filterMap_cons_none frame_delta,
      filterMap_cons_none frame_delta]
    rfl

theorem sent (stream : ResponsesStream) (requestId : String) (delta : Delta) :
    ∃ index made, Sent stream requestId delta (stream.send requestId delta) index made := by
  cases delta with
  | text delta => exact sent_text stream requestId delta
  | reasoning delta => exact sent_reasoning stream requestId delta
  | toolCall call => exact sent_toolCall stream requestId call

/-! ## What an item holds in the end -/

/-- What the item at a place holds. -/
def contentAt (items : List OutputItem) (index : Nat) : String :=
  (items[index]?.map (·.content)).getD ""

/-- What the items of a kind hold together. -/
def said (kind : String) (items : List OutputItem) : String :=
  String.join ((items.filter (·.kind = kind)).map (·.content))

theorem said_append (kind : String) (items more : List OutputItem) :
    said kind (items ++ more) = said kind items ++ said kind more := by
  unfold said
  rw [filter_append, map_append, String.join_append]

theorem said_singleton (kind : String) (item : OutputItem) :
    said kind [item] = if item.kind = kind then item.content else "" := by
  unfold said
  by_cases of_kind : item.kind = kind <;> simp [of_kind]

/-- Kinds stay, and no item goes. -/
def Keeps (items later : List OutputItem) : Prop :=
  ∀ (index : Nat) (item : OutputItem), items[index]? = some item →
    ∃ item', later[index]? = some item' ∧ item'.kind = item.kind

theorem Keeps.refl (items : List OutputItem) : Keeps items items :=
  fun _ item h => ⟨item, h, rfl⟩

theorem Keeps.trans {items later last : List OutputItem} (h : Keeps items later)
    (h' : Keeps later last) : Keeps items last := by
  intro index item is_item
  obtain ⟨item', is_item', same⟩ := h index item is_item
  obtain ⟨item'', is_item'', same'⟩ := h' index item' is_item'
  exact ⟨item'', is_item'', same'.trans same⟩

namespace Extends

variable {items later : List OutputItem} {delta : Delta} {index : Nat} {made : OutputItem}

theorem getElem?_made (h : Extends items later delta index made) : later[index]? = some made := by
  obtain ⟨before, rfl, rfl, -⟩ := h.shape
  exact getElem?_concat_length

theorem keeps (h : Extends items later delta index made) : Keeps items later := by
  intro i item is_item
  obtain ⟨before, rfl, rfl, shape⟩ := h.shape
  rcases shape with ⟨rfl, -⟩ | ⟨last, rfl, same, -, -, -⟩
  · have inside := (List.getElem?_eq_some_iff.mp is_item).1
    exact ⟨item, by rwa [List.getElem?_append_left inside], rfl⟩
  · by_cases inside : i < before.length
    · rw [List.getElem?_append_left inside] at is_item
      exact ⟨item, by rwa [List.getElem?_append_left inside], rfl⟩
    · have bound := (List.getElem?_eq_some_iff.mp is_item).1
      rw [List.length_append, List.length_singleton] at bound
      have at_last : i = before.length := by omega
      subst at_last
      rw [List.getElem?_concat_length, some.injEq] at is_item
      exact ⟨made, List.getElem?_concat_length, by rw [← is_item, same]⟩

/-- Only the item a delta extends holds more, and it holds the delta more. -/
theorem contentAt (h : Extends items later delta index made) (i : Nat) :
    contentAt later i = contentAt items i ++ if i = index then delta.content else "" := by
  obtain ⟨before, rfl, rfl, shape⟩ := h.shape
  unfold ResponsesStream.contentAt
  by_cases inside : i < before.length
  · rw [getElem?_append_left inside, if_neg (by omega), String.append_empty]
    rcases shape with ⟨rfl, -⟩ | ⟨last, rfl, -⟩
    · rfl
    · rw [getElem?_append_left inside]
  · by_cases here : i = before.length
    · subst here
      rw [getElem?_concat_length, if_pos rfl]
      rcases shape with ⟨rfl, is_content⟩ | ⟨last, rfl, -, -, -, is_content⟩
      · rw [getElem?_eq_none (Nat.le_refl _)]
        simpa using is_content
      · rw [getElem?_concat_length]
        exact is_content
    · rw [if_neg here, String.append_empty]
      rcases shape with ⟨rfl, -⟩ | ⟨last, rfl, -⟩
      · rw [getElem?_eq_none (by simp; omega), getElem?_eq_none (by omega)]
      · rw [getElem?_eq_none (by simp; omega), getElem?_eq_none (by simp; omega)]

/-- The items of a kind say what was said in it, and what its delta adds. -/
theorem said (h : Extends items later delta index made) (kind : String) :
    said kind later = said kind items ++ if delta.kind = kind then delta.content else "" := by
  have is_kind := h.kind
  obtain ⟨before, rfl, rfl, shape⟩ := h.shape
  rw [said_append, said_singleton, is_kind]
  rcases shape with ⟨rfl, is_content⟩ | ⟨last, rfl, same, -, -, is_content⟩
  · rw [is_content]
  · rw [said_append, said_singleton, same, is_kind, is_content]
    by_cases of_kind : delta.kind = kind
    · simp only [if_pos of_kind, String.append_assoc]
    · simp only [if_neg of_kind, String.append_empty]

/-- The calls are those there were, and the delta's. -/
theorem calls (h : Extends items later delta index made) :
    later.filterMap (·.call) = items.filterMap (·.call) ++ delta.call.toList := by
  have is_call := h.call
  obtain ⟨before, rfl, rfl, shape⟩ := h.shape
  rw [filterMap_append, ← is_call]
  rcases shape with ⟨rfl, -⟩ | ⟨last, rfl, -, no_call, no_call', -⟩
  · cases is_made : made.call <;> simp [is_made]
  · rw [filterMap_append]
    simp [no_call, no_call']

end Extends

/-- The frames of one delta add it to its item and nothing to the others. -/
theorem Sent.deltaAt {requestId : String} {delta : Delta} {out : List SseFrame × ResponsesStream}
    {made : OutputItem} (h : Sent stream requestId delta out index made) (i : Nat) :
    String.join (out.1.filterMap (deltaAt i)) = if i = index then delta.content else "" := by
  by_cases here : i = index
  · subst here
    have same : out.1.filterMap (ResponsesStream.deltaAt i) = out.1.filterMap SseFrame.delta := by
      refine filterMap_congr fun frame mem => ?_
      unfold ResponsesStream.deltaAt
      rw [if_pos (h.place frame mem).1]
    rw [same, h.adds, if_pos rfl]
    simp
  · have nothing : out.1.filterMap (ResponsesStream.deltaAt i) = [] := by
      refine filterMap_eq_nil_iff.mpr fun frame mem => ?_
      unfold ResponsesStream.deltaAt
      rw [(h.place frame mem).1, if_neg]
      intro same
      exact here (by simpa using same.symm)
    rw [nothing, if_neg here]
    simp

/-- What the frames of some deltas say of the items in the end. -/
structure Told (stream : ResponsesStream) (requestId : String) (deltas : List Delta)
    (out : List SseFrame × ResponsesStream) : Prop where
  keeps : Keeps stream.items out.2.items
  place : ∀ frame ∈ out.1, ∃ (index : Nat) (item : OutputItem), out.2.items[index]? = some item ∧
    outputIndex frame = some (index : Int) ∧
    namedItem frame = some (itemId item.kind requestId index)
  content : ∀ index, contentAt out.2.items index =
    contentAt stream.items index ++ String.join (out.1.filterMap (deltaAt index))
  said : ∀ kind, said kind out.2.items = said kind stream.items ++
    String.join ((deltas.filter (·.kind = kind)).map (·.content))
  calls : out.2.items.filterMap (·.call) =
    stream.items.filterMap (·.call) ++ deltas.filterMap (·.call)

theorem told (stream : ResponsesStream) (requestId : String) (deltas : List Delta) :
    Told stream requestId deltas (stream.sendAll requestId deltas) := by
  induction deltas generalizing stream with
  | nil =>
      refine ⟨.refl _, ?_, ?_, ?_, ?_⟩
      · intro frame mem
        cases mem
      · intro index
        exact String.append_empty.symm
      · intro kind
        exact String.append_empty.symm
      · exact (append_nil _).symm
  | cons delta rest ih =>
      obtain ⟨index, made, first⟩ := sent stream requestId delta
      have later := ih (stream.send requestId delta).2
      rw [sendAll]
      refine ⟨first.items.keeps.trans later.keeps, ?_, ?_, ?_, ?_⟩
      · intro frame mem
        rcases mem_append.mp mem with mem | mem
        · obtain ⟨is_index, is_name⟩ := first.place frame mem
          obtain ⟨item, is_item, same⟩ := later.keeps index made first.items.getElem?_made
          exact ⟨index, item, is_item, is_index, by rw [is_name, same]⟩
        · exact later.place frame mem
      · intro i
        dsimp only
        rw [later.content, first.items.contentAt, filterMap_append, String.join_append,
          first.deltaAt, String.append_assoc]
      · intro kind
        dsimp only
        rw [later.said, first.items.said, String.append_assoc]
        by_cases of_kind : delta.kind = kind
        · rw [if_pos of_kind, filter_cons_of_pos (by simpa using of_kind), map_cons,
            String.join_cons]
        · rw [if_neg of_kind, filter_cons_of_neg (by simpa using of_kind), String.empty_append]
      · dsimp only
        rw [later.calls, first.items.calls, append_assoc]
        congr 1
        cases is_call : delta.call with
        | none => rw [filterMap_cons_none is_call]; rfl
        | some call => rw [filterMap_cons_some is_call]; rfl

/-! ## The parser -/

section Parser

variable (json : SerdeJson) (alias_ : String) (countTokens : Bool)

/-- What the parser makes of a delta's frames. -/
def heard : Delta → List StreamEvent
  | .text delta =>
      [.textDelta
        { StreamChunk.ofDelta delta with
          tokenCount := if countTokens then delta.utf8ByteSize / 4 else 0 }]
  | .reasoning _ => []
  | .toolCall call => [.toolCall call]

/-- What a frame is sent as. -/
def payload (frame : SseFrame) : String := json.toString frame.data

/-- What was printed of a frame is read back. -/
def ReadsBack (frames : List SseFrame) : Prop :=
  ∀ frame ∈ frames, json.fromStr (payload json frame) = some frame.data

variable {json alias_ countTokens}

/-- Fed some frames, the parser yields some events. -/
def Hears (json : SerdeJson) (alias_ : String) (countTokens : Bool) (state : ResponsesState)
    (frames : List SseFrame) (events : List StreamEvent) (next : ResponsesState) : Prop :=
  ∃ items, (responsesMachine json alias_ countTokens).feed state (frames.map (payload json)) =
    (items, some next) ∧ eventsOf items = events

theorem Hears.append {middle : ResponsesState} {more : List SseFrame} {later : List StreamEvent}
    (h : Hears json alias_ countTokens state frames events middle)
    (h' : Hears json alias_ countTokens middle more later last) :
    Hears json alias_ countTokens state (frames ++ more) (events ++ later) last := by
  obtain ⟨items, fed, rfl⟩ := h
  obtain ⟨rest, fed', rfl⟩ := h'
  refine ⟨items ++ rest, ?_, eventsOf_append items rest⟩
  rw [map_append, StreamMachine.feed_append _ _ _ _ _ _ fed, fed']

theorem Hears.one {next : ResponsesState} {frame : SseFrame}
    (handled : responsesPayload json alias_ countTokens state (payload json frame) =
      (next, .ok events)) :
    Hears json alias_ countTokens state [frame] events next := by
  refine ⟨.read (payload json frame) :: events.map .event, ?_, ?_⟩
  · have is_handled : (responsesMachine json alias_ countTokens).handlePayload state
        (payload json frame) = (next, .ok events) := handled
    rw [map_singleton, StreamMachine.feed, is_handled]
    simp [StreamMachine.feed]
  · exact eventsOf_read _ _

/-- What the parser has seen after a delta. -/
def after (state : ResponsesState) (delta : Delta) : ResponsesState :=
  { state with sawToolCall := state.sawToolCall || delta.call.isSome }

section Frame

variable {state : ResponsesState} {stream : ResponsesStream} {event : String}
  {fields : List (String × Value)}

/-- A frame of an event the parser passes over. -/
theorem payload_passed
    (reads : json.fromStr (payload json (stream.frame event fields).1) =
      some (stream.frame event fields).1.data)
    (passed : event ∈ ["response.created", "response.reasoning_summary_text.delta",
      "response.output_item.added", "response.function_call_arguments.delta",
      "response.function_call_arguments.done"]) :
    responsesPayload json alias_ countTokens state (payload json (stream.frame event fields).1) =
      (state, .ok []) := by
  unfold responsesPayload
  rw [reads]
  dsimp only
  rw [frame_type]
  simp only [mem_cons, not_mem_nil, or_false] at passed
  rcases passed with rfl | rfl | rfl | rfl | rfl <;> rfl

end Frame

/-- The frames of one delta, as the parser hears them. -/
theorem hears_send (state : ResponsesState) (stream : ResponsesStream) (requestId : String)
    (delta : Delta) (reads : ReadsBack json (stream.send requestId delta).1) :
    Hears json alias_ countTokens state (stream.send requestId delta).1 (heard countTokens delta)
      (after state delta) := by
  cases delta with
  | text delta =>
      have same : after state (.text delta) = state := by simp [after, Delta.call]
      rw [same]
      refine Hears.one ?_
      unfold responsesPayload
      rw [reads _ mem_cons_self]
      dsimp only
      rw [frame_type, Value.str, frame_get (by decide) (by decide)]
      rfl
  | reasoning delta =>
      have same : after state (.reasoning delta) = state := by simp [after, Delta.call]
      rw [same]
      exact Hears.one (payload_passed (reads _ mem_cons_self) (by decide))
  | toolCall call =>
      have saw : after state (.toolCall call) = { state with sawToolCall := true } := by
        simp [after, Delta.call]
      rw [saw]
      obtain ⟨first, reads⟩ := forall_mem_cons.mp reads
      obtain ⟨second, reads⟩ := forall_mem_cons.mp reads
      obtain ⟨third, reads⟩ := forall_mem_cons.mp reads
      obtain ⟨fourth, -⟩ := forall_mem_cons.mp reads
      refine (Hears.one (payload_passed first (by decide))).append
        ((Hears.one (payload_passed second (by decide))).append
          ((Hears.one (payload_passed third (by decide))).append (Hears.one ?_)))
      unfold responsesPayload
      rw [fourth]
      dsimp only
      rw [frame_type, frame_get (by decide) (by decide)]
      rfl

theorem hears_sendAll (state : ResponsesState) (stream : ResponsesStream) (requestId : String)
    (deltas : List Delta) (reads : ReadsBack json (stream.sendAll requestId deltas).1) :
    Hears json alias_ countTokens state (stream.sendAll requestId deltas).1
      (deltas.flatMap (heard countTokens)) (deltas.foldl after state) := by
  induction deltas generalizing state stream with
  | nil => exact ⟨[], rfl, rfl⟩
  | cons delta rest ih =>
      obtain ⟨first, later⟩ := forall_mem_append.mp reads
      exact (hears_send state stream requestId delta first).append (ih _ _ later)

theorem finished_foldl_after (state : ResponsesState) (deltas : List Delta) :
    (deltas.foldl after state).finished = state.finished := by
  induction deltas generalizing state with
  | nil => rfl
  | cons delta rest ih => exact ih (after state delta)

theorem sawToolCall_foldl_after (state : ResponsesState) (deltas : List Delta) :
    (deltas.foldl after state).sawToolCall =
      (state.sawToolCall || deltas.any (·.call.isSome)) := by
  induction deltas generalizing state with
  | nil => simp
  | cons delta rest ih =>
      rw [foldl_cons, ih, any_cons, ← Bool.or_assoc]
      rfl

end Parser

/-! ## The terminal -/

/-- Counts the parser believes. -/
def Believed (usage : OpenAiUsage) : Prop :=
  usage.promptTokens ≤ maxBelievableTokens ∧ usage.completionTokens ≤ maxBelievableTokens ∧
    usage.cachedInputTokens ≤ maxBelievableTokens

instance (usage : OpenAiUsage) : Decidable (Believed usage) :=
  inferInstanceAs (Decidable (_ ∧ _ ∧ _))

/-- A usage as the parser reports it. -/
def reported (usage : OpenAiUsage) : TokenUsage where
  inputTokens := some usage.promptTokens
  outputTokens := some usage.completionTokens
  cachedInputTokens := some usage.cachedInputTokens
  cacheWriteInputTokens := none

/-- A count is read where it is a `u64`. -/
theorem optional_count {count : Nat} (h : value.get key = some (.integer count)) :
    Serde.optional value key (Serde.readNat 64) =
      if count < 2 ^ 64 then some (some count) else none := by
  unfold Serde.optional Serde.defaulted
  rw [h]
  change ((Serde.readNat 64 (.integer count)).map some) = _
  by_cases fits : count < 2 ^ 64
  · rw [if_pos fits, Serde.readNat_integer fits, map_some]
  · have too_large : Serde.readNat 64 (.integer count) = none := by
      unfold Serde.readNat
      exact if_neg fun h => fits (by exact_mod_cast h.2)
    rw [if_neg fits, too_large, map_none]

/-- The three counts are `u64`. -/
def Counted (usage : OpenAiUsage) : Prop :=
  usage.promptTokens < 2 ^ 64 ∧ usage.completionTokens < 2 ^ 64 ∧
    usage.cachedInputTokens < 2 ^ 64

theorem Believed.counted {usage : OpenAiUsage} (h : Believed usage) : Counted usage := by
  have small : maxBelievableTokens < 2 ^ 64 := by decide
  unfold Believed at h
  unfold Counted
  omega

/-- The members that are read of a written usage. -/
def wireUsage (usage : OpenAiUsage) : ResponsesUsage where
  inputTokens := some usage.promptTokens
  outputTokens := some usage.completionTokens
  inputTokensDetails := some { cachedTokens := some usage.cachedInputTokens }

theorem details_read (usage : OpenAiUsage) :
    Serde.optional (usageToWire usage) "input_tokens_details" ResponsesInputDetails.ofValue =
      if usage.cachedInputTokens < 2 ^ 64 then
        some (some { cachedTokens := some usage.cachedInputTokens })
      else none := by
  have is_count : (Value.object [("cached_tokens", .integer usage.cachedInputTokens)]).get
      "cached_tokens" = some (.integer usage.cachedInputTokens) := rfl
  have cached := optional_count is_count
  change ((ResponsesInputDetails.ofValue
    (.object [("cached_tokens", .integer usage.cachedInputTokens)])).map some) = _
  unfold ResponsesInputDetails.ofValue
  rw [cached]
  by_cases fits : usage.cachedInputTokens < 2 ^ 64
  · rw [if_pos fits, if_pos fits]
    rfl
  · rw [if_neg fits, if_neg fits]
    rfl

section OfValue

variable {usage : OpenAiUsage}

theorem members_read (usage : OpenAiUsage) :
    Serde.optional (usageToWire usage) "input_tokens" (Serde.readNat 64) =
        (if usage.promptTokens < 2 ^ 64 then some (some usage.promptTokens) else none) ∧
      Serde.optional (usageToWire usage) "output_tokens" (Serde.readNat 64) =
        (if usage.completionTokens < 2 ^ 64 then some (some usage.completionTokens) else none) ∧
      ∃ fields, (usageToWire usage).asObject = some fields := by
  have is_object : (usageToWire usage).asObject.isSome = true := rfl
  exact ⟨optional_count rfl, optional_count rfl, isSome_iff_exists.mp is_object⟩

theorem ofValue_of_counted (h : Counted usage) :
    ResponsesUsage.ofValue (usageToWire usage) = some (wireUsage usage) := by
  obtain ⟨input, output, fields, is_fields⟩ := members_read usage
  unfold ResponsesUsage.ofValue
  rw [is_fields, input, output, details_read, if_pos h.1, if_pos h.2.1, if_pos h.2.2]
  rfl

theorem ofValue_of_not_counted (h : ¬ Counted usage) :
    ResponsesUsage.ofValue (usageToWire usage) = none := by
  obtain ⟨input, output, fields, is_fields⟩ := members_read usage
  unfold ResponsesUsage.ofValue
  rw [is_fields, input, output, details_read]
  by_cases prompt : usage.promptTokens < 2 ^ 64
  · by_cases completion : usage.completionTokens < 2 ^ 64
    · have cached : ¬ usage.cachedInputTokens < 2 ^ 64 := fun fits =>
        h ⟨prompt, completion, fits⟩
      rw [if_pos prompt, if_pos completion, if_neg cached]
      rfl
    · rw [if_pos prompt, if_neg completion]
      rfl
  · rw [if_neg prompt]
    rfl

end OfValue

theorem intoTokenUsage_wireUsage (usage : OpenAiUsage) :
    (wireUsage usage).intoTokenUsage = if Believed usage then some (reported usage) else none := by
  unfold ResponsesUsage.intoTokenUsage believable
  simp only [wireUsage, any_some, bind_some, any_none, Bool.or_false,
    Bool.or_eq_true, decide_eq_true_eq]
  by_cases fits : Believed usage
  · rw [if_pos fits]
    unfold Believed at fits
    rw [if_neg (by omega)]
    rfl
  · rw [if_neg fits]
    unfold Believed at fits
    rw [if_pos (by omega)]

/-- The usage that is written is read back where it is believed, and none is where it is not. -/
theorem usage_read (usage : OpenAiUsage) :
    (ResponsesUsage.ofValue (usageToWire usage)).bind (·.intoTokenUsage) =
      if Believed usage then some (reported usage) else none := by
  by_cases counted : Counted usage
  · rw [ofValue_of_counted counted, bind_some, intoTokenUsage_wireUsage]
  · rw [ofValue_of_not_counted counted, if_neg fun h => counted h.counted, bind_none]

/-- The stop reason of a status the stream writes. -/
theorem stopReason_statusOf (reason : String) (saw : Bool) :
    responsesStopReason (some (statusOf (some reason)).1) (some (statusOf (some reason)).2) saw =
      some (if reason = "length" then .length else if saw then .toolCalls else .stop) := by
  unfold statusOf
  by_cases clipped : reason = "length"
  · simp only [if_pos clipped]
    rfl
  · simp only [if_neg clipped]
    rfl

/-- The stop reason that is read is the one that was written. -/
theorem stopReason_finishReason (saw : Bool) (usage : OpenAiUsage) (maxTokens : Option Nat) :
    some (if finishReason saw usage maxTokens = "length" then .length
      else if saw then .toolCalls else .stop) =
      StopReason.fromOpenai (finishReason saw usage maxTokens) := by
  unfold finishReason
  cases saw with
  | true => rfl
  | false =>
      by_cases clipped : maxTokens.any (· ≤ usage.completionTokens) = true
      · simp only [Bool.false_eq_true, if_false, if_pos clipped]
        rfl
      · simp only [Bool.false_eq_true, if_false, if_neg clipped]
        rfl

section Terminal

variable {json : SerdeJson} {alias_ : String} {countTokens : Bool} {stream : ResponsesStream}
  {now : Int} {requestId model reason : String} {usage : OpenAiUsage} {block : Option Value}

/-- The response a terminal carries. -/
theorem completed_response :
    (stream.completed now requestId model usage reason block).1.data.get "response" =
      some (stream.envelope now requestId model (some usage) (some reason) block) := by
  unfold completed
  dsimp only
  rw [frame_get (by decide) (by decide)]
  rfl

theorem completed_type :
    (stream.completed now requestId model usage reason block).1.data.str "type" =
      some "response.completed" ∨
    (stream.completed now requestId model usage reason block).1.data.str "type" =
      some "response.incomplete" := by
  unfold completed
  dsimp only
  rw [frame_type]
  split
  · exact .inr rfl
  · exact .inl rfl

theorem envelope_usage :
    (stream.envelope now requestId model (some usage) (some reason) block).get "usage" =
      some (usageToWire usage) := rfl

theorem envelope_status :
    (stream.envelope now requestId model (some usage) (some reason) block).str "status" =
      some (statusOf (some reason)).1 := rfl

theorem envelope_details :
    (stream.envelope now requestId model (some usage) (some reason) block).get
      "incomplete_details" = some (statusOf (some reason)).2 := rfl

/-- What the parser yields at the terminal: the usage where it believes it, and the end. -/
def heardLast (usage : OpenAiUsage) (stopReason : Option StopReason) : List StreamEvent :=
  (if Believed usage then [.usage (reported usage)] else []) ++
    [.final { stopReason, usageGap := none }]

theorem hears_completed (state : ResponsesState) (open_ : state.finished = false)
    (reads : json.fromStr
        (payload json (stream.completed now requestId model usage reason block).1) =
      some (stream.completed now requestId model usage reason block).1.data) :
    Hears json alias_ countTokens state
      [(stream.completed now requestId model usage reason block).1]
      (heardLast usage (some (if reason = "length" then .length
        else if state.sawToolCall then .toolCalls else .stop)))
      { state with finished := true } := by
  refine Hears.one ?_
  have is_terminal : responsesTerminal state
      (stream.completed now requestId model usage reason block).1.data =
      heardLast usage (some (if reason = "length" then .length
        else if state.sawToolCall then .toolCalls else .stop)) := by
    unfold responsesTerminal heardLast
    dsimp only
    rw [completed_response, bind_some, envelope_usage, bind_some, usage_read,
      bind_some, envelope_status, bind_some, envelope_details, stopReason_statusOf]
    by_cases believed : Believed usage
    · rw [if_pos believed, if_pos believed]
      rfl
    · rw [if_neg believed, if_neg believed]
      rfl
  unfold responsesPayload
  rw [reads]
  dsimp only
  rw [← is_terminal]
  have is_completed : (stream.completed now requestId model usage reason block).1.data.str "type" =
      some "response.completed" ∨
    (stream.completed now requestId model usage reason block).1.data.str "type" =
      some "response.incomplete" := completed_type
  rcases is_completed with is_type | is_type
  · rw [is_type]
    simp only [open_]
    rfl
  · rw [is_type]
    simp only [open_]
    rfl

end Terminal

/-! ## The whole stream -/

/-- A machine that has finished stays finished. -/
theorem finished_feed (payloads : List String) (state last : ResponsesState)
    (items : List StreamItem)
    (fed : (responsesMachine json alias_ countTokens).feed state payloads = (items, some last))
    (done : state.finished = true) : last.finished = true := by
  induction payloads generalizing state items with
  | nil =>
      obtain ⟨-, rfl⟩ : [] = items ∧ state = last := by simpa [StreamMachine.feed] using fed
      exact done
  | cons data rest ih =>
      have kept : (responsesPayload json alias_ countTokens state data).1.finished = true := by
        unfold responsesPayload
        repeat' split
        all_goals exact done
      rcases handled : responsesPayload json alias_ countTokens state data with ⟨middle, outcome⟩
      have is_handled : (responsesMachine json alias_ countTokens).handlePayload state data =
          (middle, outcome) := handled
      rw [handled] at kept
      rw [StreamMachine.feed, is_handled] at fed
      cases outcome with
      | error error => cases fed
      | ok events =>
          obtain ⟨-, is_last⟩ := Prod.mk.inj fed
          exact ih middle _ (Prod.ext rfl is_last) kept

/-- Before the terminal the machine goes on. -/
theorem live_of_hears (hears : Hears json alias_ countTokens state frames events last)
    (going : last.finished = false) (first more : List String)
    (split : frames.map (payload json) = first ++ more) (told : List StreamItem)
    (next : ResponsesState)
    (fed : (responsesMachine json alias_ countTokens).feed state first = (told, some next)) :
    next.finished = false := by
  obtain ⟨items, whole, -⟩ := hears
  rw [split] at whole
  obtain ⟨_, next', later, is_first, is_later, -⟩ :=
    StreamMachine.feed_split _ first more state last items whole
  rw [fed] at is_first
  obtain ⟨-, same⟩ := Prod.mk.inj is_first
  obtain rfl := Option.some.inj same
  rw [← Bool.not_eq_true]
  intro done
  have ended := finished_feed more next last later is_later done
  rw [going] at ended
  cases ended

/-! ## The terminal's output -/

/-- What an item of an output holds: its texts, its summary or its arguments. -/
def wireContent (item : Value) : String :=
  match item.str "type" with
  | some "message" => String.join (itemTexts item)
  | some "reasoning" =>
      String.join ((((item.get "summary").bind Value.asArray).getD []).filterMap (·.str "text"))
  | _ => (item.str "arguments").getD ""

theorem wireContent_toWire (item : OutputItem) (requestId : String) (index : Nat) :
    wireContent (item.toWire requestId index) = item.content := by
  cases item with
  | message text => exact String.empty_append
  | reasoning summary => exact String.empty_append
  | functionCall call => rfl

/-- The text of an output. -/
def outputText (output : List Value) : String :=
  String.join ((output.filter (·.str "type" = some "message")).flatMap itemTexts)

/-- The calls of an output. -/
def outputCalls (output : List Value) : List ToolCall :=
  (output.filter (·.str "type" = some "function_call")).map itemToolCall

theorem getElem?_outputOf (requestId : String) (items : List OutputItem) (index : Nat) :
    (outputOf requestId items)[index]? = items[index]?.map (·.toWire requestId index) := by
  unfold outputOf
  rw [getElem?_mapIdx]

section Output

variable (requestId : String) (place : Nat → Nat) (items : List OutputItem)

theorem texts_mapIdx :
    ((items.mapIdx fun index item => item.toWire requestId (place index)).filter
      (·.str "type" = some "message")).flatMap itemTexts =
      (items.filter (·.kind = "msg")).map (·.content) := by
  induction items generalizing place with
  | nil => rfl
  | cons item rest ih =>
      rw [mapIdx_cons]
      cases item with
      | message text => exact congrArg (text :: ·) (ih _)
      | reasoning summary => exact ih _
      | functionCall call => exact ih _

theorem outputText_mapIdx :
    outputText (items.mapIdx fun index item => item.toWire requestId (place index)) =
      said "msg" items := congrArg String.join (texts_mapIdx requestId place items)

theorem outputCalls_mapIdx :
    outputCalls (items.mapIdx fun index item => item.toWire requestId (place index)) =
      items.filterMap (·.call) := by
  induction items generalizing place with
  | nil => rfl
  | cons item rest ih =>
      rw [mapIdx_cons]
      cases item with
      | message text => exact ih _
      | reasoning summary => exact ih _
      | functionCall call => exact congrArg (call :: ·) (ih _)

end Output

/-! ## From the opening to the finish -/

section Whole

variable (echo : ResponsesEcho) (opens closes : Int) (requestId model : String)
  (deltas : List Delta) (usage : OpenAiUsage) (maxTokens : Option Nat) (block : Option Value)

theorem numbers_transcript :
    let whole := transcript echo opens closes requestId model deltas usage maxTokens block
    whole.frames.map (·.number) = numbers 0 whole.frames.length := by
  intro whole
  have start : (new echo).Counts 0 := rfl
  obtain ⟨first, counts⟩ := start.frame "response.created"
    [("response", (new echo).envelope opens requestId model none none none)]
  have body := counts.sendAll requestId deltas
  obtain ⟨last, -⟩ := body.counts.frame _ _
  have is_first : whole.opened.number = some (.integer (min 0 u64Max : Nat)) := first
  have is_body : whole.sent.map (·.number) = numbers 1 whole.sent.length := body.numbers
  have is_last : whole.closed.number = some (.integer (min (1 + whole.sent.length) u64Max : Nat)) :=
    last
  have one (start : Nat) : numbers start 1 = [some (.integer (min start u64Max : Nat))] := rfl
  have is_whole : whole.frames.length = 1 + (whole.sent.length + 1) := by
    rw [Transcript.frames, length_cons, length_append, length_singleton,
      Nat.add_comm]
  rw [is_whole, ← numbers_append, ← numbers_append, Nat.zero_add, one, one, ← is_body, ← is_first,
    ← is_last, Transcript.frames]
  simp

/-- The items a stream closes on are those its deltas made. -/
theorem told_transcript :
    let whole := transcript echo opens closes requestId model deltas usage maxTokens block
    Told ((new echo).created opens requestId model).2 requestId deltas
      (((new echo).created opens requestId model).2.sendAll requestId deltas) ∧
    whole.sent = (((new echo).created opens requestId model).2.sendAll requestId deltas).1 ∧
    whole.items = (((new echo).created opens requestId model).2.sendAll requestId deltas).2.items :=
  ⟨told _ requestId deltas, rfl, rfl⟩

variable {json : SerdeJson} (alias_ : String) (countTokens : Bool)

/-- The parser yields what was sent, however the frames are spread over reads. -/
theorem heard_transcript :
    let whole := transcript echo opens closes requestId model deltas usage maxTokens block
    ∀ reads : List (List String), ReadsBack json whole.frames →
      reads.flatten = whole.frames.map (payload json) →
      let items := (responsesMachine json alias_ countTokens).run .initial (reads.map .ok)
      (∀ error, .failed error ∉ items) ∧
      eventsOf items = deltas.flatMap (heard countTokens) ++
        heardLast usage
          (StopReason.fromOpenai (finishReason (deltas.any (·.call.isSome)) usage maxTokens)) := by
  intro whole reads readsBack is_reads items
  obtain ⟨reads_opened, reads_rest⟩ := forall_mem_cons.mp readsBack
  obtain ⟨reads_sent, reads_closed⟩ := forall_mem_append.mp reads_rest
  have opened : Hears json alias_ countTokens .initial [whole.opened] [] .initial :=
    Hears.one (payload_passed reads_opened (by decide))
  have sent : Hears json alias_ countTokens .initial whole.sent (deltas.flatMap (heard countTokens))
      (deltas.foldl after .initial) :=
    hears_sendAll _ _ requestId deltas reads_sent
  have going : (deltas.foldl after ResponsesState.initial).finished = false :=
    finished_foldl_after _ deltas
  have saw : (deltas.foldl after ResponsesState.initial).sawToolCall =
      deltas.any (·.call.isSome) := by
    rw [sawToolCall_foldl_after, ResponsesState.initial, Bool.false_or]
  have closed : Hears json alias_ countTokens (deltas.foldl after .initial) [whole.closed]
      (heardLast usage _) _ :=
    hears_completed _ going (reads_closed whole.closed mem_cons_self)
  rw [saw, stopReason_finishReason] at closed
  have body := opened.append sent
  obtain ⟨told, fed, is_told⟩ := body.append closed
  have is_run : items = told := by
    refine StreamMachine.run_of_feed _ reads ((whole.opened :: whole.sent).map (payload json))
      (payload json whole.closed) ResponsesState.initial
      { finished := true, sawToolCall := deltas.any (·.call.isSome) } told ?_ ?_ ?_ rfl
    · rw [is_reads, Transcript.frames, ← cons_append, map_append, map_singleton]
    · rw [← fed]
      simp
    · intro first more split told next fed
      exact live_of_hears body going first more split told next fed
  rw [is_run]
  refine ⟨fun error => StreamMachine.failed_not_mem_feed _ _ _ _ _ fed error, ?_⟩
  rw [is_told]
  rfl

end Whole

/-- Frames are numbered as far as the counter reaches, each delta's frames name the item they
    extend, the output holds what was sent, and the parser yields it again. -/
theorem transcript_readBack (json : SerdeJson) (alias_ : String) (countTokens : Bool)
    (echo : ResponsesEcho) (opens closes : Int) (requestId model : String) (deltas : List Delta)
    (usage : OpenAiUsage) (maxTokens : Option Nat) (block : Option Value) :
    let whole := transcript echo opens closes requestId model deltas usage maxTokens block
    let output := outputOf requestId whole.items
    whole.frames.map (·.number) = numbers 0 whole.frames.length ∧
    (whole.closed.data.get "response").bind (·.get "output") = some (.array output) ∧
    (∀ frame ∈ whole.sent, ∃ (index : Nat) (item : Value), output[index]? = some item ∧
      outputIndex frame = some (index : Int) ∧ namedItem frame = item.str "id") ∧
    (∀ (index : Nat) (item : Value), output[index]? = some item →
      wireContent item = String.join (whole.sent.filterMap (deltaAt index))) ∧
    outputText output = String.join ((deltas.filter (·.kind = "msg")).map (·.content)) ∧
    outputCalls output = deltas.filterMap (·.call) ∧
    ∀ reads : List (List String), ReadsBack json whole.frames →
      reads.flatten = whole.frames.map (payload json) →
      let items := (responsesMachine json alias_ countTokens).run .initial (reads.map .ok)
      (∀ error, .failed error ∉ items) ∧
      eventsOf items = deltas.flatMap (heard countTokens) ++
        heardLast usage
          (StopReason.fromOpenai (finishReason (deltas.any (·.call.isSome)) usage maxTokens)) := by
  intro whole output
  obtain ⟨told, is_sent, is_items⟩ := told_transcript echo opens closes requestId model deltas usage
    maxTokens block
  refine ⟨numbers_transcript echo opens closes requestId model deltas usage maxTokens block, ?_, ?_,
    ?_, ?_, ?_, heard_transcript echo opens closes requestId model deltas usage maxTokens block
      alias_ countTokens⟩
  · have is_response : whole.closed.data.get "response" = _ := completed_response
    rw [is_response]
    rfl
  · intro frame mem
    rw [is_sent] at mem
    obtain ⟨index, item, is_item, is_index, is_name⟩ := told.place frame mem
    refine ⟨index, item.toWire requestId index, ?_, is_index, ?_⟩
    · rw [getElem?_outputOf, is_items, is_item]
      rfl
    · rw [is_name, id_toWire]
  · intro index item is_item
    rw [getElem?_outputOf, is_items, Option.map_eq_some_iff] at is_item
    obtain ⟨held, is_held, rfl⟩ := is_item
    have content := told.content index
    rw [contentAt, is_held] at content
    rw [wireContent_toWire, is_sent]
    exact content.trans String.empty_append
  · have is_text := outputText_mapIdx requestId id whole.items
    refine is_text.trans ?_
    rw [is_items, told.said]
    exact String.empty_append
  · have is_calls := outputCalls_mapIdx requestId id whole.items
    refine is_calls.trans ?_
    rw [is_items, told.calls]
    rfl

/-! ## A short stream -/

def quietEcho : ResponsesEcho := { instructions := none, temperature := none, tools := [] }

/-- Counts of a prompt and an answer of one token. -/
def promptUsage (prompt : Nat) : OpenAiUsage where
  promptTokens := prompt
  completionTokens := 1
  totalTokens := prompt + 1
  promptTokensDetails := none

/-- A stream of one word. -/
def greeting (prompt : Nat) : Transcript :=
  transcript quietEcho 0 0 "r" "m" [.text "Hi"] (promptUsage prompt) none none

/-- How its three frames are printed. -/
def createdText : String :=
  "\x7b\"response\":\x7b\"created_at\":0,\"error\":null,\"id\":\"resp_r\"," ++
  "\"incomplete_details\":null,\"instructions\":null,\"metadata\":\x7b\x7d,\"model\":\"m\"," ++
  "\"object\":\"response\",\"output\":[],\"parallel_tool_calls\":true," ++
  "\"status\":\"in_progress\",\"temperature\":null,\"tool_choice\":\"auto\",\"tools\":[]," ++
  "\"top_p\":null\x7d,\"sequence_number\":0,\"type\":\"response.created\"\x7d"

def deltaText : String :=
  "\x7b\"content_index\":0,\"delta\":\"Hi\",\"item_id\":\"msg_r_0\",\"output_index\":0," ++
  "\"sequence_number\":1,\"type\":\"response.output_text.delta\"\x7d"

def completedText (prompt : Nat) : String :=
  "\x7b\"response\":\x7b\"created_at\":0,\"error\":null,\"id\":\"resp_r\"," ++
  "\"incomplete_details\":null,\"instructions\":null,\"metadata\":\x7b\x7d,\"model\":\"m\"," ++
  "\"object\":\"response\",\"output\":[\x7b\"content\":[\x7b\"annotations\":[]," ++
  "\"text\":\"Hi\",\"type\":\"output_text\"\x7d],\"id\":\"msg_r_0\",\"role\":\"assistant\"," ++
  "\"status\":\"completed\",\"type\":\"message\"\x7d],\"parallel_tool_calls\":true," ++
  "\"status\":\"completed\",\"temperature\":null,\"tool_choice\":\"auto\",\"tools\":[]," ++
  "\"top_p\":null,\"usage\":\x7b\"input_tokens\":" ++ toString prompt ++
  ",\"input_tokens_details\":\x7b\"cached_tokens\":0\x7d,\"output_tokens\":1," ++
  "\"total_tokens\":" ++ toString (prompt + 1) ++
  "\x7d\x7d,\"sequence_number\":2,\"type\":\"response.completed\"\x7d"

/-- The frame of a type. -/
def greetingText (prompt : Nat) (type : Option String) : String :=
  if type = some "response.created" then createdText
  else if type = some "response.output_text.delta" then deltaText
  else completedText prompt

/-- A printer and a parser that know the three frames. -/
def greetingJson (prompt : Nat) : SerdeJson where
  fromStr text :=
    if text = createdText then some (greeting prompt).opened.data
    else if text = deltaText then (greeting prompt).sent.head?.map (·.data)
    else if text = completedText prompt then some (greeting prompt).closed.data
    else none
  toString value := greetingText prompt (value.str "type")

/-- What is printed of the three frames is read back. -/
theorem greeting_readsBack (prompt : Nat) (apart : completedText prompt ≠ createdText)
    (apart' : completedText prompt ≠ deltaText) :
    ReadsBack (greetingJson prompt) (greeting prompt).frames := by
  have known : deltaText ≠ createdText := by decide +kernel
  have opened : (greeting prompt).opened.data.str "type" = some "response.created" := frame_type
  have closed : (greeting prompt).closed.data.str "type" = some "response.completed" := frame_type
  have printed : greetingText prompt (some "response.created") = createdText := if_pos rfl
  have printed' : greetingText prompt (some "response.output_text.delta") = deltaText := by
    rw [greetingText, if_neg (by decide), if_pos rfl]
  have printed'' : greetingText prompt (some "response.completed") = completedText prompt := by
    rw [greetingText, if_neg (by decide), if_neg (by decide)]
  refine forall_mem_cons.mpr ⟨?_, forall_mem_append.mpr
    ⟨forall_mem_singleton.mpr ?_, forall_mem_singleton.mpr ?_⟩⟩
  · unfold payload greetingJson
    dsimp only
    rw [opened, printed, if_pos rfl]
  · unfold payload greetingJson
    dsimp only
    rw [frame_type, printed', if_neg known, if_pos rfl]
    rfl
  · unfold payload greetingJson
    dsimp only
    rw [closed, printed'', if_neg apart, if_neg apart', if_pos rfl]

/-- The word, the three counts and the stop come out again. -/
theorem greeting_heard :
    eventsOf ((responsesMachine (greetingJson 3) "up" false).run .initial
        [.ok [createdText], .ok [deltaText, completedText 3]]) =
      [.textDelta (StreamChunk.ofDelta "Hi"),
        .usage
          { inputTokens := some 3, outputTokens := some 1, cachedInputTokens := some 0
            cacheWriteInputTokens := none },
        .final { stopReason := some .stop, usageGap := none }] := by
  obtain ⟨-, -, -, -, -, -, heard⟩ := transcript_readBack (greetingJson 3) "up" false quietEcho 0
    0 "r" "m" [.text "Hi"] (promptUsage 3) none none
  refine (heard [[createdText], [deltaText, completedText 3]]
    (greeting_readsBack 3 (by decide +kernel) (by decide +kernel)) rfl).2.trans ?_
  decide +kernel

/-- No delta goes without a frame. -/
theorem length_sendAll (stream : ResponsesStream) (requestId : String) (deltas : List Delta) :
    deltas.length ≤ (stream.sendAll requestId deltas).1.length := by
  induction deltas generalizing stream with
  | nil => exact Nat.zero_le _
  | cons delta rest ih =>
      have one : 1 ≤ (stream.send requestId delta).1.length := by
        cases delta with
        | text delta => exact Nat.le_refl 1
        | reasoning delta => exact Nat.le_refl 1
        | toolCall call => exact Nat.le_add_left 1 3
      have later := ih (stream.send requestId delta).2
      rw [sendAll, length_cons, length_append]
      omega

/-- Three billion tokens are sent and not read back, and past 2⁶⁴ frames a number is repeated. -/
theorem greeting_unheard :
    (ReadsBack (greetingJson 3000000000) (greeting 3000000000).frames ∧
      eventsOf ((responsesMachine (greetingJson 3000000000) "up" false).run .initial
          [.ok [createdText], .ok [deltaText, completedText 3000000000]]) =
        [.textDelta (StreamChunk.ofDelta "Hi"),
          .final { stopReason := some .stop, usageGap := none }]) ∧
    (let whole := transcript quietEcho 0 0 "r" "m" (List.replicate (2 ^ 64) (.text ""))
      (promptUsage 3) none none
    whole.frames.map (·.number) ≠
      (List.range whole.frames.length).map fun i => some (.integer (i : Int))) := by
  have readsBack := greeting_readsBack 3000000000 (by decide +kernel) (by decide +kernel)
  refine ⟨⟨readsBack, ?_⟩, ?_⟩
  · have heard := heard_transcript quietEcho 0 0 "r" "m" [.text "Hi"] (promptUsage 3000000000)
      none none "up" false [[createdText], [deltaText, completedText 3000000000]] readsBack rfl
    refine heard.2.trans ?_
    decide +kernel
  · intro whole same
    have long : 2 ^ 64 ≤ whole.sent.length := by
      have sent := length_sendAll ((new quietEcho).created 0 "r" "m").2 "r"
        (List.replicate (2 ^ 64) (.text ""))
      rwa [List.length_replicate] at sent
    have inside : 2 ^ 64 < whole.frames.length := by
      rw [Transcript.frames, List.length_cons, List.length_append]
      omega
    have numbered : whole.frames.map (·.number) = numbers 0 whole.frames.length :=
      numbers_transcript quietEcho 0 0 "r" "m" _ (promptUsage 3) none none
    rw [numbered, numbers] at same
    have at_limit := congrArg (·[2 ^ 64]?) same
    simp only [List.getElem?_map, List.getElem?_range' inside, List.getElem?_range inside,
      Option.map_some, Option.some.injEq, Value.integer.injEq, u64Max] at at_limit
    omega

/-! ## The answer at once -/

section Buffered

/-- The reply some items come to. -/
def replyOf (items : List OutputItem) (usage : OpenAiUsage) (reason : String) : ChatReply where
  text := if (items.filter (·.kind = "msg")).isEmpty then none else some (said "msg" items)
  toolCalls := items.filterMap (·.call)
  usage := if Believed usage then some (reported usage) else none
  reasoningContent := none
  stopReason := some (if reason = "length" then .length
    else if !(items.filterMap (·.call)).isEmpty then .toolCalls else .stop)

variable {now : Int} {parts : Envelope} {usage : OpenAiUsage} {reason : String}

/-- An envelope that was written, as it is deserialized. -/
theorem envelope_read (counted : Counted usage) (written : parts.usage = some usage)
    (ended : parts.finishReason = some reason) :
    ResponsesEnvelope.ofValue (Responses.envelope now parts) = some
      { status := some (statusOf (some reason)).1
        output := outputOf parts.requestId parts.items
        usage := some (wireUsage usage)
        incompleteDetails := if reason = "length" then some (statusOf (some reason)).2 else none } := by
  obtain ⟨requestId, model, items, _, _, echo, block⟩ := parts
  cases written
  cases ended
  have usage_read : Serde.optional (Responses.envelope now
      ⟨requestId, model, items, some usage, some reason, echo, block⟩) "usage"
        ResponsesUsage.ofValue = some (some (wireUsage usage)) :=
    congrArg (·.map some) (ofValue_of_counted counted)
  unfold ResponsesEnvelope.ofValue
  rw [usage_read, Responses.envelope]
  by_cases clipped : reason = "length"
  · simp only [statusOf, if_pos clipped]
    rfl
  · simp only [statusOf, if_neg clipped]
    rfl

/-- What `parse_envelope` makes of it. -/
theorem reply_read (counted : Counted usage) (written : parts.usage = some usage)
    (ended : parts.finishReason = some reason) :
    (ResponsesEnvelope.ofValue (Responses.envelope now parts)).map parseResponsesEnvelope =
      some (replyOf parts.items usage reason) := by
  have texts := texts_mapIdx parts.requestId id parts.items
  have calls := outputCalls_mapIdx parts.requestId id parts.items
  have stops : responsesStopReason (some (statusOf (some reason)).1)
      (if reason = "length" then some (statusOf (some reason)).2 else none)
      (!(parts.items.filterMap (·.call)).isEmpty) = some (if reason = "length" then .length
        else if !(parts.items.filterMap (·.call)).isEmpty then .toolCalls else .stop) := by
    unfold statusOf
    by_cases clipped : reason = "length"
    · simp only [if_pos clipped]
      rfl
    · simp only [if_neg clipped]
      rfl
  unfold outputCalls at calls
  rw [envelope_read counted written ended, map_some, parseResponsesEnvelope]
  unfold outputOf
  dsimp only [id] at texts calls ⊢
  rw [texts, calls, stops, bind_some, intoTokenUsage_wireUsage, isEmpty_map]
  rfl

theorem itemsFromCompletion_parts (text reasoning : Option String) (toolCalls : List ToolCall) :
    (itemsFromCompletion text reasoning toolCalls).filter (·.kind = "msg") =
        ((text.filter (· ≠ "")).map .message).toList ∧
      (itemsFromCompletion text reasoning toolCalls).filterMap (·.call) = toolCalls := by
  unfold itemsFromCompletion
  rw [filter_append, filter_append, filterMap_append, filterMap_append]
  have kinds : (toolCalls.map OutputItem.functionCall).filter (·.kind = "msg") = [] := by
    simp [OutputItem.kind]
  have calls : (toolCalls.map OutputItem.functionCall).filterMap (·.call) = toolCalls := by
    simp [OutputItem.call]
  rw [kinds, calls]
  cases reasoning.filter (· ≠ "") <;> cases text.filter (· ≠ "") <;> exact ⟨rfl, rfl⟩

end Buffered

/-- A completion answered at once and the terminal of its stream are one reply, where an empty
    text is none. -/
theorem answer_agrees (echo : ResponsesEcho) (now opens closes : Int) (requestId model : String)
    (deltas : List Delta) {usage : OpenAiUsage} (counted : Counted usage) (maxTokens : Option Nat)
    (block : Option Value) :
    let whole := transcript echo opens closes requestId model deltas usage maxTokens block
    let text := String.join ((deltas.filter (·.kind = "msg")).map (·.content))
    let reasoning := String.join ((deltas.filter (·.kind = "rs")).map (·.content))
    let calls := deltas.filterMap (·.call)
    let atOnce := Responses.envelope now
      { requestId, model, items := itemsFromCompletion (some text) (some reasoning) calls
        usage := some usage, finishReason := some (finishReason (!calls.isEmpty) usage maxTokens)
        echo, zerorouter := block }
    let reply : ChatReply :=
      { text := (some text).filter (· ≠ ""), toolCalls := calls
        usage := if Believed usage then some (reported usage) else none, reasoningContent := none
        stopReason := StopReason.fromOpenai (finishReason (!calls.isEmpty) usage maxTokens) }
    (ResponsesEnvelope.ofValue atOnce).map parseResponsesEnvelope = some reply ∧
    (((whole.closed.data.get "response").bind ResponsesEnvelope.ofValue).map
      parseResponsesEnvelope).map (fun read => { read with text := read.text.filter (· ≠ "") }) =
        some reply := by
  intro whole text reasoning calls atOnce reply
  obtain ⟨told, -, is_items⟩ := told_transcript echo opens closes requestId model deltas usage
    maxTokens block
  have any_call : deltas.any (·.call.isSome) = !calls.isEmpty := by
    rw [Bool.eq_iff_iff]
    simp [calls, Option.isSome_iff_ne_none]
  obtain ⟨message, called⟩ := itemsFromCompletion_parts (some text) (some reasoning) calls
  constructor
  · rw [reply_read counted rfl rfl, replyOf, said]
    dsimp only
    rw [message, called, stopReason_finishReason]
    by_cases blank : text = ""
    · simp [reply, blank, Option.filter]
    · simp [reply, blank, Option.filter, OutputItem.content]
  · have is_response : whole.closed.data.get "response" = _ := completed_response
    have texts : said "msg" whole.items = text := by
      rw [is_items, told.said]
      exact String.empty_append
    have is_calls : whole.items.filterMap (·.call) = calls := by
      rw [is_items, told.calls]
      rfl
    have heard_text (reason : String) : (replyOf whole.items usage reason).text.filter (· ≠ "") =
        (some text).filter (· ≠ "") := by
      unfold replyOf
      by_cases silent : (whole.items.filter (·.kind = "msg")).isEmpty = true
      · have blank : text = "" := by
          rw [← texts, said, isEmpty_iff.mp silent]
          rfl
        rw [if_pos silent, blank]
        rfl
      · rw [if_neg silent, texts]
    rw [is_response, Option.bind_some, ResponsesStream.envelope, reply_read counted rfl rfl,
      Option.map_some]
    dsimp only
    rw [← is_items, heard_text, replyOf, is_calls, any_call, stopReason_finishReason]

theorem answer_agrees_greeting : ∃ reply : ChatReply, reply.text = some "Hi" ∧
    ((((greeting 3).closed.data.get "response").bind ResponsesEnvelope.ofValue).map
      parseResponsesEnvelope).map (fun read => { read with text := read.text.filter (· ≠ "") }) =
        some reply := by
  have counted : Counted (promptUsage 3) := ⟨by decide, by decide, by decide⟩
  exact ⟨_, by decide +kernel,
    (answer_agrees quietEcho 0 0 0 "r" "m" [.text "Hi"] counted none none).2⟩

end ResponsesStream

end ZeroRouter.Responses
