import ZeroRouter.Proofs.Surprise

/-!
# What is charged for a stream, and what of it reached the client

`StreamDelivery` keeps two flags of what a stream put to the client's channel.  The
channel's own account is the list of frames offered to it with its answers; the flags
are folded from that list, so what a terminal charges can be read off it.  The one
state the flags cannot tell from an empty answer is a client that refused the opening
frame.
-/

namespace ZeroRouter

open Option List

namespace StreamStep

variable {wire : StreamWire}

/-- The event carries model output: the channel's answers to the opening frame and to
    the frames it makes. -/
def output : StreamStep → Option (Bool × List Bool)
  | textDelta delta reasoning _ opened frames =>
      if delta = "" ∧ reasoning.getD "" = "" then none else some (opened, frames)
  | toolCall opened frames => some (opened, frames)
  | usage _ => none

/-- Every dialect makes a frame of model output. -/
theorem Framed.ne_nil {wire : StreamWire} {step : StreamStep} (h : step.Framed wire)
    {opened : Bool} {frames : List Bool} (houtput : step.output = some (opened, frames)) :
    frames ≠ [] := by
  rintro rfl
  cases step with
  | textDelta delta reasoning tokenCount opened' frames' =>
      simp only [output] at houtput
      split at houtput
      · cases houtput
      · rename_i hsome
        cases houtput
        cases wire with
        | chatCompletions => cases h
        | responses =>
            refine hsome ?_
            have hnone : (reasoning.filter (· ≠ "")).toList.length +
                ((if delta = "" then none else some delta).filter (· ≠ "")).toList.length = 0 :=
              (show ([] : List Bool).length = _ from h).symm
            by_cases hdelta : delta = ""
            · cases reasoning with
              | none => exact ⟨hdelta, rfl⟩
              | some text =>
                  refine ⟨hdelta, ?_⟩
                  by_contra htext
                  simp [hdelta, Option.filter, show text ≠ "" from htext] at hnone
            · simp [hdelta, Option.filter] at hnone
  | toolCall opened' frames' =>
      cases houtput
      cases wire <;> cases h
  | usage usage => cases houtput

end StreamStep

/-- The stream carried model output. -/
def Produced (steps : List StreamStep) : Prop := ∃ step ∈ steps, step.output.isSome = true

/-- The first event that carries model output: whether its opening frame was accepted. -/
def firstOutput (steps : List StreamStep) : Option (Bool × List Bool) :=
  steps.findSome? StreamStep.output

theorem produced_iff (steps : List StreamStep) :
    Produced steps ↔ (firstOutput steps).isSome = true := by
  simp [Produced, firstOutput, findSome?_isSome_iff]

/-- The upstream's report: its last usage event, if it can be read. -/
def reported (steps : List StreamStep) : Option OpenAiUsage :=
  steps.foldl
    (fun report step =>
      match step with
      | .usage usage => OpenAiUsage.tryFromProvider (some usage)
      | _ => report)
    none

/-! ## The frames offered to the channel -/

/-- A run of frames is offered up to the first the channel refuses. -/
def upToRefusal : List Bool → List Bool
  | [] => []
  | true :: rest => true :: upToRefusal rest
  | false :: _ => [false]

/-- The frames one event has the walk offer, with the channel's answers. -/
def StreamLocals.offers (locals : StreamLocals) (step : StreamStep) : List (Frame × Bool) :=
  match step.output with
  | none => []
  | some (opened, frames) =>
      if !locals.clientConnected then []
      else
        (if locals.roleSent then [] else [(.scaffolding, opened)]) ++
          if locals.roleSent || opened then (upToRefusal frames).map (.modelOutput, ·) else []

/-- The frames a whole stream has it offer. -/
def offered : StreamLocals → List StreamStep → List (Frame × Bool)
  | _, [] => []
  | locals, step :: steps => locals.offers step ++ offered (locals.step step) steps

/-- A stream at its start, its client there. -/
def StreamLocals.fresh : StreamLocals where
  clientConnected := true
  delivery := .none
  roleSent := false
  usage := none
  estimatedOutput := 0

/-- Some frame of model output was accepted by the channel. -/
def Accepted (steps : List StreamStep) : Prop :=
  (.modelOutput, true) ∈ offered .fresh steps

instance (steps : List StreamStep) : Decidable (Accepted steps) :=
  inferInstanceAs (Decidable ((Frame.modelOutput, true) ∈ offered .fresh steps))

theorem sendAll_delivery (frames : List Bool) (delivery : StreamDelivery) :
    (StreamDelivery.sendAll .modelOutput frames delivery).2 =
      ((upToRefusal frames).map (Frame.modelOutput, ·)).foldl
        (fun delivery offer => delivery.send offer.2 offer.1) delivery := by
  induction frames generalizing delivery with
  | nil => rfl
  | cons accepted rest ih =>
      cases accepted with
      | true => exact ih _
      | false => rfl

/-- The delivery is folded from the frames offered. -/
theorem step_delivery (locals : StreamLocals) (step : StreamStep) :
    (locals.step step).delivery =
      (locals.offers step).foldl (fun delivery offer => delivery.send offer.2 offer.1)
        locals.delivery := by
  have deliver : ∀ (locals : StreamLocals) opened frames,
      (locals.deliver opened frames).delivery =
        (if !locals.clientConnected then []
        else
          (if locals.roleSent then [] else [(Frame.scaffolding, opened)]) ++
            if locals.roleSent || opened then (upToRefusal frames).map (Frame.modelOutput, ·)
            else []).foldl (fun delivery offer => delivery.send offer.2 offer.1)
          locals.delivery := by
    intro locals opened frames
    unfold StreamLocals.deliver StreamDelivery.ensureOpen
    cases locals.clientConnected <;> cases locals.roleSent <;> cases opened <;>
      simp [sendAll_delivery]
  cases step with
  | textDelta delta reasoning tokenCount opened frames =>
      simp only [StreamLocals.step, StreamLocals.offers, StreamStep.output]
      split
      · rfl
      · exact deliver _ opened frames
  | toolCall opened frames => exact deliver locals opened frames
  | usage usage => rfl

theorem steps_delivery (steps : List StreamStep) (locals : StreamLocals) :
    (steps.foldl StreamLocals.step locals).delivery =
      (offered locals steps).foldl (fun delivery offer => delivery.send offer.2 offer.1)
        locals.delivery := by
  induction steps generalizing locals with
  | nil => rfl
  | cons step steps ih =>
      rw [foldl_cons, ih, step_delivery, offered, foldl_append]

theorem foldl_send_sent (offers : List (Frame × Bool)) (delivery : StreamDelivery) :
    (offers.foldl (fun delivery offer => delivery.send offer.2 offer.1)
        delivery).modelOutputSent = true ↔
      delivery.modelOutputSent = true ∨ (.modelOutput, true) ∈ offers := by
  induction offers generalizing delivery with
  | nil => simp
  | cons offer offers ih =>
      obtain ⟨frame, accepted⟩ := offer
      rw [foldl_cons, ih, mem_cons]
      cases frame <;> cases accepted <;> simp [StreamDelivery.send]

/-- The flag is what the channel accepted. -/
theorem modelOutputSent_iff (steps : List StreamStep) :
    (steps.foldl StreamLocals.step .fresh).delivery.modelOutputSent = true ↔ Accepted steps := by
  rw [steps_delivery, foldl_send_sent]
  simp [Accepted, StreamLocals.fresh, StreamDelivery.none]

theorem step_usage (locals : StreamLocals) (step : StreamStep) :
    (locals.step step).usage =
      match step with
      | .usage usage => OpenAiUsage.tryFromProvider (some usage)
      | _ => locals.usage := by
  have deliver : ∀ (locals : StreamLocals) opened frames,
      (locals.deliver opened frames).usage = locals.usage := by
    intro locals opened frames
    unfold StreamLocals.deliver
    dsimp only
    split
    · rfl
    · split <;> rfl
  cases step with
  | textDelta delta reasoning tokenCount opened frames =>
      simp only [StreamLocals.step]
      split
      · rfl
      · exact deliver _ opened frames
  | toolCall opened frames => exact deliver locals opened frames
  | usage usage => rfl

theorem steps_usage (steps : List StreamStep) :
    (steps.foldl StreamLocals.step .fresh).usage = reported steps := by
  have run : ∀ (steps : List StreamStep) (locals : StreamLocals),
      (steps.foldl StreamLocals.step locals).usage =
        steps.foldl
          (fun report step =>
            match step with
            | .usage usage => OpenAiUsage.tryFromProvider (some usage)
            | _ => report)
          locals.usage := by
    intro steps
    induction steps with
    | nil => exact fun _ => rfl
    | cons step steps ih =>
        intro locals
        rw [foldl_cons, foldl_cons, ih, step_usage]
  exact run steps .fresh

/-! ## What the flags tell -/

/-- Where a stream that started fresh stands after some of its events. -/
structure StreamLocals.Tracks (steps : List StreamStep) (locals : StreamLocals) : Prop where
  unproduced : firstOutput steps = none →
    locals.clientConnected = true ∧ locals.roleSent = false ∧ locals.delivery = .none
  refused : ∀ frames, firstOutput steps = some (false, frames) →
    locals.clientConnected = false ∧ locals.delivery = .none
  opened : ∀ frames, firstOutput steps = some (true, frames) →
    locals.roleSent = true ∧ locals.delivery.modelOutputAttempted = true ∧
      (locals.clientConnected = true → locals.delivery.modelOutputSent = true)

theorem sendAll_accepted (frames : List Bool) (delivery : StreamDelivery) :
    (delivery.modelOutputAttempted = true ∨ frames ≠ [] →
      (StreamDelivery.sendAll .modelOutput frames delivery).2.modelOutputAttempted = true) ∧
    (delivery.modelOutputSent = true ∨ frames ≠ [] →
      (StreamDelivery.sendAll .modelOutput frames delivery).1 = true →
        (StreamDelivery.sendAll .modelOutput frames delivery).2.modelOutputSent = true) := by
  induction frames generalizing delivery with
  | nil => simp [StreamDelivery.sendAll]
  | cons accepted rest ih =>
      cases accepted with
      | true =>
          have hnext := ih (delivery.send true .modelOutput)
          refine ⟨fun _ => hnext.1 (.inl ?_), fun _ => hnext.2 (.inl ?_)⟩
          · simp [StreamDelivery.send]
          · simp [StreamDelivery.send]
      | false =>
          refine ⟨fun _ => ?_, fun _ haccepted => ?_⟩
          · simp [StreamDelivery.sendAll, StreamDelivery.send]
          · cases haccepted

namespace StreamLocals.Tracks

variable {steps : List StreamStep} {locals : StreamLocals}

theorem fresh : Tracks [] .fresh where
  unproduced _ := ⟨rfl, rfl, rfl⟩
  refused _ h := nomatch h
  opened _ h := nomatch h

/-- An event without model output leaves the tracking as it is. -/
theorem silent (h : Tracks steps locals) {step : StreamStep} (houtput : step.output = none)
    {locals' : StreamLocals} (hconnected : locals'.clientConnected = locals.clientConnected)
    (hrole : locals'.roleSent = locals.roleSent) (hdelivery : locals'.delivery = locals.delivery) :
    Tracks (steps ++ [step]) locals' := by
  have hfirst : firstOutput (steps ++ [step]) = firstOutput steps := by
    simp [firstOutput, findSome?_append, houtput]
  constructor
  · rw [hfirst, hconnected, hrole, hdelivery]
    exact h.unproduced
  · rw [hfirst, hconnected, hdelivery]
    exact h.refused
  · rw [hfirst, hconnected, hrole, hdelivery]
    exact h.opened

/-- An event that carries model output. -/
theorem deliver (h : Tracks steps locals) {step : StreamStep} {opened : Bool} {frames : List Bool}
    (houtput : step.output = some (opened, frames)) (hframes : frames ≠ [])
    {base : StreamLocals} (hconnected : base.clientConnected = locals.clientConnected)
    (hrole : base.roleSent = locals.roleSent) (hdelivery : base.delivery = locals.delivery) :
    Tracks (steps ++ [step]) (base.deliver opened frames) := by
  have hfirst : firstOutput (steps ++ [step]) =
      (firstOutput steps).or (some (opened, frames)) := by
    simp [firstOutput, findSome?_append, houtput]
  cases hbefore : firstOutput steps with
  | none =>
      obtain ⟨hconn, hsent, hnone⟩ := h.unproduced hbefore
      rw [← hconnected] at hconn
      rw [← hrole] at hsent
      rw [← hdelivery] at hnone
      rw [hbefore, none_or] at hfirst
      have hsends := sendAll_accepted frames (StreamDelivery.none.send opened .scaffolding)
      unfold StreamLocals.deliver StreamDelivery.ensureOpen
      rw [hconn, hsent, hnone]
      cases opened with
      | false =>
          refine ⟨fun hnot => ?_, fun _ _ => ⟨rfl, rfl⟩, fun _ hopened => ?_⟩
          · rw [hfirst] at hnot
            cases hnot
          · rw [hfirst] at hopened
            cases hopened
      | true =>
          refine ⟨fun hnot => ?_, fun _ hrefused => ?_, fun _ _ => ⟨rfl, ?_, ?_⟩⟩
          · rw [hfirst] at hnot
            cases hnot
          · rw [hfirst] at hrefused
            cases hrefused
          · exact hsends.1 (.inr hframes)
          · exact hsends.2 (.inr hframes)
  | some first =>
      obtain ⟨wasOpened, firstFrames⟩ := first
      rw [hbefore, some_or] at hfirst
      cases wasOpened with
      | false =>
          obtain ⟨hconn, hnone⟩ := h.refused firstFrames hbefore
          rw [← hconnected] at hconn
          rw [← hdelivery] at hnone
          have hstays : base.deliver opened frames = base := by
            simp [StreamLocals.deliver, hconn]
          rw [hstays]
          refine ⟨fun hnot => ?_, fun _ _ => ⟨hconn, hnone⟩, fun _ hopened => ?_⟩
          · rw [hfirst] at hnot
            cases hnot
          · rw [hfirst] at hopened
            cases hopened
      | true =>
          obtain ⟨hsent, hattempted, himp⟩ := h.opened firstFrames hbefore
          rw [← hrole] at hsent
          rw [← hdelivery] at hattempted himp
          rw [← hconnected] at himp
          have hsends := sendAll_accepted frames base.delivery
          refine ⟨fun hnot => ?_, fun _ hrefused => ?_, fun _ _ => ?_⟩
          · rw [hfirst] at hnot
            cases hnot
          · rw [hfirst] at hrefused
            cases hrefused
          · unfold StreamLocals.deliver StreamDelivery.ensureOpen
            rw [hsent]
            cases hconn : base.clientConnected with
            | false =>
                refine ⟨hsent, hattempted, ?_⟩
                intro hnot
                exact absurd (hconn.symm.trans hnot) (by decide)
            | true => exact ⟨rfl, hsends.1 (.inl hattempted), hsends.2 (.inl (himp hconn))⟩

theorem step (h : Tracks steps locals) {wire : StreamWire} {step : StreamStep}
    (hframed : step.Framed wire) : Tracks (steps ++ [step]) (locals.step step) := by
  cases houtput : step.output with
  | none =>
      cases step with
      | textDelta delta reasoning tokenCount opened frames =>
          simp only [StreamStep.output] at houtput
          split at houtput
          · rename_i hempty
            refine h.silent ?_ ?_ ?_ ?_
            · simp [StreamStep.output, hempty]
            · simp [StreamLocals.step, hempty]
            · simp [StreamLocals.step, hempty]
            · simp [StreamLocals.step, hempty]
          · cases houtput
      | toolCall opened frames => cases houtput
      | usage usage => exact h.silent rfl rfl rfl rfl
  | some offer =>
      obtain ⟨opened, frames⟩ := offer
      have hframes := hframed.ne_nil houtput
      cases step with
      | textDelta delta reasoning tokenCount opened' frames' =>
          have hsome : ¬ (delta = "" ∧ reasoning.getD "" = "") := by
            intro hempty
            simp [StreamStep.output, hempty] at houtput
          have hboth := houtput
          simp only [StreamStep.output, if_neg hsome, some.injEq, Prod.mk.injEq] at hboth
          obtain ⟨rfl, rfl⟩ := hboth
          simp only [StreamLocals.step, if_neg hsome]
          refine h.deliver houtput hframes ?_ ?_ ?_
          · rfl
          · rfl
          · rfl
      | toolCall opened' frames' =>
          have hboth := houtput
          cases hboth
          exact h.deliver houtput hframes rfl rfl rfl
      | usage usage => cases houtput

/-- A whole stream. -/
theorem run {wire : StreamWire} (rest : List StreamStep) (hframed : ∀ step ∈ rest, step.Framed wire)
    (h : Tracks steps locals) : Tracks (steps ++ rest) (rest.foldl StreamLocals.step locals) := by
  induction rest generalizing steps locals with
  | nil =>
      rw [append_nil]
      exact h
  | cons first rest ih =>
      have hnext := h.step (hframed first (by simp))
      have := ih (fun step hstep => hframed step (mem_cons_of_mem _ hstep)) hnext
      rw [append_assoc, singleton_append] at this
      exact this

end StreamLocals.Tracks

/-! ## What the terminals charge -/

/-- The usage settled for a live stream, by its flags. -/
def chargedUsage (attempt : StreamTry) (delivery : StreamDelivery)
    (report : Option OpenAiUsage) : OpenAiUsage :=
  if delivery.modelOutputSent = true ∨
      attempt.stop = .final ∧ delivery.modelOutputAttempted = false then
    report.getD .zero
  else .zero

@[simp] theorem ensureOpen_snd (delivery : StreamDelivery) (alreadySent accepted : Bool) :
    (delivery.ensureOpen alreadySent accepted).2 = delivery := by
  cases alreadySent with
  | true => rfl
  | false => simp [StreamDelivery.ensureOpen, StreamDelivery.send]

section Terminals

variable {request : WalkRequest} {env : StreamSurroundings}

/-- One settle call, its last row this stream's. -/
def SettlesStream (state : StreamState) (attempt : StreamTry) (locals : StreamLocals)
    (walked : Walked) : Prop :=
  ∃ call row, walked.settles = [call] ∧ call.attempts = state.attempts.rows ++ [row] ∧
    row.served = locals.delivery.modelOutputSent ∧
    call.usage = chargedUsage attempt locals.delivery locals.usage

theorem settledUsage_eq (attempt : StreamTry) (hstop : attempt.stop ≠ .final)
    (delivery : StreamDelivery) (report : Option OpenAiUsage) :
    delivery.settledUsage report = chargedUsage attempt delivery report := by
  unfold StreamDelivery.settledUsage chargedUsage
  simp [hstop]

variable (request env) in
/-- A live stream either ends the walk, settled by its flags, or broke with its client
    still there and nothing delivered. -/
theorem streamCandidate_settles (session : UsageSession) (state : StreamState)
    (hsession : state.usageSession = some session)
    (hconnected : state.clientConnected = true) (hdelivery : state.delivery = .none)
    (position : Nat) (candidate : ProviderCandidate) (attemptNo : Nat) (attempt : StreamTry) :
    Loop.Ends
      (SettlesStream state attempt (attempt.steps.foldl StreamLocals.step .fresh))
      (fun after =>
        (attempt.steps.foldl StreamLocals.step .fresh).delivery.modelOutputSent = false ∧
        (attempt.steps.foldl StreamLocals.step .fresh).clientConnected = true ∧
        after.clientConnected = true ∧
        after.delivery = (attempt.steps.foldl StreamLocals.step .fresh).delivery)
      (streamCandidate request env state position candidate attemptNo attempt) := by
  have hlocals : ({ clientConnected := state.clientConnected, delivery := state.delivery
                    roleSent := false, usage := none, estimatedOutput := 0 } : StreamLocals) =
      .fresh := by
    rw [hconnected, hdelivery]
    rfl
  have broken : ∀ (locals : StreamLocals) err, attempt.stop ≠ .final →
      Loop.Ends (SettlesStream state attempt locals)
        (fun after => locals.delivery.modelOutputSent = false ∧ locals.clientConnected = true ∧
          after.clientConnected = true ∧ after.delivery = locals.delivery)
        (breakStream request env state position candidate locals err attemptNo attempt) := by
    intro locals err hstop
    unfold breakStream
    dsimp only
    split
    · refine ⟨_, _, settleTaken_some hsession _, rfl, rfl, ?_⟩
      exact settledUsage_eq attempt hstop locals.delivery locals.usage
    · rename_i hgoes
      have hgoes : locals.delivery.modelOutputSent = false ∧ locals.clientConnected = true ∧
          attempt.closed = false := by simpa using hgoes
      refine ⟨hgoes.1, hgoes.2.1, ?_, rfl⟩
      show (locals.clientConnected && !attempt.closed) = true
      rw [hgoes.2.1, hgoes.2.2]
      rfl
  unfold streamCandidate
  dsimp only
  rw [hlocals]
  generalize attempt.steps.foldl StreamLocals.step .fresh = locals
  cases hstop : attempt.stop with
  | timeout | shutdown =>
      have hnot : attempt.stop ≠ .final := by
        rw [hstop]
        nofun
      refine ⟨_, _, settleTaken_some hsession _, rfl, rfl, ?_⟩
      exact settledUsage_eq attempt hnot locals.delivery locals.usage
  | final =>
      rw [ensureOpen_snd, ite_self]
      unfold finishSuccessfulStream
      dsimp only
      cases husage : locals.usage with
      | none =>
          refine ⟨_, _, settleTaken_some hsession _, rfl, rfl, ?_⟩
          simp [chargedUsage, StreamDelivery.settledUsage, streamCall, husage]
      | some usage =>
          refine ⟨_, _, settleTaken_some hsession _, rfl, rfl, ?_⟩
          simp only [streamCall, chargedUsage, husage, hstop, getD_some,
            StreamDelivery.abandonedByClient]
          by_cases hattempted : locals.delivery.modelOutputAttempted = true
          · by_cases hsent : locals.delivery.modelOutputSent = true
            · simp [hattempted, hsent]
            · simp [hattempted, hsent]
          · simp [hattempted]
  | ended =>
      refine broken locals none ?_
      rw [hstop]
      nofun
  | failed err =>
      refine broken locals (some err) ?_
      rw [hstop]
      nofun

end Terminals

/-! ## A whole walk -/

/-- The settled row of a walk that called the candidate of `attempt` bills what reached
    the client: nothing of output that did not, and the upstream's report of output that
    did. -/
structure ChargedAsDelivered (attempt : StreamTry) (walked : Walked) : Prop where
  undelivered : Produced attempt.steps → ¬ Accepted attempt.steps →
    ∃ call, walked.settles = [call] ∧ call.usage = .zero ∧
      (∀ record, call.record = some record → record.costUsd = 0) ∧
      ∀ row ∈ call.attempts, row.served = false
  delivered : Accepted attempt.steps →
    ∃ call, walked.settles = [call] ∧ call.usage = (reported attempt.steps).getD .zero

/-- The client refuses the opening frame of a stream whose upstream then runs to its
    terminal event, having reported usage. -/
structure StreamTry.FinishesUnopened (attempt : StreamTry) : Prop where
  final : attempt.stop = .final
  refused : ∃ frames, firstOutput attempt.steps = some (false, frames)
  metered : (reported attempt.steps).isSome = true

theorem record_cost_zero {call : SettleCall} (husage : call.usage = .zero) {record : UsageRecord}
    (h : call.record = some record) : record.costUsd = 0 := by
  unfold SettleCall.record at h
  rw [husage] at h
  obtain ⟨catalogCost, hcatalog, h⟩ := bind_eq_some_iff.mp h
  obtain ⟨cost, hcost, h⟩ := bind_eq_some_iff.mp h
  cases h
  rw [usageCost_zero hcatalog] at hcost
  rw [show cost = _ from applyFee_eq_some hcost, zero_mul]

/-- A report is never all zero. -/
theorem reported_ne_zero {steps : List StreamStep} {usage : OpenAiUsage}
    (h : reported steps = some usage) : usage ≠ .zero := by
  have read : ∀ usage (report : OpenAiUsage),
      OpenAiUsage.tryFromProvider usage = some report → report ≠ .zero := by
    intro usage report hread hzero
    unfold OpenAiUsage.tryFromProvider at hread
    obtain ⟨tokens, -, hsecond⟩ := bind_eq_some_iff.mp hread
    obtain ⟨input, -, hthird⟩ := bind_eq_some_iff.mp hsecond
    obtain ⟨output, -, hlast⟩ := bind_eq_some_iff.mp hthird
    split at hlast
    · cases hlast
    · rename_i hsome
      rw [← Option.some.inj hlast] at hzero
      exact hsome ⟨congrArg OpenAiUsage.promptTokens hzero,
        congrArg OpenAiUsage.completionTokens hzero⟩
  have run : ∀ (steps : List StreamStep) (report : Option OpenAiUsage),
      (∀ usage, report = some usage → usage ≠ .zero) →
      ∀ usage, steps.foldl
        (fun report step =>
          match step with
          | .usage usage => OpenAiUsage.tryFromProvider (some usage)
          | _ => report) report = some usage → usage ≠ .zero := by
    intro steps
    induction steps with
    | nil => exact fun _ h => h
    | cons step steps ih =>
        intro report hreport
        refine ih _ ?_
        cases step with
        | textDelta delta reasoning tokenCount opened frames => exact hreport
        | toolCall opened frames => exact hreport
        | usage usage => exact read (some usage)
  exact run steps none (fun _ h => nomatch h) usage h

/-- What the flags of a whole stream say of its frames. -/
theorem tracks_steps {steps : List StreamStep} (framed : ∀ step ∈ steps, step.Framed wire) :
    (steps.foldl StreamLocals.step .fresh).Tracks steps :=
  StreamLocals.Tracks.fresh.run steps framed

/-- A stream that ended the walk is charged as delivered unless it finished unopened. -/
theorem SettlesStream.charged {state : StreamState} {attempt : StreamTry} {walked : Walked}
    (framed : ∀ step ∈ attempt.steps, step.Framed wire)
    (hunserved : ∀ row ∈ state.attempts.rows, row.served = false)
    (h : SettlesStream state attempt (attempt.steps.foldl StreamLocals.step .fresh) walked) :
    ChargedAsDelivered attempt walked ↔ ¬ attempt.FinishesUnopened := by
  have htracks := tracks_steps framed
  have hsent := modelOutputSent_iff attempt.steps
  obtain ⟨call, row, hsettles, hrows, hserved, husage⟩ := h
  rw [steps_usage] at husage
  generalize attempt.steps.foldl StreamLocals.step .fresh = locals at htracks hsent hserved husage
  constructor
  · rintro charged ⟨hfinal, ⟨frames, hrefused⟩, hmetered⟩
    obtain ⟨-, hnone⟩ := htracks.refused frames hrefused
    have hnot : ¬ Accepted attempt.steps := by
      rw [← hsent, hnone]
      decide
    have hproduced : Produced attempt.steps := by
      rw [produced_iff, hrefused]
      rfl
    obtain ⟨call', hsettles', hzero, -⟩ := charged.undelivered hproduced hnot
    obtain rfl := singleton_inj.mp (hsettles.symm.trans hsettles')
    obtain ⟨report, hreport⟩ := isSome_iff_exists.mp hmetered
    refine reported_ne_zero hreport ?_
    rw [← hzero, husage, hreport, hnone, chargedUsage, if_pos (.inr ⟨hfinal, rfl⟩), getD_some]
  · intro hopened
    refine ⟨fun hproduced hnot => ⟨call, hsettles, ?_⟩, fun haccepted => ⟨call, hsettles, ?_⟩⟩
    · have hunsent : locals.delivery.modelOutputSent = false :=
        Bool.eq_false_iff.mpr fun h => hnot (hsent.mp h)
      have hzero : call.usage = .zero := by
        rw [husage, chargedUsage]
        split
        · rename_i hbilled
          rcases hbilled with hbilled | ⟨hfinal, hattempted⟩
          · rw [hunsent] at hbilled
            cases hbilled
          · rw [produced_iff] at hproduced
            obtain ⟨⟨opened, frames⟩, hfirst⟩ := isSome_iff_exists.mp hproduced
            cases opened with
            | true =>
                rw [(htracks.opened frames hfirst).2.1] at hattempted
                cases hattempted
            | false =>
                cases hreport : reported attempt.steps with
                | none => rfl
                | some report => exact absurd ⟨hfinal, ⟨frames, hfirst⟩, by rw [hreport]; rfl⟩ hopened
        · rfl
      refine ⟨hzero, fun record hrecord => record_cost_zero hzero hrecord, ?_⟩
      intro found hfound
      rw [hrows] at hfound
      rcases mem_append.mp hfound with hfound | hfound
      · exact hunserved found hfound
      · rw [mem_singleton.mp hfound, hserved, hunsent]
    · rw [husage, chargedUsage, if_pos (.inl (hsent.mpr haccepted))]

/-- A stream the walk moved on from delivered nothing and produced nothing. -/
theorem moved_on {attempt : StreamTry} (framed : ∀ step ∈ attempt.steps, step.Framed wire)
    (hunsent : (attempt.steps.foldl StreamLocals.step .fresh).delivery.modelOutputSent = false)
    (hconnected : (attempt.steps.foldl StreamLocals.step .fresh).clientConnected = true) :
    firstOutput attempt.steps = none ∧ ¬ Accepted attempt.steps ∧
      (attempt.steps.foldl StreamLocals.step .fresh).delivery = .none := by
  have htracks := tracks_steps framed
  have hnone : firstOutput attempt.steps = none := by
    cases hfirst : firstOutput attempt.steps with
    | none => rfl
    | some first =>
        obtain ⟨opened, frames⟩ := first
        cases opened with
        | true =>
            have hsent := (htracks.opened frames hfirst).2.2 hconnected
            rw [hunsent] at hsent
            cases hsent
        | false =>
            have hgone := (htracks.refused frames hfirst).1
            rw [hconnected] at hgone
            cases hgone
  refine ⟨hnone, ?_, (htracks.unproduced hnone).2.2⟩
  rw [← modelOutputSent_iff, hunsent]
  decide

section Walk

variable {request : WalkRequest} {env : StreamSurroundings} {health : ProviderHealth}
  {state : StreamState} {position : Nat} {candidate : ProviderCandidate}

/-- A walk that has put nothing to its client yet. -/
structure StreamState.Silent (state : StreamState) : Prop where
  connected : state.clientConnected = true
  delivery : state.delivery = .none

/-- The visit of a ready streaming candidate is its stream. -/
theorem visitStreaming_streams (hstreams : candidate.supportsStreaming = true)
    (hpolicy : policySkips state.byokFallbackArmed candidate = false)
    (hready : state.Ready request env position candidate) :
    visitStreaming request env position candidate state =
      streamCandidate request env
        { (state.meet (env.arrival position).observed).meet (env.attempt position).observed with
          lastCandidate := some candidate.definition }
        position candidate (state.attempts.rows.length + 1) (env.attempt position) := by
  have hhealthy := hready.healthy
  unfold StreamState.demotes at hhealthy
  have htime := ((Bool.and_eq_true _ _).mp hready.starts).1
  unfold visitStreaming
  dsimp only
  rw [StreamState.meet_armed, StreamState.meet_health, StreamState.meet_lastCandidate, hpolicy,
    hready.connected, hhealthy, if_neg Bool.false_ne_true, if_neg Bool.false_ne_true,
    if_neg Bool.false_ne_true, if_pos hstreams]
  cases htime' : remainingUpstreamTime env.started (env.attempt position).start with
  | none =>
      rw [htime'] at htime
      cases htime
  | some remaining => rfl

theorem bufferCandidate_silent {after : StreamState} (h : state.Silent) {attemptNo : Nat}
    {attempt : StreamTry}
    (hgoes : bufferCandidate request env state position candidate attemptNo attempt = .ok after) :
    after.Silent := by
  unfold bufferCandidate at hgoes
  dsimp only at hgoes
  cases hcall : attempt.call with
  | shutdown started =>
      rw [hcall] at hgoes
      cases started <;> cases hgoes
  | elapsed =>
      rw [hcall] at hgoes
      cases hgoes
  | answered response =>
      rw [hcall] at hgoes
      cases hgoes
  | failed err =>
      rw [hcall] at hgoes
      cases hgoes
      exact ⟨h.connected, h.delivery⟩

variable {wire : StreamWire}
  (framed : ∀ position, ∀ step ∈ (env.attempt position).steps, step.Framed wire)
include framed

/-- A walk that goes on has put nothing to its client. -/
theorem visitStreaming_silent (position : Nat) (candidate : ProviderCandidate) (h : state.Silent)
    {bound : Nat} (holds : state.Holds request bound) :
    Loop.Ends (fun _ => True) StreamState.Silent
      (visitStreaming request env position candidate state) := by
  unfold visitStreaming
  dsimp only
  split
  · exact ⟨h.connected, h.delivery⟩
  · split
    · trivial
    · split
      · exact ⟨h.connected, h.delivery⟩
      · cases remainingUpstreamTime env.started (env.attempt position).start with
        | none => trivial
        | some remaining =>
            dsimp only
            split
            · refine (streamCandidate_settles request env request.session _ ?_ ?_ ?_ position candidate _
                (env.attempt position)).imp (fun _ _ => trivial) ?_
              · exact holds.session
              · exact h.connected
              · exact h.delivery
              · rintro after ⟨hunsent, hconnected, hafter, hdelivery⟩
                refine ⟨hafter, ?_⟩
                rw [hdelivery]
                exact (moved_on (framed position) hunsent hconnected).2.2
            · cases hbuffer : bufferCandidate request env
                ((state.meet (env.arrival position).observed).meet (env.attempt position).observed)
                position candidate ((state.meet (env.arrival position).observed).attempts.rows.length + 1)
                (env.attempt position) with
              | error walked => trivial
              | ok after =>
                  have hmet : StreamState.Silent
                      ((state.meet (env.arrival position).observed).meet
                        (env.attempt position).observed) := ⟨h.connected, h.delivery⟩
                  exact bufferCandidate_silent hmet hbuffer

theorem streamTo_silent (h : streamTo request env health position = .ok state) : state.Silent := by
  have run := Loop.enumerate_ends (visitStreaming request env) (fun _ => True)
    (fun position (state : StreamState) => state.Remembers request position ∧ state.Silent)
    (request.candidates.take position) ?_
    (show (StreamState.start request health).Remembers request 0 ∧
      (StreamState.start request health).Silent from ⟨⟨⟨rfl, .new health⟩, .nil⟩, rfl, rfl⟩)
  · rw [show Loop.enumerate (visitStreaming request env) 0 (request.candidates.take position)
      (StreamState.start request health) = .ok state from h] at run
    exact run.2
  · rintro index candidate state hcandidate ⟨hremembers, hsilent⟩
    rw [getElem?_take] at hcandidate
    split at hcandidate
    · have hnext := visitStreaming_remembers env hcandidate hremembers
      have hquiet := visitStreaming_silent framed index candidate hsilent hremembers.holds
      cases hvisit : visitStreaming request env index candidate state with
      | error walked => trivial
      | ok after =>
          rw [hvisit] at hnext hquiet
          exact ⟨hnext, hquiet⟩
    · cases hcandidate

/-- A walk that comes to a streaming candidate and calls it charges that stream as it was
    delivered, unless it finished unopened. -/
theorem streamed_charged_iff (hcandidate : request.candidates[position]? = some candidate)
    (hstreams : candidate.supportsStreaming = true)
    (harrives : streamTo request env health position = .ok state)
    (hpolicy : policySkips state.byokFallbackArmed candidate = false)
    (hready : state.Ready request env position candidate) :
    ChargedAsDelivered (env.attempt position) (streamToChannel request env health) ↔
      ¬ (env.attempt position).FinishesUnopened := by
  have hlen := (List.getElem?_eq_some_iff.mp hcandidate).1
  have hsilent := streamTo_silent framed harrives
  have hremembers := streamTo_remembers harrives (Nat.le_of_lt hlen)
  have hnext : streamTo request env health (position + 1) =
      visitStreaming request env position candidate state :=
    enumerate_take_succ hcandidate harrives
  have hvisit := visitStreaming_streams hstreams hpolicy hready
  have hsettles := streamCandidate_settles request env request.session
    { (state.meet (env.arrival position).observed).meet (env.attempt position).observed with
      lastCandidate := some candidate.definition }
    hremembers.holds.session hsilent.connected hsilent.delivery position candidate
    (state.attempts.rows.length + 1) (env.attempt position)
  rw [← hvisit, ← hnext] at hsettles
  cases hend : streamTo request env health (position + 1) with
  | error walked =>
      rw [hend] at hsettles
      have hfinal : streamToChannel request env health = walked := by
        have hfinishes : Finishes (visitStreaming request env) StreamState.dispatches
            request.candidates (StreamState.start request health)
            (streamToChannel request env health) := streamToChannel_finishes
        unfold Finishes at hfinishes
        rw [← List.take_append_drop (position + 1) request.candidates, Loop.enumerate_append,
          show Loop.enumerate (visitStreaming request env) 0
            (request.candidates.take (position + 1)) (StreamState.start request health) =
              .error walked from hend] at hfinishes
        exact hfinishes
      rw [hfinal]
      exact SettlesStream.charged (framed position) hremembers.holds.ledger.unserved hsettles
  | ok after =>
      rw [hend] at hsettles
      obtain ⟨hunsent, hconnected, -, -⟩ := hsettles
      obtain ⟨hnone, hnot, -⟩ := moved_on (framed position) hunsent hconnected
      constructor
      · rintro - ⟨-, ⟨frames, hrefused⟩, -⟩
        rw [hnone] at hrefused
        cases hrefused
      · intro _
        refine ⟨fun hproduced => ?_, fun haccepted => absurd haccepted hnot⟩
        rw [produced_iff, hnone] at hproduced
        cases hproduced

end Walk

/-- Every live stream a walk calls is charged as it was delivered, exactly when no call
    made is of a stream that runs to its terminal event, usage reported, after its client
    refused the opening frame. -/
theorem charged_as_delivered_iff (request : WalkRequest) (health : ProviderHealth)
    (env : StreamSurroundings) (wire : StreamWire)
    (framed : ∀ position, ∀ step ∈ (env.attempt position).steps, step.Framed wire) :
    (∀ position candidate, request.candidates[position]? = some candidate →
      candidate.supportsStreaming = true →
      dispatchedAt (streamToChannel request env health).dispatches position →
        ChargedAsDelivered (env.attempt position) (streamToChannel request env health)) ↔
    ∀ position candidate state, request.candidates[position]? = some candidate →
      candidate.supportsStreaming = true → streamTo request env health position = .ok state →
      policySkips state.byokFallbackArmed candidate = false →
      state.Ready request env position candidate →
        ¬ (env.attempt position).FinishesUnopened := by
  have arrives : ∀ {position candidate}, request.candidates[position]? = some candidate →
      (dispatchedAt (streamToChannel request env health).dispatches position ↔
        ∃ state, streamTo request env health position = .ok state ∧
          policySkips state.byokFallbackArmed candidate = false ∧
          state.Ready request env position candidate) := by
    intro position candidate hcandidate
    have hlen := Nat.le_of_lt (List.getElem?_eq_some_iff.mp hcandidate).1
    rw [visitStreaming_records.dispatchedAt_iff rfl streamToChannel_finishes hcandidate]
    refine exists_congr fun state => and_congr_right fun hstate => ?_
    exact visitStreaming_callsThere_iff (streamTo_remembers hstate hlen).calls.not_dispatchedAt
  constructor
  · intro charged position candidate state hcandidate hstreams hstate hpolicy hready
    refine (streamed_charged_iff framed hcandidate hstreams hstate hpolicy hready).mp ?_
    exact charged position candidate hcandidate hstreams
      ((arrives hcandidate).mpr ⟨state, hstate, hpolicy, hready⟩)
  · intro opened position candidate hcandidate hstreams hcalled
    obtain ⟨state, hstate, hpolicy, hready⟩ := (arrives hcandidate).mp hcalled
    refine (streamed_charged_iff framed hcandidate hstreams hstate hpolicy hready).mpr ?_
    exact opened position candidate state hcandidate hstreams hstate hpolicy hready

/-! ## A client gone before the opening frame -/

namespace GoneClient

/-- The model says one word and reports its usage; `opened` is whether the client's
    channel still takes the opening frame. -/
def streamEnv (opened : Bool) : StreamSurroundings where
  started := DemotedTwin.start
  arrival := DemotedTwin.arrival
  attempt _ :=
    { start := DemotedTwin.start, call := .elapsed
      steps :=
        [.textDelta "hello" none 1 opened [true], .usage ⟨some 10, some 5, none, none⟩]
      stop := .final, opened := false, observed := [], finish := DemotedTwin.start
      closed := !opened }
  persists _ := true

theorem framed (opened : Bool) (position : Nat) :
    ∀ step ∈ ((streamEnv opened).attempt position).steps, step.Framed .chatCompletions := by
  intro step hstep
  rcases mem_pair.mp hstep with rfl | rfl
  · rfl
  · trivial

end GoneClient

/-- A stream whose client stays is charged as it was delivered. -/
theorem stayingClient_charged :
    ChargedAsDelivered ((GoneClient.streamEnv true).attempt 0)
      (streamToChannel DemotedTwin.request (GoneClient.streamEnv true) .empty) := by
  refine (charged_as_delivered_iff DemotedTwin.request .empty (GoneClient.streamEnv true)
    .chatCompletions (GoneClient.framed true)).mpr ?_ 0 _ rfl rfl (by decide +kernel)
  rintro position candidate state - - - - - ⟨-, ⟨frames, hrefused⟩, -⟩
  cases hrefused

/-- A client that refuses the opening frame receives nothing and is charged the whole
    report. -/
theorem goneClient_charged :
    (∀ position, ∀ step ∈ ((GoneClient.streamEnv false).attempt position).steps,
      step.Framed .chatCompletions) ∧
    dispatchedAt
      (streamToChannel DemotedTwin.request (GoneClient.streamEnv false) .empty).dispatches 0 ∧
    ¬ ChargedAsDelivered ((GoneClient.streamEnv false).attempt 0)
      (streamToChannel DemotedTwin.request (GoneClient.streamEnv false) .empty) := by
  refine ⟨GoneClient.framed false, by decide +kernel, ?_⟩
  intro charged
  have hproduced : Produced ((GoneClient.streamEnv false).attempt 0).steps :=
    ⟨_, List.mem_cons_self, rfl⟩
  obtain ⟨call, hsettles, hzero, -⟩ := charged.undelivered hproduced (by decide +kernel)
  have hbilled :
      (streamToChannel DemotedTwin.request (GoneClient.streamEnv false) .empty).settles.map
        (·.usage.promptTokens) = [10] := by
    decide +kernel
  rw [hsettles, List.map_singleton, hzero] at hbilled
  exact absurd hbilled (by decide)

end ZeroRouter
