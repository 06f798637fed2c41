import ZeroRouter.Proofs.Checkout

/-!
# What an event's own metadata can claim

The first layer of the webhook prices the credit an event claims on the rail it claims
and wants the money collected.  A rail never sells two credits in whole cents at one
gross, but the two rails sell at the same grosses: nearly every session can be read as
the sale of another credit on the other rail.
-/

namespace ZeroRouter

open Option List Relational

variable {creditCents grossCents : ℤ} {form : Form}

/-! ## The two schedules -/

theorem Rail.feeCents_card (creditCents : ℤ) :
    Rail.card.feeCents creditCents = max ((11 * creditCents + 199) / 200) 80 := by
  have ceiled : ⌈Rail.card.feeRate * creditCents⌉ = (11 * creditCents + 199) / 200 := by
    have low : 200 * ((11 * creditCents + 199) / 200) < 11 * creditCents + 200 := by omega
    have high : 11 * creditCents ≤ 200 * ((11 * creditCents + 199) / 200) := by omega
    generalize (11 * creditCents + 199) / 200 = fee at low high
    have low' : (200 : Decimal) * fee < 11 * creditCents + 200 := by exact_mod_cast low
    have high' : (11 : Decimal) * creditCents ≤ 200 * fee := by exact_mod_cast high
    rw [Int.ceil_eq_iff]
    constructor <;> norm_num [feeRate, depositFeeRate] <;> linarith
  rw [feeCents, ceiled]
  rfl

theorem Rail.feeCents_crypto (creditCents : ℤ) :
    Rail.crypto.feeCents creditCents = max ((creditCents + 19) / 20) 0 := by
  have ceiled : ⌈Rail.crypto.feeRate * creditCents⌉ = (creditCents + 19) / 20 := by
    have low : 20 * ((creditCents + 19) / 20) < creditCents + 20 := by omega
    have high : creditCents ≤ 20 * ((creditCents + 19) / 20) := by omega
    generalize (creditCents + 19) / 20 = fee at low high
    have low' : (20 : Decimal) * fee < creditCents + 20 := by exact_mod_cast low
    have high' : (creditCents : Decimal) ≤ 20 * fee := by exact_mod_cast high
    rw [Int.ceil_eq_iff]
    constructor <;> norm_num [feeRate, cryptoFeeRate] <;> linarith
  rw [feeCents, ceiled]
  rfl

/-- The credit in cents a rail sells at a gross.  Each time its fee steps up a cent, a
    schedule passes over a gross. -/
def Rail.creditAt : Rail → ℤ → Option ℤ
  | .card, grossCents =>
      if grossCents ≤ 1534 then some (grossCents - 80)
      else if grossCents % 211 ∈ [1, 20, 39, 58, 77, 96, 116, 135, 154, 173, 192] then none
      else some (200 * grossCents / 211)
  | .crypto, grossCents =>
      if grossCents % 21 = 1 then none else some (20 * grossCents / 21)

/-- The card schedule above its floor repeats every $2.11 of gross. -/
theorem card_residues :
    (∀ s < 200, (s + (11 * s + 199) / 200) % 211 ∉ [1, 20, 39, 58, 77, 96, 116, 135, 154, 173, 192] ∧
      s + (11 * s + 199) / 200 < 211 ∧ 200 * (s + (11 * s + 199) / 200) / 211 = s) ∧
    ∀ r < 211, r ∉ [1, 20, 39, 58, 77, 96, 116, 135, 154, 173, 192] →
      200 * r / 211 + (11 * (200 * r / 211) + 199) / 200 = r := by
  decide +kernel

theorem card_gross :
    creditCents + (11 * creditCents + 199) / 200 = grossCents ↔
      grossCents % 211 ∉ [1, 20, 39, 58, 77, 96, 116, 135, 154, 173, 192] ∧
        creditCents = 200 * grossCents / 211 := by
  obtain ⟨up, down⟩ := card_residues
  constructor
  · intro sold
    obtain ⟨s, hs⟩ : ∃ s : Nat, creditCents % 200 = s := ⟨_, (Int.toNat_of_nonneg (by omega)).symm⟩
    obtain ⟨member, small, back⟩ := up s (by omega)
    rw [Nat.mod_eq_of_lt small] at member
    obtain ⟨fee, hfee⟩ : ∃ fee, fee = (11 * s + 199) / 200 := ⟨_, rfl⟩
    rw [← hfee] at member small back
    have scaled : 200 * fee ≤ 11 * s + 199 ∧ 11 * s < 200 * fee + 1 := by omega
    have inverse : 211 * s ≤ 200 * (s + fee) ∧ 200 * (s + fee) < 211 * s + 211 := by omega
    have stepped : (11 * creditCents + 199) / 200 = 11 * (creditCents / 200) + fee := by omega
    rw [stepped] at sold
    have residue : grossCents % 211 = (s + fee : Nat) := by omega
    refine ⟨?_, by omega⟩
    rw [residue]
    simp only [mem_cons, not_mem_nil, or_false] at member ⊢
    omega
  · rintro ⟨member, rfl⟩
    obtain ⟨r, hr⟩ : ∃ r : Nat, grossCents % 211 = r := ⟨_, (Int.toNat_of_nonneg (by omega)).symm⟩
    have whole := down r (by omega) (by
      rw [hr] at member
      simp only [mem_cons, not_mem_nil, or_false] at member ⊢
      omega)
    obtain ⟨s, hs⟩ : ∃ s, s = 200 * r / 211 := ⟨_, rfl⟩
    obtain ⟨fee, hfee⟩ : ∃ fee, fee = (11 * s + 199) / 200 := ⟨_, rfl⟩
    rw [← hs, ← hfee] at whole
    have credit : 200 * grossCents / 211 = 200 * (grossCents / 211) + s := by omega
    have scaled : 200 * fee ≤ 11 * s + 199 ∧ 11 * s < 200 * fee + 1 := by omega
    rw [credit]
    omega

theorem Rail.creditAt_eq_some (rail : Rail) (positive : 0 < creditCents) :
    rail.creditAt grossCents = some creditCents ↔
      creditCents + rail.feeCents creditCents = grossCents := by
  cases rail with
  | card =>
      rw [feeCents_card]
      show (if grossCents ≤ 1534 then _ else _) = _ ↔ _
      by_cases floored : grossCents ≤ 1534
      · rw [if_pos floored, some.injEq]
        omega
      · -- past the floor, and at 1535 nothing is sold
        have above : creditCents + max ((11 * creditCents + 199) / 200) 80 = grossCents ↔
            creditCents + (11 * creditCents + 199) / 200 = grossCents := by
          by_cases gap : grossCents = 1535 <;> omega
        rw [if_neg floored, above, card_gross]
        split
        · next skipped => simp [skipped]
        · next sold =>
            rw [some.injEq]
            exact ⟨fun h => ⟨sold, h.symm⟩, fun h => h.2.symm⟩
  | crypto =>
      rw [feeCents_crypto]
      show (if grossCents % 21 = 1 then _ else _) = _ ↔ _
      by_cases skipped : grossCents % 21 = 1
      · rw [if_pos skipped]
        simp only [reduceCtorEq, false_iff]
        omega
      · rw [if_neg skipped, some.injEq]
        by_cases whole : grossCents % 21 = 0
        · omega
        · have credit : 20 * grossCents / 21 = 20 * (grossCents / 21) + grossCents % 21 - 1 := by
            omega
          rw [credit]
          omega

/-! ## The rewritten event -/

/-- The event of a paid session whose metadata was rewritten to another credit, and to
    another rail or none. -/
structure Value.Rewritten (object : Value) (form : Form) (sessionId creditRaw : String)
    (railRaw : Option String) : Prop where
  id : object.str "id" = some sessionId
  paid : object.str "payment_status" = some "paid"
  currency : object.str "currency" = some "usd"
  metadata : ∀ name, (object.get "metadata").bind (·.str name) =
    if name = "credit_usd" then some creditRaw
    else if name = "rail" then railRaw
    else form.lookup s!"metadata[{name}]"
  total : ∃ tax, reportedTax object = some tax ∧
    (object.get "amount_total").bind Value.asI64 = some ((lineItems form).sum + tax)

/-- The first layer takes the event. -/
def Corroborates (parser : MetadataParser) (object : Value) : Prop :=
  ∃ paid, corroborateEvent parser object = .ok (some paid)

/-- What the webhook asks for: a quote of the claimed credit, in cents. -/
def claimedGross (creditUsd : Decimal) (claimed : Rail) : Option Int :=
  (depositFeeQuote creditUsd claimed).bind fun quote => (usdToCents quote.grossUsd).join

section Rewritten

variable {parser : MetadataParser} {text : MetadataText} {params : CheckoutSessionParams}
  {form : Form} {object : Value} {sessionId creditRaw : String} {railRaw : Option String}
  {creditUsd : Decimal} {claimed : Rail} {grossCents : Int}

/-- The first layer takes a rewritten event exactly when the claim prices at the gross
    collected. -/
theorem corroborates_rewritten (quoted : params.Quoted) (reads : text.ReadBy parser)
    (built : checkoutSessionForm text params = some form)
    (rewritten : object.Rewritten form sessionId creditRaw railRaw)
    (credit : parser.decimal creditRaw = some creditUsd)
    (rail : railRaw.elim (some .card) Rail.parse = some claimed) :
    Corroborates parser object ↔
      0 < creditUsd ∧ claimedGross creditUsd claimed = some params.grossCents := by
  have sells := quoted.sells built
  obtain ⟨taxCents, reported, total⟩ := rewritten.total
  have lines : (lineItems form).sum = params.grossCents := by
    rw [sells.lines, quoted.split]
    simp
  rw [lines] at total
  obtain ⟨-, low, high⟩ := usdToCents_eq_some.mp quoted.gross
  have collected : collectedExTaxCents object (params.grossCents + taxCents) =
      some { exTaxCents := params.grossCents, taxCents } := by
    have difference : params.grossCents + taxCents - taxCents = params.grossCents := by omega
    simp only [collectedExTaxCents, reported, checkedSub, difference, if_pos (And.intro low high),
      bind_eq_bind, bind_some]
    rfl
  have user : (object.get "metadata").bind (·.str "user_id") = some (text.uuid params.userId) :=
    (rewritten.metadata "user_id").trans sells.userId
  have readUser : ((object.get "metadata").bind (·.str "user_id")).bind parser.uuid =
      some params.userId := by
    rw [user, bind_some, reads.uuid]
  have readCredit : ((object.get "metadata").bind (·.str "credit_usd")).bind parser.decimal =
      some creditUsd := by
    rw [rewritten.metadata "credit_usd", if_pos rfl, bind_some, credit]
  have readRail : claimedRail (object.get "metadata") = .ok claimed := by
    unfold claimedRail
    rw [rewritten.metadata "rail", if_neg (by decide), if_pos rfl]
    cases railRaw with
    | none =>
        cases rail
        rfl
    | some raw => exact require_eq_ok.mpr rail
  have usd : (object.str "currency").map toAsciiLowercase = some "usd" := by
    rw [rewritten.currency]
    rfl
  unfold Corroborates corroborateEvent claimedGross
  rw [if_neg (not_not.mpr rewritten.paid)]
  simp only [bind_eq_ok, require_eq_ok, ensure_eq_ok]
  constructor
  · rintro ⟨paid, sessionId', -, userId', -, creditUsd', hcredit, -, positive, total', htotal,
      currency, -, collected', hcollected, claimed', hclaimed, quote, hquote, gross, hgross, cents,
      rfl, -, ⟨agree, -⟩, -⟩
    obtain rfl := Option.some.inj (readCredit.symm.trans hcredit)
    obtain rfl := Option.some.inj (total.symm.trans htotal)
    obtain rfl := Option.some.inj (collected.symm.trans hcollected)
    rw [readRail] at hclaimed
    cases hclaimed
    refine ⟨positive, ?_⟩
    rw [hquote, bind_some, hgross, agree]
    rfl
  · rintro ⟨positive, sold⟩
    obtain ⟨quote, hquote, sold⟩ := bind_eq_some_iff.mp sold
    have hgross := join_eq_some_iff.mp sold
    exact ⟨_, sessionId, rewritten.id, params.userId, readUser, creditUsd, readCredit, (), positive,
      _, total, "usd", usd, _, collected, claimed, readRail, quote, hquote, _, hgross, _, rfl, (),
      ⟨rfl, rfl⟩, rfl⟩

/-- The fee of a quote, before it is added to the credit. -/
def Rail.claimedFee (rail : Rail) (creditUsd : Decimal) : Option Decimal :=
  (decimalMul rail.feeRate creditUsd).map fun percentage =>
    max (ceilToCent percentage) (rail.feeFloorCents / 100)

/-- A claim that prices at the gross of a session although it is another sale: the credit
    in cents that the other rail sells at that gross, or one that is not an `i64` of cents
    and is rounded into it with its fee. -/
def Collides (rail : Rail) (grossCents : Int) (creditUsd : Decimal) (claimed : Rail) : Prop :=
  match (usdToCents creditUsd).join with
  | some creditCents =>
      0 < creditCents ∧ claimed ≠ rail ∧ claimed.creditAt grossCents = some creditCents
  | none =>
      0 < creditUsd ∧ ∃ feeUsd ∈ claimed.claimedFee creditUsd,
        fitDecimal (creditUsd + feeUsd) = some (grossCents / 100 : Decimal)

theorem claimedGross_eq_some (low : i64Min ≤ grossCents) (high : grossCents ≤ i64Max) :
    claimedGross creditUsd claimed = some grossCents ↔
      ∃ feeUsd ∈ claimed.claimedFee creditUsd,
        fitDecimal (creditUsd + feeUsd) = some (grossCents / 100 : Decimal) := by
  have quote : depositFeeQuote creditUsd claimed =
      (claimed.claimedFee creditUsd).bind fun feeUsd =>
        (decimalAdd creditUsd feeUsd).map fun grossUsd => { creditUsd, feeUsd, grossUsd } := by
    unfold depositFeeQuote Rail.claimedFee
    cases claimed with
    | card =>
        have floor : depositFeeFloorUsd = ((80 : ℤ) : Decimal) / 100 := by
          norm_num [depositFeeFloorUsd]
        simp only [Rail.feeRate, Rail.feeFloorCents, floor]
        cases decimalMul depositFeeRate creditUsd with
        | none => rfl
        | some percentage => simp [map_eq_bind]
    | crypto =>
        simp only [Rail.feeRate, Rail.feeFloorCents, Int.cast_zero, zero_div]
        cases decimalMul cryptoFeeRate creditUsd with
        | none => rfl
        | some percentage => simp [map_eq_bind]
  have sold : ∀ grossUsd : Decimal, (usdToCents grossUsd).join = some grossCents ↔
      grossUsd = grossCents / 100 := by
    intro grossUsd
    rw [join_eq_some_iff, usdToCents_eq_some, eq_div_iff (by norm_num)]
    exact ⟨fun h => h.1, fun h => ⟨h, low, high⟩⟩
  unfold claimedGross
  rw [quote]
  simp only [bind_eq_some_iff, map_eq_some_iff, decimalAdd, mem_def]
  constructor
  · rintro ⟨_, ⟨feeUsd, fee, grossUsd, added, rfl⟩, cents⟩
    refine ⟨feeUsd, fee, ?_⟩
    rw [added, (sold grossUsd).mp cents]
  · rintro ⟨feeUsd, fee, added⟩
    exact ⟨_, ⟨feeUsd, fee, _, added, rfl⟩, (sold _).mpr rfl⟩

/-- A claim in whole cents prices at its own gross on the rail it names. -/
theorem claimedGross_cents {creditCents : Int}
    (whole : usdToCents creditUsd = some (some creditCents)) (low : i64Min ≤ grossCents)
    (high : grossCents ≤ i64Max) :
    claimedGross creditUsd claimed = some grossCents ↔
      creditCents + claimed.feeCents creditCents = grossCents := by
  obtain ⟨cents, low', high'⟩ := usdToCents_eq_some.mp whole
  unfold claimedGross
  rw [depositFeeQuote_exact claimed cents low' high', bind_some, join_eq_some_iff,
    usdToCents_eq_some, div_mul_cancel₀ _ (by norm_num)]
  constructor
  · rintro ⟨same, -⟩
    exact_mod_cast same
  · intro same
    exact ⟨by exact_mod_cast same, low, high⟩

/-- The first layer pins the credit and the rail of a session against every rewriting that
    does not collide with what was sold. -/
theorem credit_pinned_iff {request : CheckoutRequest} {settings : StripeSettings}
    {returnUrl : String} (priced : request.price settings returnUrl = .ok params)
    (built : checkoutSessionForm text params = some form) (reads : text.ReadBy parser)
    (rewritten : object.Rewritten form sessionId creditRaw railRaw)
    (credit : parser.decimal creditRaw = some creditUsd)
    (rail : railRaw.elim (some .card) Rail.parse = some claimed) :
    (Corroborates parser object → creditUsd = params.creditUsd ∧ claimed = params.rail) ↔
      ¬ Collides params.rail params.grossCents creditUsd claimed := by
  have quoted := (CheckoutRequest.price_ok priced).1
  obtain ⟨-, low, high⟩ := usdToCents_eq_some.mp quoted.gross
  obtain ⟨sold, -, -⟩ := usdToCents_eq_some.mp quoted.credit
  rw [corroborates_rewritten quoted reads built rewritten credit rail]
  unfold Collides
  cases whole : (usdToCents creditUsd).join with
  | some creditCents =>
      have whole' := Option.join_eq_some_iff.mp whole
      obtain ⟨cents, -, -⟩ := usdToCents_eq_some.mp whole'
      have sign : 0 < creditUsd ↔ 0 < creditCents := by
        have scaled : (0 : Decimal) < creditCents ↔ 0 < creditCents := Int.cast_pos
        rw [← scaled, ← cents]
        constructor <;> intro h <;> linarith
      rw [claimedGross_cents whole' low high, sign]
      dsimp only
      constructor
      · rintro pinned ⟨positive, apart, at'⟩
        exact apart (pinned ⟨positive, (claimed.creditAt_eq_some positive).mp at'⟩).2
      · rintro clear ⟨positive, same⟩
        have onRail : claimed = params.rail := by
          by_contra apart
          exact clear ⟨positive, apart, (claimed.creditAt_eq_some positive).mpr same⟩
        refine ⟨?_, onRail⟩
        have equal : creditCents = params.creditCents := by
          apply params.rail.gross_strictMono.injective
          show creditCents + params.rail.feeCents creditCents =
            params.creditCents + params.rail.feeCents params.creditCents
          rw [← quoted.split, ← same, onRail]
        rw [equal, ← sold] at cents
        linarith
  | none =>
      rw [claimedGross_eq_some low high]
      dsimp only
      constructor
      · intro pinned collides
        have same := (pinned collides).1
        rw [same, quoted.credit] at whole
        cases whole
      · intro clear collides
        exact absurd collides clear

end Rewritten

/-! ## A $5 deposit by card -/

/-- Metadata with its credit and rail rewritten. -/
def rewriteMetadata (metadata : List (String × Value)) (creditRaw : String)
    (railRaw : Option String) : List (String × Value) :=
  ("credit_usd", .string creditRaw) ::
    ((railRaw.toList.map fun raw => ("rail", .string raw)) ++
      metadata.filter fun field => field.1 ≠ "credit_usd" ∧ field.1 ≠ "rail")

/-- The event of a paid session, rewritten, with nothing else in it. -/
def rewrittenObject (form : Form) (sessionId creditRaw : String) (railRaw : Option String) : Value :=
  .object
    [("id", .string sessionId), ("payment_status", .string "paid"), ("currency", .string "usd"),
      ("metadata", .object (rewriteMetadata form.metadata creditRaw railRaw)),
      ("amount_total", .integer (lineItems form).sum)]

theorem lookup_filter {fields : List (String × Value)} {keep : String → Bool} {name : String}
    (kept : keep name = true) :
    (fields.filter fun field => keep field.1).lookup name = fields.lookup name := by
  induction fields with
  | nil => rfl
  | cons field rest ih =>
      obtain ⟨key, value⟩ := field
      by_cases here : name = key
      · subst here
        rw [filter_cons, if_pos kept, lookup_cons_self, lookup_cons_self]
      · have missed : (name == key) = false := by simpa using here
        rw [lookup_cons, missed, filter_cons]
        split
        · rw [lookup_cons, missed]
          exact ih
        · exact ih

theorem rewrittenObject_rewritten {sessionId creditRaw : String} {railRaw : Option String}
    (positive : 0 ≤ (lineItems form).sum) (fits : (lineItems form).sum ≤ i64Max) :
    (rewrittenObject form sessionId creditRaw railRaw).Rewritten form sessionId creditRaw railRaw where
  id := rfl
  paid := rfl
  currency := rfl
  metadata name := by
    show ((rewriteMetadata form.metadata creditRaw railRaw).lookup name).bind Value.asStr = _
    unfold rewriteMetadata
    by_cases credit : name = "credit_usd"
    · rw [if_pos credit, credit]
      rfl
    · have missed : (name == "credit_usd") = false := by simpa using credit
      rw [if_neg credit, lookup_cons, missed]
      by_cases rail : name = "rail"
      · rw [if_pos rail, rail]
        cases railRaw with
        | none =>
            have gone : (form.metadata.filter fun field =>
                field.1 ≠ "credit_usd" ∧ field.1 ≠ "rail").lookup "rail" = none := by
              rw [lookup_eq_none_iff]
              intro field hfield
              simp only [mem_filter, decide_eq_true_eq] at hfield
              simpa using Ne.symm hfield.2.2
            show (List.lookup "rail" (form.metadata.filter _)).bind Value.asStr = none
            rw [gone]
            rfl
        | some raw => rfl
      · have named : ∀ rest : List (String × Value),
            ((railRaw.toList.map fun raw => ("rail", Value.string raw)) ++ rest).lookup name =
              rest.lookup name := by
          intro rest
          have other : (name == "rail") = false := by simpa using rail
          cases railRaw with
          | none => rfl
          | some raw =>
              show List.lookup name (("rail", Value.string raw) :: rest) = _
              rw [lookup_cons, other]
        have kept : (form.metadata.filter fun field =>
            decide (field.1 ≠ "credit_usd" ∧ field.1 ≠ "rail")).lookup name =
              form.metadata.lookup name :=
          @lookup_filter _ (fun key => decide (key ≠ "credit_usd" ∧ key ≠ "rail")) _
            (by simp [credit, rail])
        rw [named, if_neg rail]
        show (List.lookup name _).bind Value.asStr = _
        rw [kept, form.metadata_lookup]
        cases form.lookup s!"metadata[{name}]" <;> rfl
  total := by
    refine ⟨0, rfl, ?_⟩
    show Value.asI64 (.integer _) = _
    have inside : i64Min ≤ (lineItems form).sum := by
      unfold i64Min
      omega
    simp [Value.asI64, inside, fits]

/-- A parser that also reads the claim below. -/
def claimParser : MetadataParser where
  uuid := Portal.plainParser.uuid
  decimal raw := if raw = "5.52" then some (552 / 100) else Portal.plainParser.decimal raw

theorem plainText_ne_claim (amountUsd : Decimal) : Portal.plainText.decimal amountUsd ≠ "5.52" := by
  unfold Portal.plainText
  dsimp only
  split
  · next written found =>
      have apart : ∀ written ∈ Portal.writtenAmounts, written.2 ≠ "5.52" := by decide
      exact apart written (mem_of_find?_eq_some found)
  · intro same
    have head := congrArg (fun text => text.toList.head?) same
    simp only [String.toList_ofList, head?_cons] at head
    exact absurd head (by decide)

theorem plainText_readByClaim : Portal.plainText.ReadBy claimParser where
  uuid := Portal.plainText_readBy.uuid
  decimal amountUsd held := by
    show (if _ then _ else _) = _
    rw [if_neg (plainText_ne_claim amountUsd)]
    exact Portal.plainText_readBy.decimal amountUsd held

def fiveByCard : CheckoutSessionParams where
  userId := 1
  customerEmail := "buyer@example.com"
  creditUsd := 5
  feeUsd := 4 / 5
  grossUsd := 29 / 5
  creditCents := 500
  grossCents := 580
  rail := .card
  cryptoRailLive := true
  returnUrl := "/credits/return"

theorem fiveByCard_priced :
    (Portal.depositOf none).price Portal.fiveToThousand "/credits/return" = .ok fiveByCard := by
  decide +kernel

theorem fiveByCard_event (built : checkoutSessionForm Portal.plainText fiveByCard = some form)
    (creditRaw : String) (railRaw : Option String) :
    (rewrittenObject form "cs_1" creditRaw railRaw).Rewritten form "cs_1" creditRaw railRaw := by
  have quoted := (CheckoutRequest.price_ok fiveByCard_priced).1
  have gross : (lineItems form).sum = 580 := by
    rw [(quoted.sells built).lines, sum_cons, sum_cons, sum_nil, add_zero]
    exact quoted.split.symm
  apply rewrittenObject_rewritten
  · rw [gross]
    decide
  · rw [gross]
    decide

/-- Read as the crypto sale of its own credit, the session is refused. -/
theorem credit_pinned_cheaperRail : ∃ form,
    checkoutSessionForm Portal.plainText fiveByCard = some form ∧
    ((Corroborates claimParser (rewrittenObject form "cs_1" "5" (some "crypto")) →
        (5 : Decimal) = fiveByCard.creditUsd ∧ Rail.crypto = fiveByCard.rail) ↔
      ¬ Collides fiveByCard.rail fiveByCard.grossCents 5 .crypto) := by
  have quoted := (CheckoutRequest.price_ok fiveByCard_priced).1
  obtain ⟨form, built⟩ : ∃ form, checkoutSessionForm Portal.plainText fiveByCard = some form :=
    quoted.form_exists
  exact ⟨form, built, credit_pinned_iff fiveByCard_priced built plainText_readByClaim
    (fiveByCard_event built _ _) (by decide +kernel) rfl⟩

/-- Read as a crypto sale of $5.52, it is taken. -/
theorem credit_not_pinned_otherRail : ∃ form,
    checkoutSessionForm Portal.plainText fiveByCard = some form ∧
    (rewrittenObject form "cs_1" "5.52" (some "crypto")).Rewritten form "cs_1" "5.52"
      (some "crypto") ∧
    claimParser.decimal "5.52" = some (552 / 100) ∧
    Corroborates claimParser (rewrittenObject form "cs_1" "5.52" (some "crypto")) ∧
    ¬ ((552 / 100 : Decimal) = fiveByCard.creditUsd ∧ Rail.crypto = fiveByCard.rail) := by
  have quoted := (CheckoutRequest.price_ok fiveByCard_priced).1
  obtain ⟨form, built⟩ : ∃ form, checkoutSessionForm Portal.plainText fiveByCard = some form :=
    quoted.form_exists
  refine ⟨form, built, fiveByCard_event built _ _, by decide +kernel, ?_, by decide +kernel⟩
  have read : claimParser.decimal "5.52" = some (552 / 100) := by decide +kernel
  rw [corroborates_rewritten quoted plainText_readByClaim built (fiveByCard_event built _ _)
    read (rfl : (some "crypto").elim (some Rail.card) Rail.parse = some .crypto)]
  decide +kernel

end ZeroRouter
