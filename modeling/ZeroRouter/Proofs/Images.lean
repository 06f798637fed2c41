import ZeroRouter.Lib.Cidr
import ZeroRouter.Wire.Anthropic
import ZeroRouter.Wire.ChatCompletions
import ZeroRouter.Wire.Responses
import ZeroRouter.Wire.Message

/-!
# Images a wire forwards

`part_is_supported` judges the URL of an image part and the wires classify it again.  What they
hand to an upstream as a URL is an `https` URL, and an address literal in it is not one of the
operator's network.  The URL parser is a library; the rules of host parsing it follows are the
hypotheses of `HostRules`.
-/

namespace ZeroRouter.Wire

open Option

open Cidr (Subnet Within)

variable {url host : String} {b a c d s address : Nat} {ip : IpAddr} {text : List Char}
  {turn : ChatMessage}

/-! ## Internal addresses -/

def v4Number (a b c d : Nat) : Nat := Cidr.number 256 [a, b, c, d]

def v6Number (segments : Vector Nat 8) : Nat := Cidr.number 65536 segments.toList

/-- Loopback, link-local, private, carrier-grade NAT and unspecified. -/
def internalV4 : List Subnet :=
  [⟨v4Number 127 0 0 0, 24⟩, ⟨v4Number 169 254 0 0, 16⟩, ⟨v4Number 10 0 0 0, 24⟩,
    ⟨v4Number 172 16 0 0, 20⟩, ⟨v4Number 192 168 0 0, 16⟩, ⟨v4Number 100 64 0 0, 22⟩,
    ⟨v4Number 0 0 0 0, 0⟩]

/-- Loopback, unspecified, unique-local and link-local. -/
def internalV6 : List Subnet :=
  [⟨v6Number #v[0, 0, 0, 0, 0, 0, 0, 1], 0⟩, ⟨v6Number #v[0, 0, 0, 0, 0, 0, 0, 0], 0⟩,
    ⟨v6Number #v[0xfc00, 0, 0, 0, 0, 0, 0, 0], 121⟩,
    ⟨v6Number #v[0xfe80, 0, 0, 0, 0, 0, 0, 0], 118⟩]

/-- The subnet of the IPv4 addresses mapped into IPv6. -/
def mappedV4 : Subnet := ⟨v6Number #v[0, 0, 0, 0, 0, 0xffff, 0, 0], 32⟩

namespace IpAddr

/-- Every digit fits. -/
def WellFormed : IpAddr → Prop
  | .v4 a b c d => a < 256 ∧ b < 256 ∧ c < 256 ∧ d < 256
  | .v6 segments => ∀ segment ∈ segments.toList, segment < 65536

/-- An address of the operator's own network, by itself or mapped into IPv6. -/
def Internal : IpAddr → Prop
  | .v4 a b c d => Within internalV4 (v4Number a b c d)
  | .v6 segments =>
      Within internalV6 (v6Number segments) ∨
        mappedV4.Contains (v6Number segments) ∧ Within internalV4 (v6Number segments % 2 ^ 32)

end IpAddr

/-- The mask of `100.64.0.0/10`. -/
theorem cgnat_mask (h : b < 256) : b &&& 0xc0 = 64 ↔ b / 64 = 1 :=
  Cidr.and_mask_eq_iff 8 6 1 h

/-- The leading bits of an address, by its digits. -/
theorem v4Number_bits (hb : b < 256) (hc : c < 256) (hd : d < 256) :
    v4Number a b c d / 2 ^ 24 = a ∧ v4Number a b c d / 2 ^ 22 = a * 4 + b / 64 ∧
      v4Number a b c d / 2 ^ 20 = a * 16 + b / 16 ∧ v4Number a b c d / 2 ^ 16 = a * 256 + b := by
  simp only [v4Number, Cidr.number, List.foldl]
  refine ⟨?_, ?_, ?_, ?_⟩ <;> omega

/-- An address the code calls public is in no internal subnet. -/
theorem ipv4IsPublic_sound (hb : b < 256) (hc : c < 256) (hd : d < 256)
    (judged : ipv4IsPublic a b c d = true) : ¬ Within internalV4 (v4Number a b c d) := by
  obtain ⟨bits24, bits22, bits20, bits16⟩ := v4Number_bits (a := a) hb hc hd
  have whole : v4Number a b c d / 2 ^ 0 = 0 → a = 0 := by
    simp only [v4Number, Cidr.number, List.foldl]
    omega
  simp only [ipv4IsPublic, Bool.not_eq_true', Bool.or_eq_false_iff, Bool.and_eq_false_iff,
    decide_eq_false_iff_not, cgnat_mask hb] at judged
  obtain ⟨⟨⟨⟨⟨⟨⟨⟨⟨ten, oneSevenTwo⟩, oneNineTwo⟩, loopback⟩, linkLocal⟩, -⟩, -⟩, -⟩, zero⟩,
    carrier⟩ := judged
  intro within
  simp only [internalV4, Cidr.within_cons, Cidr.within_nil, or_false, bits24, bits22, bits20,
    bits16] at within
  rcases within with h | h | h | h | h | h | h
  · exact loopback h
  · simp only [v4Number, Cidr.number, List.foldl] at h
    omega
  · exact ten h
  · simp only [v4Number, Cidr.number, List.foldl] at h
    omega
  · simp only [v4Number, Cidr.number, List.foldl] at h
    omega
  · simp only [v4Number, Cidr.number, List.foldl] at h
    omega
  · exact zero (whole h)

theorem uniqueLocal_mask (h : s < 65536) : s &&& 0xfe00 = 0xfc00 ↔ s / 512 = 126 :=
  Cidr.and_mask_eq_iff 16 9 126 h

theorem linkLocal_mask (h : s < 65536) : s &&& 0xffc0 = 0xfe80 ↔ s / 64 = 1018 :=
  Cidr.and_mask_eq_iff 16 6 1018 h

theorem eight_segments (segments : Vector Nat 8) :
    ∃ s₀ s₁ s₂ s₃ s₄ s₅ s₆ s₇, segments.toList = [s₀, s₁, s₂, s₃, s₄, s₅, s₆, s₇] := by
  have length : segments.toList.length = 8 := by simp
  match h : segments.toList, length with
  | [s₀, s₁, s₂, s₃, s₄, s₅, s₆, s₇], _ => exact ⟨s₀, s₁, s₂, s₃, s₄, s₅, s₆, s₇, rfl⟩

/-- The address mapped into the low segments of a mapped one. -/
theorem v4Number_segments (high low : Nat) :
    v4Number (high / 256) (high % 256) (low / 256) (low % 256) = high * 65536 + low := by
  simp only [v4Number, Cidr.number, List.foldl]
  omega

/-- The parts of an address the checks and the subnets read. -/
theorem v6Number_bits {segments : Vector Nat 8} {s₀ s₁ s₂ s₃ s₄ s₅ s₆ s₇ : Nat}
    (spelled : segments.toList = [s₀, s₁, s₂, s₃, s₄, s₅, s₆, s₇])
    (formed : (IpAddr.v6 segments).WellFormed) :
    v6Number segments / 2 ^ 121 = s₀ / 512 ∧ v6Number segments / 2 ^ 118 = s₀ / 64 ∧
      v6Number segments / 2 ^ 32 =
        ((((s₀ * 65536 + s₁) * 65536 + s₂) * 65536 + s₃) * 65536 + s₄) * 65536 + s₅ ∧
      v6Number segments % 2 ^ 32 = s₆ * 65536 + s₇ := by
  simp only [IpAddr.WellFormed, spelled, List.forall_mem_cons] at formed
  obtain ⟨h₀, h₁, h₂, h₃, h₄, h₅, h₆, h₇, -⟩ := formed
  have value : v6Number segments = ((((((s₀ * 65536 + s₁) * 65536 + s₂) * 65536 + s₃) * 65536 +
      s₄) * 65536 + s₅) * 65536 + s₆) * 65536 + s₇ := by
    simp [v6Number, Cidr.number, spelled]
  rw [value]
  refine ⟨?_, ?_, ?_, ?_⟩ <;> omega

theorem within_internalV6 : Within internalV6 address ↔
    address = 1 ∨ address = 0 ∨ address / 2 ^ 121 = 126 ∨ address / 2 ^ 118 = 1018 := by
  have uniqueLocal : v6Number #v[0xfc00, 0, 0, 0, 0, 0, 0, 0] / 2 ^ 121 = 126 := by
    decide +kernel
  have linkLocal : v6Number #v[0xfe80, 0, 0, 0, 0, 0, 0, 0] / 2 ^ 118 = 1018 := by
    decide +kernel
  have loopback : v6Number #v[0, 0, 0, 0, 0, 0, 0, 1] = 1 := by decide +kernel
  have unspecified : v6Number #v[0, 0, 0, 0, 0, 0, 0, 0] = 0 := by decide +kernel
  simp only [internalV6, Cidr.within_cons, Cidr.within_nil, or_false, uniqueLocal, linkLocal,
    loopback, unspecified, Nat.pow_zero, Nat.div_one]

theorem mappedV4_contains :
    mappedV4.Contains address ↔ address / 2 ^ 32 = 0xffff := by
  have base : v6Number #v[0, 0, 0, 0, 0, 0xffff, 0, 0] / 2 ^ 32 = 0xffff := by decide +kernel
  simp only [mappedV4, Subnet.Contains, base]

theorem ipLiteralIsPublic_sound (formed : ip.WellFormed) (judged : ipLiteralIsPublic ip = true) :
    ¬ ip.Internal := by
  cases ip with
  | v4 a b c d =>
      obtain ⟨-, hb, hc, hd⟩ := formed
      exact ipv4IsPublic_sound hb hc hd judged
  | v6 segments =>
      obtain ⟨s₀, s₁, s₂, s₃, s₄, s₅, s₆, s₇, spelled⟩ := eight_segments segments
      obtain ⟨bits121, bits118, bits32, low⟩ := v6Number_bits spelled formed
      simp only [IpAddr.WellFormed, spelled, List.forall_mem_cons] at formed
      obtain ⟨h₀, h₁, h₂, h₃, h₄, h₅, h₆, h₇, -⟩ := formed
      simp only [ipLiteralIsPublic, spelled] at judged
      simp only [IpAddr.Internal, within_internalV6, mappedV4_contains, bits121, bits118]
      split at judged
      · next high lowest same =>
          -- a mapped address is none of IPv6's own, and its low half was judged
          obtain ⟨rfl, rfl, rfl, rfl, rfl, rfl, rfl, rfl⟩ := by simpa using same
          rintro (within | ⟨-, within⟩)
          · omega
          · rw [low, ← v4Number_segments] at within
            exact ipv4IsPublic_sound (by omega) (by omega) (by omega) judged within
      · next unmapped =>
          simp only [List.head?_cons, any_some, uniqueLocal_mask h₀, linkLocal_mask h₀,
            Bool.not_eq_true', Bool.or_eq_false_iff, decide_eq_false_iff_not, List.cons.injEq,
            and_true] at judged
          simp only [List.cons.injEq, and_true] at unmapped
          obtain ⟨⟨loopback, unspecified⟩, uniqueLocal, linkLocal⟩ := judged
          rintro ((one | zero | unique | link) | ⟨mapped, -⟩)
          · exact loopback (by omega)
          · exact unspecified (by omega)
          · exact uniqueLocal unique
          · exact linkLocal link
          · exact unmapped s₆ s₇ (by omega)

/-! ## The parser's rules -/

/-- The host of a URL: a name, or the address every spelling of it stands for. -/
inductive Host where
  | domain (name : String)
  | address (ip : IpAddr)

/-- The host parsing and serializing rules of the URL standard, as far as admission relies on
    them: the host a text names is the one its parse prints, an address in its one canonical
    spelling, in brackets when it is an IPv6 one, and `IpAddr::from_str` reads that spelling. -/
structure HostRules (parser : UrlParser) (host : String → Option Host)
    (canonical : IpAddr → String) : Prop where
  formed : ∀ {text ip}, host text = some (.address ip) → ip.WellFormed
  v4 : ∀ {text url a b c d}, parser.url text = some url → url.scheme = "https" →
    host text = some (.address (.v4 a b c d)) → url.hostStr = some (canonical (.v4 a b c d))
  v6 : ∀ {text url segments}, parser.url text = some url → url.scheme = "https" →
    host text = some (.address (.v6 segments)) →
      url.hostStr = some ("[" ++ canonical (.v6 segments) ++ "]")
  unbracketed : ∀ {text ip}, host text = some (.address ip) →
    '[' ∉ (canonical ip).toList ∧ ']' ∉ (canonical ip).toList
  reads : ∀ {text ip}, host text = some (.address ip) → parser.ip (canonical ip) = some ip

/-- A URL an upstream may be handed: `https`, and no internal address for its host. -/
def Sound (parser : UrlParser) (host : String → Option Host) (sent : String) : Prop :=
  ∃ url, parser.url sent = some url ∧ url.scheme = "https" ∧
    ∀ ip, host sent = some (.address ip) → ¬ ip.Internal

/-- `trim_start_matches('[').trim_end_matches(']')`. -/
def unbracket (host : String) : String :=
  String.ofList (((host.toList.dropWhile (· = '[')).reverse.dropWhile (· = ']')).reverse)

theorem dropWhile_eq_self {c : Char} (h : c ∉ text) :
    text.dropWhile (· = c) = text := by
  cases text with
  | nil => rfl
  | cons head rest =>
      have : head ≠ c := fun same => h (same ▸ List.mem_cons_self)
      simp [this]

theorem unbracket_plain (opening : '[' ∉ host.toList) (closing : ']' ∉ host.toList) :
    unbracket host = host := by
  rw [unbracket, dropWhile_eq_self opening, dropWhile_eq_self (by simpa using closing),
    List.reverse_reverse, String.ofList_toList]

theorem unbracket_bracketed (opening : '[' ∉ host.toList) (closing : ']' ∉ host.toList) :
    unbracket ("[" ++ host ++ "]") = host := by
  have text : ("[" ++ host ++ "]").toList = '[' :: (host.toList ++ [']']) := by simp
  have opened : '[' ∉ host.toList ++ [']'] := by simpa using opening
  rw [unbracket, text, List.dropWhile_cons_of_pos (by simp), dropWhile_eq_self opened,
    List.reverse_append, List.reverse_singleton, List.singleton_append,
    List.dropWhile_cons_of_pos (by simp), dropWhile_eq_self (by simpa using closing),
    List.reverse_reverse, String.ofList_toList]

section Admission

variable {parser : UrlParser} {host : String → Option Host} {canonical : IpAddr → String}

/-- The address a host stands for is the one the check sees. -/
theorem HostRules.reads_host (rules : HostRules parser host canonical) {text : String} {url : Url}
    (parsed : parser.url text = some url) (https : url.scheme = "https")
    (named : host text = some (.address ip)) :
    ∃ printed, url.hostStr = some printed ∧ parser.ip (unbracket printed) = some ip := by
  obtain ⟨opening, closing⟩ := rules.unbracketed named
  have reads := rules.reads named
  cases ip with
  | v4 a b c d =>
      refine ⟨_, rules.v4 parsed https named, ?_⟩
      rw [unbracket_plain opening closing]
      exact reads
  | v6 segments =>
      refine ⟨_, rules.v6 parsed https named, ?_⟩
      rw [unbracket_bracketed opening closing]
      exact reads

/-- What the check admits is inline, or sound. -/
theorem imageUrlIsAdmissible_sound (rules : HostRules parser host canonical)
    (admitted : imageUrlIsAdmissible parser url = true) :
    (base64DataUri url).isSome = true ∨ Sound parser host url := by
  unfold imageUrlIsAdmissible at admitted
  split at admitted
  · next inline => exact .inl inline
  · right
    split at admitted
    · cases admitted
    · next parsed hparsed =>
        split at admitted
        · cases admitted
        · next https =>
            refine ⟨parsed, hparsed, by simpa using https, fun ip named => ?_⟩
            obtain ⟨printed, hprinted, hip⟩ :=
              rules.reads_host hparsed (by simpa using https) named
            rw [hprinted] at admitted
            unfold unbracket at hip
            dsimp only at admitted
            rw [hip] at admitted
            exact ipLiteralIsPublic_sound (rules.formed named) admitted

end Admission

/-! ## One classification -/

theorem splitAtFirst_eq_some {separator before after : List Char}
    (h : splitAtFirst separator text = some (before, after)) :
    text = before ++ separator ++ after := by
  induction text generalizing before after with
  | nil =>
      unfold splitAtFirst at h
      split at h
      · next empty =>
          cases h
          simp [empty]
      · cases h
  | cons c rest ih =>
      unfold splitAtFirst at h
      split at h
      · next found =>
          cases h
          obtain ⟨tail, same⟩ := List.isPrefixOf_iff_prefix.mp found
          simp [← same]
      · obtain ⟨cut, later, same⟩ := map_eq_some_iff.mp h
        cases same
        rw [ih later]
        simp

/-- An inline image is the data URI of its media type and payload. -/
theorem base64DataUri_eq_some {mediaType data : String}
    (h : base64DataUri url = some (mediaType, data)) :
    "data:" ++ mediaType ++ ";base64," ++ data = url := by
  unfold base64DataUri stripPrefix startsWith at h
  split at h
  · next start =>
      obtain ⟨tail, same⟩ := List.isPrefixOf_iff_prefix.mp start
      simp only [bind_some, splitOnceAt] at h
      obtain ⟨cut, found, pair⟩ := map_eq_some_iff.mp h
      cases pair
      have whole := splitAtFirst_eq_some found
      rw [← same, List.drop_left, String.toList_ofList] at whole
      apply String.toList_inj.mp
      simp [← same, whole]
  · cases h

/-- What admission makes of an image's URL. -/
inductive Judgement where
  | inline (mediaType data : String)
  | fetched
  deriving DecidableEq, Repr

/-- The case `image_url_is_admissible` judges a URL under, given it as it trims it. -/
def judgement (url : String) : Judgement :=
  match base64DataUri (trim url) with
  | some (mediaType, data) => .inline mediaType data
  | none => .fetched

/-- The case a wire sends a part under. -/
def UserPart.judgement? : UserPart → Option Judgement
  | .text _ => none
  | .base64Image mediaType data => some (.inline mediaType data)
  | .urlImage _ => some .fetched

/-- A supported image part is admitted by its trimmed URL. -/
theorem admitted_of_supported {parser : UrlParser} {role : String} {part : Value} {marked : Bool}
    (supported : partIsSupported parser role part = true)
    (carried : contentPart part = some (.image url marked)) :
    imageUrlIsAdmissible parser (trim url) = true := by
  unfold contentPart at carried
  unfold partIsSupported at supported
  split at supported
  · cases supported
  · split at supported
    · next htype =>
        simp only [htype, map_eq_some_iff, reduceCtorEq, and_false, exists_false] at carried
    · next htype =>
        simp only [htype, map_eq_some_iff, ContentPart.image.injEq] at carried
        obtain ⟨url', named, rfl, -⟩ := carried
        obtain ⟨image, found, str⟩ := bind_eq_some_iff.mp named
        cases image with
        | object fields =>
            simp only [found, bind_some, Value.asObject, any_some, str,
              Bool.and_eq_true] at supported
            exact supported.1.2.1
        | _ => cases str
    · cases supported

/-! ## The wires -/

/-- The wires a turn can go out on. -/
inductive Outbound where
  | anthropic
  | bedrockRuntime
  | chatCompletions
  | responses
  deriving DecidableEq, Repr

/-- How an upstream is handed an image. -/
inductive Source where
  | inline (mediaType data : String)
  | url (url : String)
  deriving DecidableEq, Repr

/-- A string in a field that takes a URL or a data URI. -/
def Source.ofText (text : String) : Source :=
  match base64DataUri text with
  | some (mediaType, data) => .inline mediaType data
  | none => .url text

def Source.ofBlock : BlockContent → Option Source
  | .image (.base64 mediaType data) => some (.inline mediaType data)
  | .image (.url text) => some (.url text)
  | _ => none

/-- The image in the body a wire sends for a part; none when it sends none, or refuses the
    request before dialling. -/
def Outbound.source (wire : Outbound) (part : UserPart) : Option Source :=
  match wire with
  | .anthropic => Source.ofBlock (blockOf part)
  | .bedrockRuntime =>
      match part with
      | .urlImage _ => none
      | part => Source.ofBlock (blockOf part)
  | .chatCompletions =>
      match chatPart part with
      | .imageUrl text => some (.ofText text)
      | .text _ => none
  | .responses =>
      match inputPart part with
      | .inputImage text => some (.ofText text)
      | .inputText _ | .outputText _ => none

/-- A wire sends an inline image as its bytes and any other as the URL it was given. -/
theorem source_imagePart (wire : Outbound) (url : String) {source : Source}
    (sent : wire.source (imagePart url) = some source) :
    (∃ mediaType data, base64DataUri url = some (mediaType, data) ∧
      source = .inline mediaType data) ∨ base64DataUri url = none ∧ source = .url url := by
  unfold imagePart at sent
  cases classified : base64DataUri url with
  | some pair =>
      obtain ⟨mediaType, data⟩ := pair
      rw [classified] at sent
      have rebuilt : Source.ofText ("data:" ++ mediaType ++ ";base64," ++ data) =
          .inline mediaType data := by
        rw [base64DataUri_eq_some classified, Source.ofText, classified]
      refine .inl ⟨mediaType, data, rfl, ?_⟩
      cases wire <;>
        simp only [Outbound.source, blockOf, chatPart, inputPart, Source.ofBlock, rebuilt,
          some.injEq] at sent <;>
        exact sent.symm
  | none =>
      rw [classified] at sent
      have kept : Source.ofText url = .url url := by rw [Source.ofText, classified]
      refine .inr ⟨rfl, ?_⟩
      cases wire <;>
        simp only [Outbound.source, blockOf, chatPart, inputPart, Source.ofBlock, kept,
          some.injEq, reduceCtorEq] at sent <;>
        exact sent.symm

section Admission

variable {parser : UrlParser} {host : String → Option Host} {canonical : IpAddr → String}

/-- An admitted image given without surrounding whitespace is classified once for admission and
    for the wires, and what a wire sends of it is its bytes or a sound URL. -/
theorem admitted_images_are_sound (rules : HostRules parser host canonical) {role : String}
    {part : Value} {url : String} {marked : Bool}
    (supported : partIsSupported parser role part = true)
    (carried : contentPart part = some (.image url marked)) (bare : trim url = url)
    (wire : Outbound) :
    (imagePart url).judgement? = some (judgement url) ∧
      ∀ source, wire.source (imagePart url) = some source →
        match source with
        | .inline mediaType data => judgement url = .inline mediaType data
        | .url sent => judgement url = .fetched ∧ Sound parser host sent := by
  have admitted := admitted_of_supported supported carried
  rw [bare] at admitted
  have sound := imageUrlIsAdmissible_sound rules admitted
  constructor
  · rw [judgement, bare, imagePart]
    cases base64DataUri url with
    | some pair => rfl
    | none => rfl
  · intro source sent
    rcases source_imagePart wire url sent with ⟨mediaType, data, classified, rfl⟩ |
      ⟨classified, rfl⟩
    · simp only [judgement, bare, classified]
    · refine ⟨by simp only [judgement, bare, classified], ?_⟩
      rcases sound with inline | sound
      · rw [classified] at inline
        cases inline
      · exact sound

/-- The parts of a turn are those of the message it was packed from. -/
theorem parts_toProviderMessage (json : SerdeJson) {message : OpenAiMessage} {part : ContentPart}
    (mem : part ∈ (toProviderMessage json message).parts) :
    ∃ raw ∈ (message.content.asArray).getD [], contentPart raw = some part := by
  unfold toProviderMessage at mem
  split at mem
  · split at mem <;> cases mem
  · split at mem
    · cases mem
    · cases mem
    · split at mem
      · next parts structured =>
          unfold contentToParts at structured
          split at structured
          · next raw hcontent =>
              simp only [ite_none_right_eq_some] at structured
              obtain ⟨-, same⟩ := structured
              cases same
              rw [hcontent]
              exact List.mem_filterMap.mp mem
          · cases structured
      · cases mem

/-- A URL among the parts of a turn is one of its images. -/
theorem image_of_urlImage (carried : UserPart.urlImage url ∈ userParts turn) :
    base64DataUri url = none ∧ ∃ marked, ContentPart.image url marked ∈ turn.parts := by
  obtain ⟨⟨part, marked⟩, mem, rfl⟩ := List.mem_map.mp carried
  unfold userPartsCached at mem
  split at mem
  · split at mem <;> simp at mem
  · obtain ⟨source, hsource, classified⟩ := List.mem_filterMap.mp mem
    cases source with
    | text words marked' =>
        simp only [userPartCached] at classified
        split at classified <;> simp at classified
    | image url' marked' =>
        simp only [userPartCached, imagePart, some.injEq, Prod.mk.injEq] at classified
        obtain ⟨classified, rfl⟩ := classified
        cases inline : base64DataUri url' with
        | some pair => simp [inline] at classified
        | none =>
            simp only [inline, UserPart.urlImage.injEq] at classified
            exact classified ▸ ⟨inline, marked', hsource⟩

end Admission

def imagePartOf (url : String) : Value :=
  .object [("image_url", .object [("url", .string url)]), ("type", .string "image_url")]

def exampleUrl : String := "https://93.184.216.34/a.png"

def exampleHost (text : String) : Option Host :=
  if text = exampleUrl then some (.address (.v4 93 184 216 34)) else none

/-- The parser's answers about one URL. -/
def exampleParser : UrlParser where
  url text := if text = exampleUrl then some ⟨"https", some "93.184.216.34"⟩ else none
  ip text := if text = "93.184.216.34" then some (.v4 93 184 216 34) else none

theorem exampleHost_eq {text : String} (h : exampleHost text = some (.address ip)) :
    text = exampleUrl ∧ ip = .v4 93 184 216 34 := by
  unfold exampleHost at h
  split at h
  · next same => exact ⟨same, by simpa using h.symm⟩
  · cases h

theorem exampleParser_rules :
    HostRules exampleParser exampleHost fun _ => "93.184.216.34" where
  formed named := by
    obtain ⟨-, rfl⟩ := exampleHost_eq named
    simp [IpAddr.WellFormed]
  v4 parsed _ named := by
    obtain ⟨rfl, -⟩ := exampleHost_eq named
    cases parsed
    rfl
  v6 _ _ named := by
    obtain ⟨-, same⟩ := exampleHost_eq named
    cases same
  unbracketed _ := by decide +kernel
  reads named := by
    obtain ⟨-, rfl⟩ := exampleHost_eq named
    rfl

theorem admitted_images_are_sound_at_a_public_address :
    Outbound.anthropic.source (imagePart exampleUrl) = some (.url exampleUrl) ∧
      judgement exampleUrl = .fetched ∧ Sound exampleParser exampleHost exampleUrl := by
  have sent : Outbound.anthropic.source (imagePart exampleUrl) = some (.url exampleUrl) := by
    decide +kernel
  have supported : partIsSupported exampleParser "user" (imagePartOf exampleUrl) = true := by
    decide +kernel
  have carried : contentPart (imagePartOf exampleUrl) = some (.image exampleUrl false) := by
    decide +kernel
  have bare : trim exampleUrl = exampleUrl := by decide +kernel
  exact ⟨sent, (admitted_images_are_sound exampleParser_rules supported carried bare
    .anthropic).2 _ sent⟩

/-- A request whose one message is an image. -/
def exampleRequest : ChatCompletionRequest where
  model := "haiku"
  messages :=
    [{ role := "user", content := .array [imagePartOf exampleUrl], reasoningContent := none
       name := none, toolCallId := none, toolCalls := [], extra := [] }]
  stream := false
  temperature := none
  maxTokens := none
  tools := []
  toolChoice := none
  streamOptions := none
  extra := []

/-- `::127.0.0.1`, which the URL standard prints in hexadecimal. -/
def compatibleUrl : String := "https://[::127.0.0.1]/a.png"

def compatibleLoopback : Vector Nat 8 := #v[0, 0, 0, 0, 0, 0, 0x7f00, 1]

def compatibleParser : UrlParser where
  url text := if text = compatibleUrl then some ⟨"https", some "[::7f00:1]"⟩ else none
  ip text := if text = "::7f00:1" then some (.v6 compatibleLoopback) else none

def paddedUrl : String := " data:image/png;base64,AAAA"

/-- An IPv6 literal that embeds a loopback address without mapping it is admitted and forwarded
    as a URL; and a padded data URI is admitted as inline bytes and forwarded as a URL. -/
theorem embedded_loopback_is_forwarded :
    (partIsSupported compatibleParser "user" (imagePartOf compatibleUrl) = true ∧
      Outbound.anthropic.source (imagePart compatibleUrl) = some (.url compatibleUrl) ∧
      compatibleParser.ip (unbracket "[::7f00:1]") = some (.v6 compatibleLoopback) ∧
      v6Number compatibleLoopback / 2 ^ 32 = 0 ∧
      Within internalV4 (v6Number compatibleLoopback % 2 ^ 32)) ∧
    partIsSupported compatibleParser "user" (imagePartOf paddedUrl) = true ∧
      judgement paddedUrl = .inline "image/png" "AAAA" ∧
      Outbound.anthropic.source (imagePart paddedUrl) = some (.url paddedUrl) := by
  have printed : unbracket "[::7f00:1]" = "::7f00:1" := by decide +kernel
  refine ⟨⟨by decide +kernel, by decide +kernel, ?_, by decide +kernel, by decide +kernel⟩,
    by decide +kernel, by decide +kernel, by decide +kernel⟩
  rw [printed]
  rfl

end ZeroRouter.Wire
