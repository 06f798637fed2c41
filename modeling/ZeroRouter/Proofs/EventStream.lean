import ZeroRouter.Wire.EventStream

/-!
# Event streams, encoded and decoded

A frame is a list of headers and a payload; its encoding is read back as its string
headers and its payload, and nothing else is.  So the decoder takes a frame off the
buffer exactly when an encoded frame is at its head.
-/

namespace ZeroRouter.Wire.EventStream

open BigEndian List Incremental Relational

variable {bytes rest buffer value : List UInt8} {checksum : List UInt8 → UInt32}
  {headers total : Nat} {chunks taken : List (List UInt8)} {text : Option String}
  {count width start : Nat} {field name : String} {tail more chunk : List UInt8}
  {taken' : List (List UInt8)}

/-! ## Frames and their bytes -/

/-- A number in big-endian bytes. -/
abbrev Bytes (width : Nat) := { bytes : List UInt8 // bytes.length = width }

/-- The ten types of header value. -/
inductive HeaderValue where
  | boolTrue
  | boolFalse
  | byte (value : Bytes 1)
  | short (value : Bytes 2)
  | integer (value : Bytes 4)
  | long (value : Bytes 8)
  | byteArray (value : List UInt8) (fits : value.length < 65536)
  | string (value : String) (fits : (Utf8.encode value.toList).length < 65536)
  | timestamp (value : Bytes 8)
  | uuid (value : Bytes 16)

namespace HeaderValue

def kind : HeaderValue → UInt8
  | boolTrue => 0
  | boolFalse => 1
  | byte _ => 2
  | short _ => 3
  | integer _ => 4
  | long _ => 5
  | byteArray .. => 6
  | string .. => 7
  | timestamp _ => 8
  | uuid _ => 9

def encode : HeaderValue → List UInt8
  | boolTrue | boolFalse => []
  | byte value => value.val
  | short value => value.val
  | integer value => value.val
  | long value => value.val
  | byteArray value _ => toBytes 2 value.length ++ value
  | string value _ =>
      let bytes := Utf8.encode value.toList
      toBytes 2 bytes.length ++ bytes
  | timestamp value => value.val
  | uuid value => value.val

/-- What the decoder keeps. -/
def text? : HeaderValue → Option String
  | string value _ => some value
  | _ => none

end HeaderValue

structure HeaderEntry where
  name : String
  value : HeaderValue
  named : 1 ≤ (Utf8.encode name.toList).length
  fits : (Utf8.encode name.toList).length < 256

def HeaderEntry.encode (entry : HeaderEntry) : List UInt8 :=
  let name := Utf8.encode entry.name.toList
  toBytes 1 name.length ++ name ++ [entry.value.kind] ++ entry.value.encode

def encodeHeaders (entries : List HeaderEntry) : List UInt8 :=
  entries.flatMap HeaderEntry.encode

/-- The headers kept of a list of entries, behind those kept before. -/
def keepAll (entries : List HeaderEntry) (headers : Headers) : Headers :=
  entries.foldl (fun headers entry => keep headers entry.name entry.value.text?) headers

/-- A frame the format's lengths can state and the decoder waits for. -/
structure Frame where
  entries : List HeaderEntry
  payload : List UInt8
  headersFit : (encodeHeaders entries).length ≤ maxHeaderBytes
  frameFits : frameOverheadBytes + (encodeHeaders entries).length + payload.length ≤ maxFrameBytes

namespace Frame

/-- The specification's ceiling on a payload. -/
def Conforming (frame : Frame) : Prop := frame.payload.length ≤ maxPayloadBytes

def headersLength (frame : Frame) : Nat := (encodeHeaders frame.entries).length

def totalLength (frame : Frame) : Nat :=
  frameOverheadBytes + frame.headersLength + frame.payload.length

end Frame

/-- Bytes, then their checksum. -/
def sealed (checksum : List UInt8 → UInt32) (bytes : List UInt8) : List UInt8 :=
  bytes ++ toBytes 4 (checksum bytes).toNat

/-- The two lengths and their checksum. -/
def encodePrelude (checksum : List UInt8 → UInt32) (total headers : Nat) : List UInt8 :=
  sealed checksum (toBytes 4 total ++ toBytes 4 headers)

def Frame.encode (checksum : List UInt8 → UInt32) (frame : Frame) : List UInt8 :=
  sealed checksum
    (encodePrelude checksum frame.totalLength frame.headersLength ++
      encodeHeaders frame.entries ++ frame.payload)

/-- The string headers, the later of two under one name, and the payload. -/
def Frame.message (frame : Frame) : Message where
  headers := keepAll frame.entries .empty
  payload := frame.payload

def encodeAll (checksum : List UInt8 → UInt32) (stream : List Frame) : List UInt8 :=
  stream.flatMap (Frame.encode checksum)

/-! ## Headers, both ways -/

theorem splitFirst_append (field : String) (h : bytes.length = count) :
    splitFirst (bytes ++ rest) count field = .ok (bytes, rest) := by
  subst h
  simp [splitFirst]

theorem splitFirst_eq_ok {first : List UInt8}
    (h : splitFirst bytes count field = .ok (first, rest)) :
    first.length = count ∧ bytes = first ++ rest := by
  unfold splitFirst at h
  split_ifs at h with hlt
  simp only [Except.ok.injEq, Prod.mk.injEq] at h
  obtain ⟨rfl, rfl⟩ := h
  exact ⟨length_take_of_le (by omega), (take_append_drop count bytes).symm⟩

theorem fromUtf8_encode (text detail : String) :
    fromUtf8 (Utf8.encode text.toList) detail = .ok text := by
  rw [fromUtf8, Utf8.decode?_eq_some.mpr rfl]

theorem fromUtf8_eq_ok {text detail : String} (h : fromUtf8 bytes detail = .ok text) :
    bytes = Utf8.encode text.toList := by
  unfold fromUtf8 at h
  split at h
  · next text' decoded =>
    cases h
    exact Utf8.decode?_eq_some.mp decoded
  · cases h

theorem countedValue_append (h : value.length < 65536) :
    countedValue (toBytes 2 value.length ++ value ++ rest) = .ok (value, rest) := by
  have hlen : ofBytes (toBytes 2 value.length) = value.length :=
    ofBytes_toBytes (by omega)
  rw [countedValue, append_assoc, splitFirst_append _ (by simp)]
  simp only [bind, Except.bind, hlen]
  exact splitFirst_append _ rfl

theorem countedValue_eq_ok (h : countedValue bytes = .ok (value, rest)) :
    value.length < 65536 ∧ bytes = toBytes 2 value.length ++ value ++ rest := by
  simp only [countedValue, bind_eq_ok] at h
  obtain ⟨⟨count, after⟩, hcount, h⟩ := h
  obtain ⟨hwidth, rfl⟩ := splitFirst_eq_ok hcount
  obtain ⟨hlength, rfl⟩ := splitFirst_eq_ok h
  have := ofBytes_lt count
  rw [hwidth] at this
  dsimp only at hlength
  refine ⟨by omega, ?_⟩
  rw [hlength, ← eq_toBytes hwidth, append_assoc]

theorem skipValue_append (field : String) (h : value.length = width) :
    skipValue (value ++ rest) width field = .ok (none, rest) := by
  rw [skipValue, splitFirst_append field h]
  rfl

theorem skipValue_eq_ok (h : skipValue bytes width field = .ok (text, rest)) :
    ∃ value : Bytes width, bytes = value.val ++ rest ∧ text = none := by
  simp only [skipValue, bind_eq_ok, pure, Except.pure, Except.ok.injEq, Prod.mk.injEq] at h
  obtain ⟨⟨value, after⟩, hsplit, rfl, rfl⟩ := h
  obtain ⟨hlength, rfl⟩ := splitFirst_eq_ok hsplit
  exact ⟨⟨value, hlength⟩, rfl, rfl⟩

/-- A value is read back, kept when it is a string. -/
theorem parseValue_encode (name : String) (value : HeaderValue) (rest : List UInt8) :
    parseValue name value.kind (value.encode ++ rest) = .ok (value.text?, rest) := by
  cases value with
  | boolTrue => rfl
  | boolFalse => rfl
  | byte value => exact skipValue_append _ value.property
  | short value => exact skipValue_append _ value.property
  | integer value => exact skipValue_append _ value.property
  | long value => exact skipValue_append _ value.property
  | timestamp value => exact skipValue_append _ value.property
  | uuid value => exact skipValue_append _ value.property
  | byteArray value fits =>
      show (countedValue (toBytes 2 value.length ++ value ++ rest) >>= _) = _
      rw [countedValue_append fits]
      rfl
  | string value fits =>
      show (countedValue (toBytes 2 _ ++ Utf8.encode value.toList ++ rest) >>= _) = _
      rw [countedValue_append fits]
      simp only [bind, Except.bind, fromUtf8_encode]
      rfl

/-- Only a value is. -/
theorem parseValue_eq_ok {kind : UInt8} (h : parseValue name kind bytes = .ok (text, rest)) :
    ∃ value : HeaderValue, value.kind = kind ∧ bytes = value.encode ++ rest ∧
      text = value.text? := by
  have named : ∀ n : Nat, kind.toNat = n → UInt8.ofNat n = kind := by
    rintro n rfl
    simp
  unfold parseValue at h
  split at h
  · next hkind =>
    cases h
    exact ⟨.boolTrue, named 0 hkind, rfl, rfl⟩
  · next hkind =>
    cases h
    exact ⟨.boolFalse, named 1 hkind, rfl, rfl⟩
  · next hkind =>
    obtain ⟨value, hbytes, htext⟩ := skipValue_eq_ok h
    exact ⟨.byte value, named 2 hkind, hbytes, htext⟩
  · next hkind =>
    obtain ⟨value, hbytes, htext⟩ := skipValue_eq_ok h
    exact ⟨.short value, named 3 hkind, hbytes, htext⟩
  · next hkind =>
    obtain ⟨value, hbytes, htext⟩ := skipValue_eq_ok h
    exact ⟨.integer value, named 4 hkind, hbytes, htext⟩
  · next hkind =>
    obtain ⟨value, hbytes, htext⟩ := skipValue_eq_ok h
    exact ⟨.long value, named 5 hkind, hbytes, htext⟩
  · next hkind =>
    obtain ⟨value, hbytes, htext⟩ := skipValue_eq_ok h
    exact ⟨.timestamp value, named 8 hkind, hbytes, htext⟩
  · next hkind =>
    obtain ⟨value, hbytes, htext⟩ := skipValue_eq_ok h
    exact ⟨.uuid value, named 9 hkind, hbytes, htext⟩
  · next hkind =>
    simp only [bind_eq_ok, pure, Except.pure, Except.ok.injEq, Prod.mk.injEq] at h
    obtain ⟨⟨value, after⟩, hcounted, rfl, rfl⟩ := h
    obtain ⟨fits, hbytes⟩ := countedValue_eq_ok hcounted
    exact ⟨.byteArray value fits, named 6 hkind, hbytes, rfl⟩
  · next hkind =>
    simp only [bind_eq_ok, pure, Except.pure, Except.ok.injEq, Prod.mk.injEq] at h
    obtain ⟨⟨value, after⟩, hcounted, decoded, hdecoded, rfl, rfl⟩ := h
    obtain ⟨fits, hbytes⟩ := countedValue_eq_ok hcounted
    have := fromUtf8_eq_ok hdecoded
    subst this
    exact ⟨.string decoded fits, named 7 hkind, hbytes, rfl⟩
  · cases h

theorem parseEntry_encode (entry : HeaderEntry) (rest : List UInt8) :
    parseEntry (entry.encode ++ rest) = .ok (entry.name, entry.value.text?, rest) := by
  have hnamed := entry.named
  have hlen : ofBytes (toBytes 1 (Utf8.encode entry.name.toList).length) =
      (Utf8.encode entry.name.toList).length :=
    ofBytes_toBytes (by simpa using entry.fits)
  have hkind : UInt8.ofNat (ofBytes [entry.value.kind]) = entry.value.kind := by
    simp [ofBytes]
  simp only [parseEntry, HeaderEntry.encode, append_assoc]
  rw [splitFirst_append _ (length_toBytes 1 _)]
  simp only [bind, Except.bind, hlen, ensure,
    if_pos (show (Utf8.encode entry.name.toList).length ≠ 0 by omega)]
  rw [splitFirst_append _ rfl]
  simp only [fromUtf8_encode]
  rw [splitFirst_append _ (length_singleton)]
  simp only [hkind, parseValue_encode, pure, Except.pure]

theorem parseEntry_eq_ok (h : parseEntry bytes = .ok (name, text, rest)) :
    ∃ entry : HeaderEntry, bytes = entry.encode ++ rest ∧ name = entry.name ∧
      text = entry.value.text? := by
  simp only [parseEntry, bind_eq_ok, ensure_eq_ok, exists_const, pure, Except.pure, Except.ok.injEq,
    Prod.mk.injEq] at h
  obtain ⟨⟨count, afterCount⟩, hcount, hpos, ⟨named, afterName⟩, hname, name', hdecoded,
    ⟨kind, afterKind⟩, hkind, ⟨text', afterValue⟩, hvalue, rfl, rfl, rfl⟩ := h
  obtain ⟨hwidth, rfl⟩ := splitFirst_eq_ok hcount
  obtain ⟨hlength, rfl⟩ := splitFirst_eq_ok hname
  obtain ⟨hone, rfl⟩ := splitFirst_eq_ok hkind
  obtain ⟨value, hkindEq, rfl, rfl⟩ := parseValue_eq_ok hvalue
  have hbytes := fromUtf8_eq_ok hdecoded
  have hlt := ofBytes_lt count
  rw [hwidth] at hlt
  dsimp only at hlength hpos hbytes hkindEq hone
  subst hbytes
  refine ⟨⟨name', value, by omega, by omega⟩, ?_, rfl, rfl⟩
  have hkindBytes : kind = [value.kind] := by
    obtain ⟨byte, rfl⟩ := length_eq_one_iff.mp hone
    rw [hkindEq]
    simp [ofBytes]
  simp only [HeaderEntry.encode, hlength, ← eq_toBytes hwidth, hkindBytes,
    append_assoc]

theorem encode_ne_nil (entry : HeaderEntry) : entry.encode ≠ [] := by
  simp [HeaderEntry.encode]

theorem parseHeadersFuel_encode (entries : List HeaderEntry) :
    ∀ (fuel : Nat) (headers : Headers), (encodeHeaders entries).length ≤ fuel →
      parseHeadersFuel fuel (encodeHeaders entries) headers = .ok (keepAll entries headers) := by
  induction entries with
  | nil =>
      intro fuel headers _
      cases fuel <;> rfl
  | cons entry entries ih =>
      intro fuel headers hfuel
      have hcons : encodeHeaders (entry :: entries) = entry.encode ++ encodeHeaders entries := rfl
      have hpos := length_pos_iff.mpr (encode_ne_nil entry)
      rw [hcons, length_append] at hfuel
      obtain ⟨fuel, rfl⟩ : ∃ n, fuel = n + 1 := ⟨fuel - 1, by omega⟩
      rw [hcons, parseHeadersFuel, if_neg (by simp [encode_ne_nil]), parseEntry_encode]
      exact ih fuel _ (by omega)

theorem parseHeadersFuel_eq_ok (fuel : Nat) :
    ∀ {bytes : List UInt8} {headers kept : Headers}, bytes.length ≤ fuel →
      parseHeadersFuel fuel bytes headers = .ok kept →
      ∃ entries, bytes = encodeHeaders entries ∧ kept = keepAll entries headers := by
  induction fuel with
  | zero =>
      intro bytes headers kept hfuel h
      cases h
      have : bytes = [] := by simpa using hfuel
      exact ⟨[], this, rfl⟩
  | succ fuel ih =>
      intro bytes headers kept hfuel h
      rw [parseHeadersFuel] at h
      by_cases hempty : bytes.isEmpty
      · rw [if_pos hempty] at h
        cases h
        exact ⟨[], isEmpty_iff.mp hempty, rfl⟩
      · rw [if_neg hempty] at h
        split at h
        · cases h
        · next name text rest parsed =>
          obtain ⟨entry, rfl, rfl, rfl⟩ := parseEntry_eq_ok parsed
          have hpos := length_pos_iff.mpr (encode_ne_nil entry)
          rw [length_append] at hfuel
          obtain ⟨entries, rfl, rfl⟩ := ih (by omega) h
          exact ⟨entry :: entries, rfl, rfl⟩

/-- A headers section is accepted exactly when it encodes some entries. -/
theorem parseHeaders_eq_ok {headers : Headers} :
    parseHeaders bytes = .ok headers ↔
      ∃ entries, bytes = encodeHeaders entries ∧ headers = keepAll entries .empty := by
  constructor
  · exact parseHeadersFuel_eq_ok bytes.length (Nat.le_refl _)
  · rintro ⟨entries, rfl, rfl⟩
    exact parseHeadersFuel_encode entries _ _ (Nat.le_refl _)

/-! ## Frames, both ways -/

theorem u32At_append (before rest : List UInt8) {n : Nat} (h : before.length = start)
    (hn : n < UInt32.size) :
    (u32At (before ++ (toBytes 4 n ++ rest)) start).toNat = n := by
  subst h
  have hlen : before.length + 4 = (before ++ toBytes 4 n).length := by simp
  rw [u32At, ← append_assoc, hlen, take_left, drop_left, ofBytes_toBytes hn,
    UInt32.toNat_ofNat_of_lt' hn]

theorem eq_toBytes_u32At (h : start + 4 ≤ buffer.length) :
    (buffer.take (start + 4)).drop start = toBytes 4 (u32At buffer start).toNat := by
  have hlen : ((buffer.take (start + 4)).drop start).length = 4 := by
    rw [length_drop, length_take_of_le h]
    omega
  have hlt := ofBytes_lt ((buffer.take (start + 4)).drop start)
  rw [hlen] at hlt
  rw [u32At, UInt32.toNat_ofNat_of_lt' hlt, ← eq_toBytes hlen]

/-- Lengths the decoder accepts. -/
structure Lengths (total headers : Nat) : Prop where
  frameFits : total ≤ maxFrameBytes
  headersFit : headers ≤ maxHeaderBytes
  room : frameOverheadBytes + headers ≤ total

theorem Frame.lengths (frame : Frame) : Lengths frame.totalLength frame.headersLength where
  frameFits := frame.frameFits
  headersFit := frame.headersFit
  room := Nat.le_add_right _ _

theorem Lengths.lt (h : Lengths total headers) :
    total < UInt32.size ∧ headers < UInt32.size := by
  have := h.frameFits
  have := h.headersFit
  simp only [maxFrameBytes, frameOverheadBytes, maxHeaderBytes, maxPayloadBytes,
    UInt32.size] at *
  omega

theorem length_encodePrelude (checksum : List UInt8 → UInt32) (total headers : Nat) :
    (encodePrelude checksum total headers).length = 12 := by
  simp [encodePrelude, sealed]

theorem lengthsOf_encode (checksum : List UInt8 → UInt32) (h : Lengths total headers)
    (rest : List UInt8) :
    lengthsOf checksum (encodePrelude checksum total headers ++ rest) = .ok (total, headers) := by
  obtain ⟨htotal, hheaders⟩ := h.lt
  have covered : (encodePrelude checksum total headers ++ rest).take 8 =
      toBytes 4 total ++ toBytes 4 headers := by
    rw [encodePrelude, sealed, append_assoc]
    exact take_left' (by simp)
  rw [lengthsOf_eq_ok]
  refine ⟨?_, ?_, ?_, h.frameFits, h.headersFit, h.room⟩
  · rw [covered]
    apply UInt32.toNat_inj.mp
    rw [encodePrelude, sealed, append_assoc]
    exact (u32At_append _ _ (by simp) (UInt32.toNat_lt _)).symm
  · simp only [encodePrelude, sealed, append_assoc]
    exact (u32At_append [] _ rfl htotal).symm
  · simp only [encodePrelude, sealed, append_assoc]
    exact (u32At_append _ _ (by simp) hheaders).symm

/-- Lengths the decoder accepts come from an encoded prelude. -/
theorem lengthsOf_eq_ok_encode (hlen : 12 ≤ buffer.length)
    (h : lengthsOf checksum buffer = .ok (total, headers)) :
    Lengths total headers ∧ buffer.take 12 = encodePrelude checksum total headers := by
  obtain ⟨hsum, rfl, rfl, hframe, hheaders, hroom⟩ := lengthsOf_eq_ok.mp h
  refine ⟨⟨hframe, hheaders, hroom⟩, ?_⟩
  have first : buffer.take 4 = toBytes 4 (u32At buffer 0).toNat := by
    have : (buffer.take (0 + 4)).drop 0 = _ := eq_toBytes_u32At (by omega)
    simpa using this
  have both : buffer.take 8 = toBytes 4 (u32At buffer 0).toNat ++
      toBytes 4 (u32At buffer 4).toNat := by
    rw [← first, ← eq_toBytes_u32At (by omega)]
    exact (take_append_drop 4 (buffer.take 8)).symm.trans (by simp [take_take])
  rw [encodePrelude, sealed, ← both, hsum, ← eq_toBytes_u32At (by omega)]
  exact (take_append_drop 8 (buffer.take 12)).symm.trans (by simp [take_take])

/-- A whole frame is opened as its message. -/
theorem openFrame_encode (checksum : List UInt8 → UInt32) (frame : Frame) :
    openFrame checksum (frame.encode checksum) frame.headersLength = .ok frame.message := by
  have hlen : (frame.encode checksum).length - 4 =
      (encodePrelude checksum frame.totalLength frame.headersLength ++
        encodeHeaders frame.entries ++ frame.payload).length := by
    simp only [Frame.encode, sealed, length_append, length_toBytes]
    omega
  have body : (frame.encode checksum).take ((frame.encode checksum).length - 4) =
      encodePrelude checksum frame.totalLength frame.headersLength ++
        encodeHeaders frame.entries ++ frame.payload := by
    rw [hlen, Frame.encode, sealed, take_left]
  have crc : u32At (frame.encode checksum) ((frame.encode checksum).length - 4) =
      checksum ((frame.encode checksum).take ((frame.encode checksum).length - 4)) := by
    apply UInt32.toNat_inj.mp
    rw [body, Frame.encode, sealed]
    have := u32At_append (encodePrelude checksum frame.totalLength frame.headersLength ++
        encodeHeaders frame.entries ++ frame.payload) [] hlen.symm (UInt32.toNat_lt (checksum
          (encodePrelude checksum frame.totalLength frame.headersLength ++
            encodeHeaders frame.entries ++ frame.payload)))
    simpa [Frame.encode, sealed] using this
  have headers : ((frame.encode checksum).take (12 + frame.headersLength)).drop 12 =
      encodeHeaders frame.entries := by
    have hprelude := length_encodePrelude checksum frame.totalLength frame.headersLength
    have htake : (frame.encode checksum).take (12 + frame.headersLength) =
        encodePrelude checksum frame.totalLength frame.headersLength ++
          encodeHeaders frame.entries := by
      rw [Frame.encode, sealed, append_assoc]
      exact take_left' (by rw [length_append, hprelude, Frame.headersLength])
    rw [htake]
    exact drop_left' hprelude
  have payload : ((frame.encode checksum).take ((frame.encode checksum).length - 4)).drop
      (12 + frame.headersLength) = frame.payload := by
    have hprelude := length_encodePrelude checksum frame.totalLength frame.headersLength
    rw [body]
    exact drop_left' (by rw [length_append, hprelude, Frame.headersLength])
  have parsed := parseHeaders_eq_ok.mpr ⟨frame.entries, rfl, rfl⟩
  simp only [openFrame, crc, headers, payload, parsed, ensure, if_true, bind, Except.bind, refuse,
    Except.mapError, pure, Except.pure, Frame.message]

/-- What opens behind a prelude that states its length is an encoded frame. -/
theorem openFrame_eq_ok {message : Message} (lengths : Lengths bytes.length headers)
    (hprelude : bytes.take 12 = encodePrelude checksum bytes.length headers)
    (h : openFrame checksum bytes headers = .ok message) :
    ∃ frame : Frame, bytes = frame.encode checksum ∧ message = frame.message := by
  simp only [openFrame, bind_eq_ok, ensure_eq_ok, exists_const, pure, Except.pure,
    Except.ok.injEq] at h
  obtain ⟨hsum, parsed, hparsed, rfl⟩ := h
  have hroom := lengths.room
  have : frameOverheadBytes = 16 := rfl
  obtain ⟨entries, hentries, rfl⟩ : ∃ entries,
      (bytes.take (12 + headers)).drop 12 = encodeHeaders entries ∧
        parsed = keepAll entries .empty := by
    cases hp : parseHeaders ((bytes.take (12 + headers)).drop 12) with
    | error error => simp [hp, refuse, Except.mapError] at hparsed
    | ok kept =>
        simp only [hp, refuse, Except.mapError, Except.ok.injEq] at hparsed
        rw [← hparsed]
        exact parseHeaders_eq_ok.mp hp
  have hlength : (encodeHeaders entries).length = headers := by
    rw [← hentries, length_drop, length_take_of_le (by omega)]
    omega
  have hpayload : ((bytes.take (bytes.length - 4)).drop (12 + headers)).length =
      bytes.length - 16 - headers := by
    rw [length_drop, length_take_of_le (by omega)]
    omega
  have htotal : frameOverheadBytes + headers +
      ((bytes.take (bytes.length - 4)).drop (12 + headers)).length = bytes.length := by omega
  refine ⟨⟨entries, (bytes.take (bytes.length - 4)).drop (12 + headers), ?_, ?_⟩, ?_, rfl⟩
  · rw [hlength]
    exact lengths.headersFit
  · rw [hlength, htotal]
    exact lengths.frameFits
  · have hhead : bytes.take (12 + headers) = bytes.take 12 ++ encodeHeaders entries := by
      rw [← hentries]
      exact (take_append_drop 12 _).symm.trans (by simp [take_take])
    have hbody : bytes.take (bytes.length - 4) = bytes.take 12 ++ encodeHeaders entries ++
        (bytes.take (bytes.length - 4)).drop (12 + headers) := by
      rw [← hhead]
      refine (take_append_drop (12 + headers) _).symm.trans ?_
      rw [take_take, Nat.min_eq_left (by omega)]
    have hcrc : bytes.drop (bytes.length - 4) = toBytes 4
        (u32At bytes (bytes.length - 4)).toNat := by
      have hfour : bytes.length - 4 + 4 = bytes.length := by omega
      rw [← eq_toBytes_u32At (by omega), hfour, take_length]
    simp only [Frame.encode, Frame.totalLength, Frame.headersLength, hlength, htotal, sealed,
      ← hprelude, ← hbody, hsum, ← hcrc]
    exact (take_append_drop _ _).symm

theorem Frame.length_encode (checksum : List UInt8 → UInt32) (frame : Frame) :
    (frame.encode checksum).length = frame.totalLength := by
  simp only [Frame.encode, sealed, length_append, length_encodePrelude,
    length_toBytes, Frame.totalLength, Frame.headersLength, frameOverheadBytes]
  omega

/-- The decoder takes a message off the buffer exactly when an encoded frame is there. -/
theorem takeFrame_eq_some {message : Message} :
    takeFrame checksum buffer = .ok (some (message, rest)) ↔
      ∃ frame : Frame, buffer = frame.encode checksum ++ rest ∧ message = frame.message := by
  constructor
  · intro h
    by_cases hlen : buffer.length < 12
    · simp [takeFrame, hlen] at h
    · rw [takeFrame_eq checksum (by omega)] at h
      simp only [bind_eq_ok] at h
      obtain ⟨⟨total, headers⟩, hlengths, h⟩ := h
      obtain ⟨lengths, hprelude⟩ := lengthsOf_eq_ok_encode (by omega) hlengths
      split_ifs at h with hwhole
      · simp [pure, Except.pure] at h
      · simp only [bind_eq_ok, pure, Except.pure, Except.ok.injEq, Option.some.injEq,
          Prod.mk.injEq] at h
        obtain ⟨opened, hopened, rfl, rfl⟩ := h
        have hroom := lengths.room
        have : frameOverheadBytes = 16 := rfl
        have htake : (buffer.take total).length = total := length_take_of_le (by omega)
        obtain ⟨frame, hframe, rfl⟩ := openFrame_eq_ok (by rwa [htake])
          (by rw [htake, take_take, Nat.min_eq_left (by omega), hprelude]) hopened
        exact ⟨frame, by rw [← hframe, take_append_drop], rfl⟩
  · rintro ⟨frame, rfl, rfl⟩
    have hlength := frame.length_encode checksum
    have htotal : frame.totalLength = frameOverheadBytes + frame.headersLength +
      frame.payload.length := rfl
    have : frameOverheadBytes = 16 := rfl
    have hlengths : lengthsOf checksum (frame.encode checksum ++ rest) =
        .ok (frame.totalLength, frame.headersLength) := by
      simp only [Frame.encode, sealed, append_assoc]
      exact lengthsOf_encode checksum frame.lengths _
    rw [takeFrame_eq checksum (by rw [length_append]; omega), hlengths]
    have hwhole : ¬ (frame.encode checksum ++ rest).length < frame.totalLength := by
      rw [length_append]
      omega
    simp only [bind, Except.bind, if_neg hwhole]
    simp only [← hlength, take_left, drop_left, openFrame_encode, pure, Except.pure]

/-- The head of the bytes is seen to be no frame: its prelude is there, and either states
    no lengths a frame can have, or the whole frame it states is there and is none. -/
def ComesToLight (checksum : List UInt8 → UInt32) (bytes : List UInt8) : Prop :=
  12 ≤ bytes.length ∧ ∀ total headers, Lengths total headers →
    encodePrelude checksum total headers <+: bytes →
      total ≤ bytes.length ∧ ∀ (frame : Frame) (rest : List UInt8),
        bytes ≠ frame.encode checksum ++ rest

/-- That is when the decoder refuses it. -/
theorem takeFrame_eq_error :
    (∃ failure, takeFrame checksum bytes = .error failure) ↔ ComesToLight checksum bytes := by
  constructor
  · rintro ⟨failure, h⟩
    have hlen : 12 ≤ bytes.length := by
      by_contra hlt
      simp [takeFrame, show bytes.length < 12 by omega] at h
    refine ⟨hlen, ?_⟩
    rintro total headers lengths ⟨after, rfl⟩
    refine ⟨?_, ?_⟩
    · by_contra hshort
      rw [takeFrame_eq checksum hlen, lengthsOf_encode checksum lengths] at h
      simp only [bind, Except.bind, if_pos (not_le.mp hshort)] at h
      cases h
    · intro frame rest heq
      rw [heq, takeFrame_eq_some.mpr ⟨frame, rfl, rfl⟩] at h
      cases h
  · rintro ⟨hlen, none_whole⟩
    cases htake : takeFrame checksum bytes with
    | error failure => exact ⟨failure, rfl⟩
    | ok found =>
        exfalso
        rw [takeFrame_eq checksum hlen, bind_eq_ok] at htake
        obtain ⟨⟨total, headers⟩, hlengths, htake⟩ := htake
        obtain ⟨lengths, hprelude⟩ := lengthsOf_eq_ok_encode hlen hlengths
        obtain ⟨hwhole, no_frame⟩ := none_whole total headers lengths
          (hprelude ▸ take_prefix 12 bytes)
        dsimp only at htake
        rw [if_neg (by omega), bind_eq_ok] at htake
        obtain ⟨message, hopened, -⟩ := htake
        have whole : takeFrame checksum bytes = .ok (some (message, bytes.drop total)) := by
          rw [takeFrame_eq checksum hlen, hlengths]
          simp only [bind, Except.bind, if_neg (show ¬ bytes.length < total by omega), hopened]
          rfl
        obtain ⟨frame, heq, -⟩ := takeFrame_eq_some.mp whole
        exact no_frame frame _ heq

/-! ## Streams -/

theorem reads_encodeAll (checksum : List UInt8 → UInt32) (stream : List Frame)
    (tail : List UInt8) :
    (frames checksum).Reads (encodeAll checksum stream ++ tail) (stream.map Frame.message) tail := by
  induction stream with
  | nil => exact .done tail
  | cons frame stream ih =>
      have hcons : encodeAll checksum (frame :: stream) ++ tail =
          frame.encode checksum ++ (encodeAll checksum stream ++ tail) := by simp [encodeAll]
      rw [hcons]
      exact .item (takeFrame_eq_some.mpr ⟨frame, rfl, rfl⟩) ih

theorem encodeAll_of_reads {messages : List Message}
    (h : (frames checksum).Reads bytes messages tail) :
    ∃ stream : List Frame, bytes = encodeAll checksum stream ++ tail ∧
      messages = stream.map Frame.message := by
  induction h with
  | done bytes => exact ⟨[], rfl, rfl⟩
  | item head _ ih =>
      obtain ⟨frame, rfl, rfl⟩ := takeFrame_eq_some.mp head
      obtain ⟨stream, rfl, rfl⟩ := ih
      exact ⟨frame :: stream, by simp [encodeAll], rfl⟩

/-- No bad frame has come to light in the bytes. -/
def Sound (checksum : List UInt8 → UInt32) (bytes : List UInt8) : Prop :=
  ∀ (stream : List Frame) (tail : List UInt8), bytes = encodeAll checksum stream ++ tail →
    ¬ ComesToLight checksum tail

theorem sound_iff :
    Sound checksum bytes ↔ ((frames checksum).drain bytes).error = none := by
  obtain ⟨reads, verdict⟩ := (frames checksum).reads_drain bytes
  constructor
  · intro sound
    cases herror : ((frames checksum).drain bytes).error with
    | none => rfl
    | some failure =>
        rw [herror] at verdict
        obtain ⟨stream, hbytes, -⟩ := encodeAll_of_reads reads
        exact absurd (takeFrame_eq_error.mp ⟨failure, verdict⟩) (sound stream _ hbytes)
  · rintro herror stream tail rfl light
    obtain ⟨failure, bad⟩ := takeFrame_eq_error.mpr light
    rw [(reads_encodeAll checksum stream tail).drain_of_bad bad] at herror
    cases herror

theorem Sound.of_append (h : Sound checksum (bytes ++ more)) :
    Sound checksum bytes := by
  rw [sound_iff] at h ⊢
  cases herror : ((frames checksum).drain bytes).error with
  | none => rfl
  | some failure =>
      rw [Decoder.drain_append_of_bad more herror] at h
      cases h

/-- The chunks that arrive before the one in which a bad frame comes to light; all of them
    when none does. -/
def Taken (checksum : List UInt8 → UInt32) (chunks taken : List (List UInt8)) : Prop :=
  Sound checksum taken.flatten ∧
    (taken = chunks ∨ ∃ chunk after, chunks = taken ++ chunk :: after ∧
      ¬ Sound checksum (taken ++ [chunk]).flatten)

theorem Taken.le (h : Taken checksum chunks taken) (h' : Taken checksum chunks taken') :
    taken'.length ≤ taken.length := by
  obtain ⟨-, rfl | ⟨chunk, after, hchunks, light⟩⟩ := h
  · obtain ⟨-, rfl | ⟨_, _, rfl, -⟩⟩ := h'
    · exact Nat.le_refl _
    · simp
  · by_contra hlt
    have more : taken ++ [chunk] <+: taken' := by
      have hone : taken ++ [chunk] <+: chunks := ⟨after, by simp [hchunks]⟩
      have htwo : taken' <+: chunks := by
        obtain ⟨-, rfl | ⟨chunk', after', rfl, -⟩⟩ := h'
        · exact prefix_refl _
        · exact prefix_append _ _
      exact prefix_of_prefix_length_le hone htwo (by simp; omega)
    obtain ⟨rest, rfl⟩ := more
    have sound := h'.1
    rw [flatten_append] at sound
    exact light sound.of_append

theorem Taken.unique (h : Taken checksum chunks taken) (h' : Taken checksum chunks taken') :
    taken = taken' := by
  have prefixed : ∀ {t}, Taken checksum chunks t → t <+: chunks := by
    rintro t ⟨-, rfl | ⟨_, _, rfl, -⟩⟩
    · exact prefix_refl _
    · exact prefix_append _ _
  have one := prefix_of_prefix_length_le (prefixed h) (prefixed h') (h'.le h)
  exact one.eq_of_length (Nat.le_antisymm (h'.le h) (h.le h'))

theorem deliver_of_bad {failure : Failure} (chunks : List (List UInt8))
    (h : ((frames checksum).drain (buffer ++ chunk)).error = some failure) :
    deliver checksum buffer (chunk :: chunks) =
      ⟨[], some failure, ((frames checksum).drain (buffer ++ chunk)).rest⟩ := by
  simp [deliver, push, h]

theorem deliver_of_ok (chunks : List (List UInt8))
    (h : ((frames checksum).drain (buffer ++ chunk)).error = none) :
    deliver checksum buffer (chunk :: chunks) =
      ⟨((frames checksum).drain (buffer ++ chunk)).items ++
          (deliver checksum ((frames checksum).drain (buffer ++ chunk)).rest chunks).frames,
        (deliver checksum ((frames checksum).drain (buffer ++ chunk)).rest chunks).failure,
        (deliver checksum ((frames checksum).drain (buffer ++ chunk)).rest chunks).buffer⟩ := by
  simp [deliver, push, h]

/-- The loop hands on what the chunks taken hold, and ends with the chunk after them. -/
theorem deliver_spec :
    ∀ {seen : List UInt8} {delivery : Delivery}, Sound checksum seen →
      deliver checksum ((frames checksum).drain seen).rest chunks = delivery →
      ∃ taken, Sound checksum (seen ++ taken.flatten) ∧
        ((frames checksum).drain (seen ++ taken.flatten)).items =
          ((frames checksum).drain seen).items ++ delivery.frames ∧
        ((taken = chunks ∧ delivery.failure = none ∧
            delivery.buffer = ((frames checksum).drain (seen ++ taken.flatten)).rest) ∨
          ∃ chunk after, chunks = taken ++ chunk :: after ∧
            ¬ Sound checksum (seen ++ (taken ++ [chunk]).flatten) ∧
            delivery.failure =
              ((frames checksum).drain (seen ++ (taken ++ [chunk]).flatten)).error) := by
  induction chunks with
  | nil =>
      rintro seen delivery sound rfl
      refine ⟨[], by simpa using sound, by simp [deliver], .inl ⟨rfl, rfl, ?_⟩⟩
      simp [deliver]
  | cons chunk chunks ih =>
      intro seen delivery sound hdelivery
      have onward := (frames checksum).drain_append seen chunk
      cases herror : ((frames checksum).drain
          (((frames checksum).drain seen).rest ++ chunk)).error with
      | some failure =>
          rw [deliver_of_bad chunks herror] at hdelivery
          subst hdelivery
          refine ⟨[], by simpa using sound, by simp, .inr ⟨chunk, chunks, rfl, ?_, ?_⟩⟩
          · simp [sound_iff, onward, Drained.after, herror]
          · simp [onward, Drained.after, herror]
      | none =>
          rw [deliver_of_ok chunks herror] at hdelivery
          have next : Sound checksum (seen ++ chunk) := by
            simp [sound_iff, onward, Drained.after, herror]
          have hrest : ((frames checksum).drain (seen ++ chunk)).rest =
              ((frames checksum).drain (((frames checksum).drain seen).rest ++ chunk)).rest := by
            rw [onward]
            rfl
          have hitems : ((frames checksum).drain (seen ++ chunk)).items =
              ((frames checksum).drain seen).items ++
                ((frames checksum).drain (((frames checksum).drain seen).rest ++ chunk)).items := by
            rw [onward]
            rfl
          obtain ⟨taken, later, htaken, hend⟩ := ih next rfl
          rw [hrest] at htaken hend
          subst hdelivery
          have hcat : ∀ pieces : List (List UInt8),
              seen ++ chunk ++ pieces.flatten = seen ++ (chunk :: pieces).flatten := by simp
          simp only [hcat] at later htaken hend
          refine ⟨chunk :: taken, later, ?_, ?_⟩
          · rw [htaken, hitems, append_assoc]
          · rcases hend with ⟨rfl, hfailure, hbuffer⟩ | ⟨bad, after, rfl, light, hfailure⟩
            · exact .inl ⟨rfl, hfailure, hbuffer⟩
            · exact .inr ⟨bad, after, rfl, light, hfailure⟩

theorem drain_nil (checksum : List UInt8 → UInt32) :
    (frames checksum).drain [] = ⟨[], [], none⟩ := rfl

/-- The same of a decoder fed from the start of the stream. -/
theorem deliver_from_start (checksum : List UInt8 → UInt32) (chunks : List (List UInt8)) :
    ∃ taken, Taken checksum chunks taken ∧
      (deliver checksum [] chunks).frames = ((frames checksum).drain taken.flatten).items ∧
      ((taken = chunks ∧ (deliver checksum [] chunks).failure = none ∧
          (deliver checksum [] chunks).buffer = ((frames checksum).drain taken.flatten).rest) ∨
        ∃ chunk after, chunks = taken ++ chunk :: after ∧
          (deliver checksum [] chunks).failure =
            ((frames checksum).drain (taken ++ [chunk]).flatten).error) := by
  have start : Sound checksum [] := by rw [sound_iff, drain_nil]
  obtain ⟨taken, sound, hitems, hend⟩ := deliver_spec start (rfl : deliver checksum
    ((frames checksum).drain []).rest chunks = deliver checksum [] chunks)
  simp only [drain_nil, nil_append] at sound hitems hend
  refine ⟨taken, ?_, hitems.symm, ?_⟩
  · rcases hend with ⟨rfl, -, -⟩ | ⟨chunk, after, hchunks, light, -⟩
    · exact ⟨sound, .inl rfl⟩
    · exact ⟨sound, .inr ⟨chunk, after, hchunks, light⟩⟩
  · rcases hend with whole | ⟨chunk, after, hchunks, -, hfailure⟩
    · exact .inl whole
    · exact .inr ⟨chunk, after, hchunks, hfailure⟩

theorem drain_ne_panicked (checksum : List UInt8 → UInt32) (bytes : List UInt8) :
    ((frames checksum).drain bytes).error ≠ some .panicked := by
  intro herror
  have verdict := ((frames checksum).reads_drain bytes).2
  rw [herror] at verdict
  exact takeFrame_ne_panicked checksum _ verdict

theorem deliver_ne_panicked (checksum : List UInt8 → UInt32) (chunks : List (List UInt8)) :
    (deliver checksum [] chunks).failure ≠ some .panicked := by
  obtain ⟨taken, -, -, ⟨-, hfailure, -⟩ | ⟨chunk, _, -, hfailure⟩⟩ := deliver_from_start checksum chunks
  · rw [hfailure]
    nofun
  · rw [hfailure]
    exact drain_ne_panicked checksum _

/-- The conforming frames at the head of the bytes, up to a head that is none. -/
def Leading (checksum : List UInt8 → UInt32) (bytes : List UInt8) (stream : List Frame)
    (tail : List UInt8) : Prop :=
  bytes = encodeAll checksum stream ++ tail ∧ (∀ frame ∈ stream, frame.Conforming) ∧
    ∀ (frame : Frame) (rest : List UInt8), frame.Conforming → tail ≠ frame.encode checksum ++ rest

theorem exists_leading (checksum : List UInt8 → UInt32) (bytes : List UInt8) :
    ∃ stream tail, Leading checksum bytes stream tail := by
  induction hn : bytes.length using Nat.strong_induction_on generalizing bytes with
  | _ n ih =>
      subst hn
      by_cases hframe : ∃ (frame : Frame) (rest : List UInt8),
          frame.Conforming ∧ bytes = frame.encode checksum ++ rest
      · obtain ⟨frame, rest, conforming, rfl⟩ := hframe
        have hlength := frame.length_encode checksum
        have : frameOverheadBytes = 16 := rfl
        have hshort : rest.length < (frame.encode checksum ++ rest).length := by
          rw [length_append, hlength, Frame.totalLength]
          omega
        obtain ⟨stream, tail, rfl, conform, last⟩ := ih _ hshort rest rfl
        refine ⟨frame :: stream, tail, by simp [encodeAll], ?_, last⟩
        intro other hother
        rcases mem_cons.mp hother with rfl | hother
        · exact conforming
        · exact conform other hother
      · exact ⟨[], bytes, rfl, by simp, fun frame rest conforming heq =>
          hframe ⟨frame, rest, conforming, heq⟩⟩

/-- Of the bytes that arrive ahead of the chunk in which a bad frame comes to light: they
    hold the frames whole, and behind them no whole frame over the payload ceiling. -/
def Timely (checksum : List UInt8 → UInt32) (chunks : List (List UInt8)) (stream : List Frame) :
    Prop :=
  ∀ taken, Taken checksum chunks taken →
    encodeAll checksum stream <+: taken.flatten ∧
      ∀ (frame : Frame) (rest : List UInt8),
        taken.flatten = encodeAll checksum stream ++ (frame.encode checksum ++ rest) →
          frame.Conforming

theorem Taken.prefix (h : Taken checksum chunks taken) : taken <+: chunks := by
  obtain ⟨-, rfl | ⟨_, _, rfl, -⟩⟩ := h
  · exact prefix_refl _
  · exact prefix_append _ _

/-- What is kept back from sound bytes has no frame at its head. -/
theorem Sound.waits (h : Sound checksum bytes) :
    takeFrame checksum ((frames checksum).drain bytes).rest = .ok none := by
  have verdict := ((frames checksum).reads_drain bytes).2
  rw [sound_iff.mp h] at verdict
  exact verdict

/-- The messages of sound bytes are those of the frames at their head exactly when those
    are there whole and no further frame is. -/
theorem items_eq_iff {stream : List Frame} (sound : Sound checksum bytes)
    (whole : bytes ++ more = encodeAll checksum stream ++ tail) :
    ((frames checksum).drain bytes).items = stream.map Frame.message ↔
      encodeAll checksum stream <+: bytes ∧ ∀ (frame : Frame) (rest : List UInt8),
        bytes ≠ encodeAll checksum stream ++ (frame.encode checksum ++ rest) := by
  have reads := ((frames checksum).reads_drain bytes).1
  have waits := sound.waits
  constructor
  · intro hitems
    have full := reads_encodeAll checksum stream tail
    rw [← whole] at full
    obtain ⟨later, hlater, onward⟩ := (reads.append more).split full (by simp [hitems])
    have hnil : later = [] := by simpa [hitems] using hlater
    subst hnil
    cases onward
    rw [← append_assoc] at whole
    have hbytes := append_cancel_right whole
    refine ⟨⟨_, hbytes.symm⟩, ?_⟩
    intro frame rest heq
    rw [hbytes] at heq
    rw [append_cancel_left heq, takeFrame_eq_some.mpr ⟨frame, rfl, rfl⟩] at waits
    cases waits
  · rintro ⟨⟨u, rfl⟩, no_frame⟩
    have mine := reads_encodeAll checksum stream u
    rcases Nat.le_total (stream.map Frame.message).length
      ((frames checksum).drain (encodeAll checksum stream ++ u)).items.length with hle | hle
    · obtain ⟨later, hlater, onward⟩ := mine.split reads hle
      rcases onward.nil_or_head with rfl | ⟨message, rest, head⟩
      · simpa using hlater
      · obtain ⟨frame, rfl, -⟩ := takeFrame_eq_some.mp head
        exact absurd rfl (no_frame frame _)
    · obtain ⟨later, hlater, onward⟩ := reads.split mine hle
      rcases onward.nil_or_head with rfl | ⟨message, rest, head⟩
      · simpa using hlater.symm
      · have : takeFrame checksum _ = _ := head
        rw [waits] at this
        cases this

/-- However the network cuts a byte string, no index is out of range, and the frames
    handed on are those before the first bad one, none over the payload ceiling, exactly
    when they are in time; of a string of whole frames every one is, and nothing is left
    in the buffer. -/
theorem delivered_iff_timely (checksum : List UInt8 → UInt32) (chunks : List (List UInt8)) :
    (deliver checksum [] chunks).failure ≠ some .panicked ∧
      (∃ stream tail, Leading checksum chunks.flatten stream tail) ∧
      ∀ stream tail, Leading checksum chunks.flatten stream tail →
        (((deliver checksum [] chunks).frames = stream.map Frame.message ∧
            ∀ message ∈ (deliver checksum [] chunks).frames,
              message.payload.length ≤ maxPayloadBytes) ↔ Timely checksum chunks stream) ∧
        (tail = [] → deliver checksum [] chunks = ⟨stream.map Frame.message, none, []⟩ ∧
          hasPartialFrame (deliver checksum [] chunks).buffer = false) := by
  refine ⟨deliver_ne_panicked checksum chunks, exists_leading checksum _, ?_⟩
  rintro stream tail ⟨hbytes, conforming, last⟩
  obtain ⟨taken, htaken, hframes, hend⟩ := deliver_from_start checksum chunks
  obtain ⟨more, hmore⟩ := htaken.prefix
  have hflat : taken.flatten ++ more.flatten = encodeAll checksum stream ++ tail := by
    rw [← List.flatten_append, hmore, hbytes]
  have hiff := items_eq_iff htaken.1 hflat
  refine ⟨⟨?_, ?_⟩, ?_⟩
  · rintro ⟨hmessages, -⟩ taken' htaken'
    rw [htaken'.unique htaken]
    rw [hframes] at hmessages
    obtain ⟨held, no_frame⟩ := hiff.mp hmessages
    exact ⟨held, fun frame rest heq => absurd heq (no_frame frame rest)⟩
  · intro timely
    obtain ⟨held, small⟩ := timely taken htaken
    have hmessages : (deliver checksum [] chunks).frames = stream.map Frame.message := by
      rw [hframes, hiff]
      refine ⟨held, ?_⟩
      intro frame rest heq
      apply last frame (rest ++ more.flatten) (small frame rest heq)
      rw [heq, List.append_assoc, List.append_assoc] at hflat
      exact (List.append_cancel_left hflat).symm
    refine ⟨hmessages, ?_⟩
    rw [hmessages]
    intro message hmem
    obtain ⟨frame, hframe, rfl⟩ := List.mem_map.mp hmem
    exact conforming frame hframe
  · rintro rfl
    have whole : (frames checksum).drain chunks.flatten =
        ⟨stream.map Frame.message, [], none⟩ := by
      rw [hbytes]
      exact (reads_encodeAll checksum stream []).drain_of_wait rfl
    have sound : Sound checksum chunks.flatten := by rw [sound_iff, whole]
    have all : Taken checksum chunks chunks := ⟨sound, .inl rfl⟩
    have hall := htaken.unique all
    subst hall
    rcases hend with ⟨-, hfailure, hbuffer⟩ | ⟨chunk, after, hchunks, -⟩
    · rw [whole] at hframes hbuffer
      cases hdelivery : deliver checksum [] taken with
      | mk delivered failure buffer =>
          rw [hdelivery] at hframes hfailure hbuffer
          subst hframes hfailure hbuffer
          exact ⟨rfl, rfl⟩
    · simp at hchunks

/-- A chunk event without headers. -/
def chunkFrame : Frame where
  entries := []
  payload := [123, 125]
  headersFit := by decide
  frameFits := by decide +kernel

/-- Twelve bytes no prelude reads as. -/
def garbage : List UInt8 := List.replicate 12 0

theorem garbage_refused : ∃ failure, takeFrame crc32 garbage = .error failure :=
  ⟨.refused (.preludeChecksum 0 1696784233), by decide +kernel⟩

/-- A whole frame that arrives in the chunk of a corrupt one is lost, where the same bytes
    in two chunks deliver it. -/
theorem a_frame_is_lost_with_a_corrupt_one :
    ∃ stream tail, Leading crc32 (chunkFrame.encode crc32 ++ garbage) stream tail ∧
      (deliver crc32 [] [chunkFrame.encode crc32 ++ garbage]).frames ≠
        stream.map Frame.message ∧
      (deliver crc32 [] [chunkFrame.encode crc32, garbage]).frames =
        stream.map Frame.message := by
  refine ⟨[chunkFrame], garbage, ⟨by simp [encodeAll], ?_, ?_⟩, ?_, ?_⟩
  · intro frame hframe
    rw [List.mem_singleton.mp hframe]
    exact (by decide : (2 : Nat) ≤ maxPayloadBytes)
  · intro frame rest _ heq
    obtain ⟨failure, refused⟩ := garbage_refused
    rw [heq, takeFrame_eq_some.mpr ⟨frame, rfl, rfl⟩] at refused
    cases refused
  · decide +kernel
  · decide +kernel

end ZeroRouter.Wire.EventStream
