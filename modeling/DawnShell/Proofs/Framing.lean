/-
Module: DawnShell.Proofs.Framing
Layer: Proofs
Purpose: Exactness of the DSCB framing.  Both headers are the same eight big-endian fields, so each
  builder is a `BigEndian.encodeFields` layout and each checker reads that layout back.  The round
  trips and their converses follow from the two inverse laws of the layout.
Trusted boundary: none
Main exports: Framing.makeRequestHeader_eq, Framing.writeResponseHeader_eq,
  Framing.framingAccepts_request, Framing.parseResponse_response, Framing.framing_agreement
-/
import DawnShell.Codec.Wire
import Mathlib.Data.Nat.Bitwise

namespace DawnShell.Framing

open Wire

/-! ### The accessors as big-endian fields -/

/-- Widths of the eight header fields, in order. -/
def headerWidths : List Nat := [4, 2, 2, 4, 8, 4, 4, 4]

/-- The eight header values behind both headers; the last one is the reserved word of a request and
the status of a response. -/
def headerLayout (type : UInt16) (sessionId : UInt64) (payloadLength requestId last : UInt32) :
    List (Nat × Nat) :=
  [(4, dscbMagic.toNat), (2, dscbVersion.toNat), (2, type.toNat), (4, 0), (8, sessionId.toNat),
    (4, payloadLength.toNat), (4, requestId.toNat), (4, last.toNat)]

/-- The value of a short is that of its two bytes from the highest on. -/
theorem getU16_toNat (source : Bytes) (offset : Nat) :
    (getU16 source offset).toNat = BigEndian.decode ((source.drop offset).take 2) := by
  have bound := BigEndian.decode_lt ((source.drop offset).take 2)
  have short : ((source.drop offset).take 2).length ≤ 2 := List.length_take_le _ _
  have small : 256 ^ ((source.drop offset).take 2).length ≤ 256 ^ 2 :=
    Nat.pow_le_pow_right (by decide) short
  rw [getU16, UInt16.toNat_ofNat']
  exact Nat.mod_eq_of_lt (by omega)

/-- The value of a word is that of its four bytes from the highest on. -/
theorem getU32_toNat (source : Bytes) (offset : Nat) :
    (getU32 source offset).toNat = BigEndian.decode ((source.drop offset).take 4) := by
  have bound := BigEndian.decode_lt ((source.drop offset).take 4)
  have short : ((source.drop offset).take 4).length ≤ 4 := List.length_take_le _ _
  have small : 256 ^ ((source.drop offset).take 4).length ≤ 256 ^ 4 :=
    Nat.pow_le_pow_right (by decide) short
  rw [getU32, UInt32.toNat_ofNat']
  exact Nat.mod_eq_of_lt (by omega)

/-- The shift-and-or of two words is the number their eight bytes denote from the highest on, as the
client and the worker write it. -/
theorem getU64_toNat {source : Bytes} {offset : Nat} (long : offset + 8 ≤ source.length) :
    (getU64 source offset).toNat = BigEndian.decode ((source.drop offset).take 8) := by
  have high : (getU32 source offset).toNat < 2 ^ 32 := (getU32 source offset).toNat_lt
  have low : (getU32 source (offset + 4)).toNat < 2 ^ 32 := (getU32 source (offset + 4)).toNat_lt
  have lowLength : ((source.drop (offset + 4)).take 4).length = 4 := by
    rw [List.length_take, List.length_drop]
    omega
  have split : (source.drop offset).take 8
      = (source.drop offset).take 4 ++ (source.drop (offset + 4)).take 4 := by
    rw [show 8 = 4 + 4 from rfl, List.take_add, List.drop_drop]
  have shifted : (getU32 source offset).toNat <<< 32 % 2 ^ 64
      = (getU32 source offset).toNat <<< 32 := by
    apply Nat.mod_eq_of_lt
    rw [Nat.shiftLeft_eq]
    omega
  rw [getU64, UInt64.toNat_or, UInt64.toNat_shiftLeft, split, BigEndian.decode_append, lowLength,
    ← getU32_toNat, ← getU32_toNat]
  simp only [UInt32.toNat_toUInt64, UInt64.reduceToNat, Nat.reduceMod]
  rw [shifted, ← Nat.shiftLeft_add_eq_or_of_lt low, Nat.shiftLeft_eq]
  norm_num

/-- The accessors at the header offsets read the eight fields in order. -/
theorem headerFields {bytes : Bytes} (long : 32 ≤ bytes.length) :
    BigEndian.fields headerWidths bytes =
      [(getU32 bytes 0).toNat, (getU16 bytes 4).toNat, (getU16 bytes 6).toNat,
        (getU32 bytes 8).toNat, (getU64 bytes 12).toNat, (getU32 bytes 20).toNat,
        (getU32 bytes 24).toNat, (getU32 bytes 28).toNat] := by
  simp [headerWidths, BigEndian.fields, getU16_toNat, getU32_toNat,
    getU64_toNat (show 12 + 8 ≤ bytes.length by omega), List.drop_drop]

/-- `put_u64` writes the eight bytes of its value. -/
theorem putU64_bytes (value : UInt64) :
    BigEndian.encode 4 (value >>> 32).toUInt32.toNat ++ BigEndian.encode 4 value.toUInt32.toNat
      = BigEndian.encode 8 value.toNat := by
  have high : (value >>> 32).toUInt32.toNat = value.toNat / 256 ^ 4 % 256 ^ 4 := by
    simp [UInt64.toNat_toUInt32, UInt64.toNat_shiftRight, Nat.shiftRight_eq_div_pow]
  have low : value.toUInt32.toNat = value.toNat % 256 ^ 4 := by
    simp [UInt64.toNat_toUInt32]
  rw [high, low, BigEndian.encode_mod, BigEndian.encode_mod, ← BigEndian.encode_add]

/-- A request header is the encoding of its fields in the order of the protocol. -/
theorem makeRequestHeader_eq (type : UInt16) (sessionId : UInt64)
    (payloadLength requestId : UInt32) :
    makeRequestHeader type sessionId payloadLength requestId =
      BigEndian.encodeFields (headerLayout type sessionId payloadLength requestId 0) := by
  simp only [headerLayout, BigEndian.encodeFields, ← putU64_bytes]
  rfl

/-- A response header has the same fields, with the response bit in its type and the status at its end.
-/
theorem writeResponseHeader_eq (type : UInt16) (sessionId : UInt64)
    (payloadLength requestId : UInt32) (status : Int32) :
    writeResponseHeader type sessionId payloadLength requestId status =
      BigEndian.encodeFields
        (headerLayout (type ||| dscbResponseBit) sessionId payloadLength requestId
          status.toUInt32) := by
  simp only [headerLayout, BigEndian.encodeFields, ← putU64_bytes]
  rfl

/-- A request header has 32 bytes, whatever its fields are. -/
@[simp] theorem length_makeRequestHeader (type : UInt16) (sessionId : UInt64)
    (payloadLength requestId : UInt32) :
    (makeRequestHeader type sessionId payloadLength requestId).length = 32 := by
  rw [makeRequestHeader_eq, BigEndian.length_encodeFields]
  rfl

/-- A response header has 32 bytes, whatever its fields are. -/
@[simp] theorem length_writeResponseHeader (type : UInt16) (sessionId : UInt64)
    (payloadLength requestId : UInt32) (status : Int32) :
    (writeResponseHeader type sessionId payloadLength requestId status).length = 32 := by
  rw [writeResponseHeader_eq, BigEndian.length_encodeFields]
  rfl

/-! ### Reading a layout and laying out what was read -/

/-- What the accessors return on a laid-out header followed by anything. -/
structure HeaderReads (bytes : Bytes) (type : UInt16) (sessionId : UInt64)
    (payloadLength requestId last : UInt32) : Prop where
  magic : getU32 bytes 0 = dscbMagic
  version : getU16 bytes 4 = dscbVersion
  type : getU16 bytes 6 = type
  flags : getU32 bytes 8 = 0
  sessionId : getU64 bytes 12 = sessionId
  payloadLength : getU32 bytes 20 = payloadLength
  requestId : getU32 bytes 24 = requestId
  last : getU32 bytes 28 = last

/-- Each field of a header is read back from its place, whatever follows the header. -/
theorem headerReads_layout (type : UInt16) (sessionId : UInt64)
    (payloadLength requestId last : UInt32) (tail : Bytes) :
    HeaderReads
      (BigEndian.encodeFields (headerLayout type sessionId payloadLength requestId last) ++ tail)
      type sessionId payloadLength requestId last := by
  have fits : ∀ field ∈ headerLayout type sessionId payloadLength requestId last,
      field.2 < 256 ^ field.1 := by
    simp only [headerLayout, List.forall_mem_cons]
    exact ⟨dscbMagic.toNat_lt, dscbVersion.toNat_lt, type.toNat_lt, by decide, sessionId.toNat_lt,
      payloadLength.toNat_lt, requestId.toNat_lt, last.toNat_lt, by simp⟩
  have long : 32 ≤ (BigEndian.encodeFields
      (headerLayout type sessionId payloadLength requestId last) ++ tail).length := by
    rw [List.length_append, BigEndian.length_encodeFields]
    exact Nat.le_add_right 32 _
  have read := BigEndian.fields_encodeFields fits tail
  have widths : (headerLayout type sessionId payloadLength requestId last).map Prod.fst
      = headerWidths := rfl
  rw [widths, headerFields long] at read
  simp only [headerLayout, List.map_cons, List.map_nil, List.cons.injEq, and_true] at read
  obtain ⟨magic, version, kind, flags, session, length, request, final⟩ := read
  exact ⟨UInt32.toNat_inj.mp magic, UInt16.toNat_inj.mp version, UInt16.toNat_inj.mp kind,
    UInt32.toNat_inj.mp flags, UInt64.toNat_inj.mp session, UInt32.toNat_inj.mp length,
    UInt32.toNat_inj.mp request, UInt32.toNat_inj.mp final⟩

/-- A header whose magic, version and flags are right is the layout of its other fields. -/
theorem take_eq_layout {bytes : Bytes} (long : 32 ≤ bytes.length)
    (magic : getU32 bytes 0 = dscbMagic) (version : getU16 bytes 4 = dscbVersion)
    (flags : getU32 bytes 8 = 0) :
    bytes.take 32 = BigEndian.encodeFields
      (headerLayout (getU16 bytes 6) (getU64 bytes 12) (getU32 bytes 20) (getU32 bytes 24)
        (getU32 bytes 28)) := by
  have laid := BigEndian.encodeFields_fields (show headerWidths.sum ≤ bytes.length from long)
  rw [headerFields long, magic, version, flags] at laid
  exact laid.symm

/-! ### Requests -/

theorem dscwMaxPayload_toNat : dscwMaxPayload.toNat = 8388608 := rfl

/-- The length of a payload that fits is not changed by its 32 bits. -/
theorem toNat_ofNat_length {payload : Bytes} (short : payload.length ≤ dscwMaxPayload.toNat) :
    (UInt32.ofNat payload.length).toNat = payload.length := by
  rw [dscwMaxPayload_toNat] at short
  rw [UInt32.toNat_ofNat']
  exact Nat.mod_eq_of_lt (by omega)

/-- The header length plus a bounded payload length does not wrap. -/
theorem headerBytes_add_toNat {length : UInt32} (short : ¬dscwMaxPayload < length) :
    (dscwProtocolHeaderBytes + length).toNat = 32 + length.toNat := by
  rw [UInt32.lt_iff_toNat_lt, dscwMaxPayload_toNat] at short
  rw [UInt32.toNat_add, show dscwProtocolHeaderBytes.toNat = 32 from rfl]
  exact Nat.mod_eq_of_lt (by omega)

/-- A request the client builds decodes to the fields it was built from. -/
theorem decodeRequestHeader_requestFrame (type : UInt16) (sessionId : UInt64) (requestId : UInt32)
    (payload : Bytes) :
    decodeRequestHeader (requestFrame type sessionId requestId payload) =
      { magic := dscbMagic, version := dscbVersion, type := type, flags := 0,
        sessionId := sessionId, payloadLength := UInt32.ofNat payload.length,
        requestId := requestId, reserved := 0 } := by
  have reads := headerReads_layout type sessionId (UInt32.ofNat payload.length) requestId 0 payload
  rw [← makeRequestHeader_eq] at reads
  obtain ⟨magic, version, kind, flags, session, length, request, reserved⟩ := reads
  simp only [decodeRequestHeader, requestFrame, magic, version, kind, flags, session, length,
    request, reserved]

/-- A request frame is its header and its payload. -/
@[simp] theorem length_requestFrame (type : UInt16) (sessionId : UInt64) (requestId : UInt32)
    (payload : Bytes) :
    (requestFrame type sessionId requestId payload).length = 32 + payload.length := by
  simp [requestFrame]

/-- Behind its header a request frame is its payload. -/
theorem drop_requestFrame (type : UInt16) (sessionId : UInt64) (requestId : UInt32)
    (payload : Bytes) : (requestFrame type sessionId requestId payload).drop 32 = payload :=
  List.drop_left' (length_makeRequestHeader ..)

/-- The framing checks of the worker accept a frame exactly when its type has no response bit, its
request id is not zero and its payload is within the limit. -/
theorem framingAccepts_requestFrame_iff {type : UInt16} {sessionId : UInt64} {requestId : UInt32}
    {payload : Bytes} (short : payload.length ≤ dscwMaxPayload.toNat) :
    framingAccepts (requestFrame type sessionId requestId payload) = true ↔
      type &&& dscbResponseBit = 0 ∧ requestId ≠ 0 := by
  have fits : ¬dscwMaxPayload < UInt32.ofNat payload.length := by
    rw [UInt32.lt_iff_toNat_lt, toNat_ofNat_length short]
    omega
  have total := headerBytes_add_toNat fits
  rw [toNat_ofNat_length short] at total
  have header : ¬(32 + payload.length < dscwProtocolHeaderBytes.toNat) := by
    rw [show dscwProtocolHeaderBytes.toNat = 32 from rfl]
    omega
  simp [framingAccepts, decodeRequestHeader_requestFrame, RequestHeader.framingInvalid, fits, total,
    header]

/-- Only frames of the client's shape pass the framing checks: what the worker accepts is the frame of
its own type, session, id and payload. -/
theorem eq_requestFrame_of_framingAccepts {bytes : Bytes} (accepted : framingAccepts bytes = true) :
    (getU16 bytes 6) &&& dscbResponseBit = 0 ∧ getU32 bytes 24 ≠ 0 ∧
      (bytes.drop 32).length ≤ dscwMaxPayload.toNat ∧
      bytes = requestFrame (getU16 bytes 6) (getU64 bytes 12) (getU32 bytes 24)
        (bytes.drop 32) := by
  simp only [framingAccepts, decodeRequestHeader, RequestHeader.framingInvalid, Bool.and_eq_true,
    Bool.not_eq_true', Bool.or_eq_false_iff, bne_eq_false_iff_eq, beq_eq_false_iff_ne,
    decide_eq_false_iff_not] at accepted
  obtain ⟨_, ⟨⟨⟨⟨⟨⟨magic, version⟩, kind⟩, flags⟩, reserved⟩, request⟩, fits⟩, total⟩ := accepted
  replace fits := of_decide_eq_false fits
  rw [headerBytes_add_toNat fits] at total
  have long : 32 ≤ bytes.length := by omega
  have payloadLength : (bytes.drop 32).length = (getU32 bytes 20).toNat := by
    rw [List.length_drop]
    omega
  refine ⟨kind, request, ?_, ?_⟩
  · rw [payloadLength]
    exact Nat.le_of_not_lt fits
  · have layout := take_eq_layout long magic version flags
    rw [reserved, ← makeRequestHeader_eq] at layout
    rw [requestFrame, payloadLength, UInt32.ofNat_toNat, ← layout, List.take_append_drop]

/-! ### Responses -/

/-- The response a frame of the worker denotes. -/
def responseOf (type : UInt16) (sessionId : UInt64) (requestId : UInt32) (status : Int32)
    (payload : Bytes) : Response where
  type := type ||| dscbResponseBit
  sessionId := sessionId
  requestId := requestId
  status := status
  payloadLength := UInt32.ofNat payload.length
  payload := payload

/-- Header fields a response header denotes, before its payload is copied; nothing that follows the
header in the slot matters. -/
theorem parseResponseHeader_writeResponseHeader (type : UInt16) (sessionId : UInt64)
    (requestId : UInt32) (status : Int32) {payload : Bytes}
    (short : payload.length ≤ dscwMaxPayload.toNat) (tail : Bytes) :
    parseResponseHeader
        (writeResponseHeader type sessionId (UInt32.ofNat payload.length) requestId status ++ tail)
        (dscwProtocolHeaderBytes + UInt32.ofNat payload.length) type requestId =
      some { responseOf type sessionId requestId status payload with payload := [] } := by
  have reads := headerReads_layout (type ||| dscbResponseBit) sessionId
    (UInt32.ofNat payload.length) requestId status.toUInt32 tail
  rw [← writeResponseHeader_eq] at reads
  obtain ⟨magic, version, kind, flags, session, length, request, final⟩ := reads
  have fits : ¬dscwMaxPayload < UInt32.ofNat payload.length := by
    rw [UInt32.lt_iff_toNat_lt, toNat_ofNat_length short]
    omega
  have long : ¬dscwProtocolHeaderBytes + UInt32.ofNat payload.length < dscwProtocolHeaderBytes := by
    rw [UInt32.lt_iff_toNat_lt, headerBytes_add_toNat fits,
      show dscwProtocolHeaderBytes.toNat = 32 from rfl]
    omega
  have signed : status.toUInt32.toInt32 = status := rfl
  simp [parseResponseHeader, magic, version, kind, flags, session, length, request, final, fits,
    long, responseOf, signed]

/-- A response the worker builds parses to the session, status and payload it was built from. -/
theorem parseResponse_responseFrame (type : UInt16) (sessionId : UInt64) (requestId : UInt32)
    (status : Int32) {payload : Bytes} (short : payload.length ≤ dscwMaxPayload.toNat) :
    parseResponse (responseFrame type sessionId requestId status payload)
        (dscwProtocolHeaderBytes + UInt32.ofNat payload.length) type requestId true =
      some (responseOf type sessionId requestId status payload) := by
  rw [parseResponse, responseFrame, parseResponseHeader_writeResponseHeader _ _ _ _ short]
  have dropped : (writeResponseHeader type sessionId (UInt32.ofNat payload.length) requestId status
      ++ payload).drop dscwProtocolHeaderBytes.toNat = payload :=
    List.drop_left' (length_writeResponseHeader ..)
  by_cases empty : payload = []
  · subst empty
    simp [responseOf]
  · have positive : 0 < payload.length := List.length_pos_iff.mpr empty
    have nonzero : 0 < UInt32.ofNat payload.length := by
      rw [UInt32.lt_iff_toNat_lt, toNat_ofNat_length short]
      exact positive
    simp [responseOf, nonzero, dropped, toNat_ofNat_length short]

/-- What a parsed header says about the bytes it was read from, field by field; the checks of the client
are the equations for those that it compares. -/
theorem parseResponseHeader_eq_some {bytes : Bytes} {responseBytes : UInt32} {type : UInt16}
    {requestId : UInt32} {parsed : Response}
    (found : parseResponseHeader bytes responseBytes type requestId = some parsed) :
    getU32 bytes 0 = dscbMagic ∧ getU16 bytes 4 = dscbVersion ∧
      getU16 bytes 6 = type ||| dscbResponseBit ∧ getU32 bytes 24 = requestId ∧
      getU32 bytes 8 = 0 ∧ ¬dscwMaxPayload < getU32 bytes 20 ∧
      responseBytes = dscwProtocolHeaderBytes + getU32 bytes 20 ∧
      parsed = { type := getU16 bytes 6, sessionId := getU64 bytes 12,
                 payloadLength := getU32 bytes 20, requestId := getU32 bytes 24,
                 status := (getU32 bytes 28).toInt32, payload := [] } := by
  unfold parseResponseHeader at found
  split at found
  · simp at found
  split at found
  · simp at found
  rename_i checked
  dsimp only at found
  split at found
  · simp at found
  rename_i sized
  simp only [Bool.or_eq_true, not_or, bne_iff_ne, ne_eq, not_not] at checked
  simp only [Bool.or_eq_true, not_or, bne_iff_ne, ne_eq, not_not, decide_eq_true_eq] at sized
  obtain ⟨⟨⟨⟨magic, version⟩, kind⟩, request⟩, flags⟩ := checked
  exact ⟨magic, version, kind, request, flags, sized.1, sized.2, (Option.some.inj found).symm⟩

/-- Only frames of the worker's shape are parsed: what the client accepts is the frame of the session,
status and payload that it returns. -/
theorem eq_responseFrame_of_parseResponse {bytes : Bytes} {responseBytes : UInt32} {type : UInt16}
    {requestId : UInt32} {mallocOk : Bool} {response : Response}
    (whole : bytes.length = responseBytes.toNat)
    (parsed : parseResponse bytes responseBytes type requestId mallocOk = some response) :
    (bytes.drop 32).length ≤ dscwMaxPayload.toNat ∧
      bytes = responseFrame type (getU64 bytes 12) requestId (getU32 bytes 28).toInt32
        (bytes.drop 32) ∧
      response = responseOf type (getU64 bytes 12) requestId (getU32 bytes 28).toInt32
        (bytes.drop 32) := by
  unfold parseResponse at parsed
  split at parsed
  · simp at parsed
  rename_i header found
  obtain ⟨magic, version, kind, request, flags, fits, total, rfl⟩ :=
    parseResponseHeader_eq_some found
  rw [total, headerBytes_add_toNat fits] at whole
  have long : 32 ≤ bytes.length := by omega
  have payloadLength : (bytes.drop 32).length = (getU32 bytes 20).toNat := by
    rw [List.length_drop]
    omega
  have layout := take_eq_layout long magic version flags
  have unsigned : getU32 bytes 28 = (getU32 bytes 28).toInt32.toUInt32 := rfl
  rw [kind, request, unsigned, ← writeResponseHeader_eq] at layout
  refine ⟨?_, ?_, ?_⟩
  · rw [payloadLength]
    exact Nat.le_of_not_lt fits
  · rw [responseFrame, payloadLength, UInt32.ofNat_toNat, ← layout, List.take_append_drop]
  · have copied : (bytes.drop dscwProtocolHeaderBytes.toNat).take (getU32 bytes 20).toNat
        = bytes.drop 32 := List.take_of_length_le (Nat.le_of_eq payloadLength)
    rw [copied, kind, request] at parsed
    rw [responseOf, payloadLength, UInt32.ofNat_toNat]
    split at parsed
    · split at parsed
      · exact (Option.some.inj parsed).symm
      · simp at parsed
    · rename_i zero
      have empty : (bytes.drop 32).length = 0 := by
        rw [payloadLength]
        have := UInt32.lt_iff_toNat_lt.not.mp zero
        simpa using this
      rw [List.eq_nil_of_length_eq_zero empty]
      exact (Option.some.inj parsed).symm

/-- The two programs agree on the DSCB framing, in both directions: what one builds the other
accepts and reads back unchanged, and neither accepts anything else. -/
theorem framing_agreement :
    (∀ (type : UInt16) (sessionId : UInt64) (requestId : UInt32) (payload : Bytes),
      type &&& dscbResponseBit = 0 → requestId ≠ 0 → payload.length ≤ dscwMaxPayload.toNat →
        let frame := makeRequestHeader type sessionId (UInt32.ofNat payload.length) requestId
          ++ payload
        framingAccepts frame = true ∧
          (decodeRequestHeader frame).type = type ∧
          (decodeRequestHeader frame).sessionId = sessionId ∧
          (decodeRequestHeader frame).requestId = requestId ∧
          (decodeRequestHeader frame).payloadLength.toNat = payload.length ∧
          frame.drop dscwProtocolHeaderBytes.toNat = payload) ∧
    (∀ (type : UInt16) (sessionId : UInt64) (requestId : UInt32) (status : Int32)
        (payload : Bytes),
      type &&& dscbResponseBit = 0 → payload.length ≤ dscwMaxPayload.toNat →
        parseResponse
            (writeResponseHeader type sessionId (UInt32.ofNat payload.length) requestId status
              ++ payload)
            (dscwProtocolHeaderBytes + UInt32.ofNat payload.length) type requestId true =
          some { type := type ||| dscbResponseBit, sessionId := sessionId, requestId := requestId,
                 status := status, payloadLength := UInt32.ofNat payload.length,
                 payload := payload }) ∧
    (∀ bytes : Bytes, framingAccepts bytes = true →
      ∃ (type : UInt16) (sessionId : UInt64) (requestId : UInt32) (payload : Bytes),
        type &&& dscbResponseBit = 0 ∧ requestId ≠ 0 ∧ payload.length ≤ dscwMaxPayload.toNat ∧
          bytes = makeRequestHeader type sessionId (UInt32.ofNat payload.length) requestId
            ++ payload) ∧
    (∀ (bytes : Bytes) (responseBytes : UInt32) (type : UInt16) (requestId : UInt32)
        (mallocOk : Bool) (response : Response),
      bytes.length = responseBytes.toNat →
        parseResponse bytes responseBytes type requestId mallocOk = some response →
        ∃ (sessionId : UInt64) (status : Int32) (payload : Bytes),
          payload.length ≤ dscwMaxPayload.toNat ∧
          bytes = writeResponseHeader type sessionId (UInt32.ofNat payload.length) requestId status
            ++ payload ∧
          response.sessionId = sessionId ∧ response.status = status ∧
          response.payload = payload) := by
  refine ⟨?_, ?_, ?_, ?_⟩
  · intro type sessionId requestId payload kind request short
    refine ⟨(framingAccepts_requestFrame_iff short).mpr ⟨kind, request⟩, ?_⟩
    have decoded := decodeRequestHeader_requestFrame type sessionId requestId payload
    unfold requestFrame at decoded
    rw [decoded]
    exact ⟨rfl, rfl, rfl, toNat_ofNat_length short,
      drop_requestFrame type sessionId requestId payload⟩
  · intro type sessionId requestId status payload _ short
    exact parseResponse_responseFrame type sessionId requestId status short
  · intro bytes accepted
    obtain ⟨kind, request, short, whole⟩ := eq_requestFrame_of_framingAccepts accepted
    exact ⟨_, _, _, _, kind, request, short, whole⟩
  · intro bytes responseBytes type requestId mallocOk response whole parsed
    obtain ⟨short, frame, rfl⟩ := eq_responseFrame_of_parseResponse whole parsed
    exact ⟨_, _, _, short, frame, rfl, rfl, rfl⟩

end DawnShell.Framing
