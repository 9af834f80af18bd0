/-
Module: DawnShell.Codec.Wire
Layer: Codec
Purpose: The DSCB framing shared by the codec client and the codec worker: the big-endian accessors,
  the request header the client builds, the response header the worker builds, and the two decoders
  that check them.
Trusted boundary: faithful model of dawnshell_codec_client.c:102-214,
  dawnshell_codec_worker.c:63-91, 310-330, 408-419 and dawnshell_codec_transport.h
Main exports: Wire.makeRequestHeader, Wire.framingAccepts, Wire.writeResponseHeader,
  Wire.parseResponse
-/
import DawnShell.Lib.BigEndian

namespace DawnShell.Wire

/-- Bytes as the C programs see them. -/
abbrev Bytes := List UInt8

/-! ### Constants of the transport and of the protocol -/

def dscbMagic : UInt32 := 0x44534342
def dscbVersion : UInt16 := 1
def dscbResponseBit : UInt16 := 0x8000
/-- `DSCB_ERROR_VERSION` of the client; the worker spells it `-2`. -/
def dscbErrorVersion : Int32 := -2
def dscwProtocolHeaderBytes : UInt32 := 32
def dscwMaxPayload : UInt32 := 8 * 1024 * 1024
def dscwSlotBytes : UInt32 := dscwProtocolHeaderBytes + dscwMaxPayload

/-! ### Status codes -/

def codecOk : Int32 := 0
def codecAgain : Int32 := 1
def codecFormatChanged : Int32 := 2
def codecErrorProtocol : Int32 := -1
def codecErrorUnsupported : Int32 := -4
def codecErrorLimit : Int32 := -5
def codecErrorCodec : Int32 := -6
def codecErrorSession : Int32 := -7
def codecErrorIo : Int32 := -8

/-- The fourteen message types of protocol version 1. -/
inductive MessageType where
  | hello
  | capabilities
  | create
  | input
  | output
  | flush
  | eos
  | close
  | inputSharedMemory
  | outputSharedMemory
  | createTranscoder
  | requestKeyframe
  | health
  | sessionStats
deriving DecidableEq, Repr

/-- The number a message type carries on the wire. -/
def MessageType.code : MessageType → UInt16
  | .hello => 1
  | .capabilities => 2
  | .create => 3
  | .input => 4
  | .output => 5
  | .flush => 6
  | .eos => 7
  | .close => 8
  | .inputSharedMemory => 9
  | .outputSharedMemory => 10
  | .createTranscoder => 11
  | .requestKeyframe => 12
  | .health => 13
  | .sessionStats => 14

/-- The `case` label a wire number selects; `none` is the `default` label. -/
def MessageType.ofCode? (code : UInt16) : Option MessageType :=
  [.hello, .capabilities, .create, .input, .output, .flush, .eos, .close, .inputSharedMemory,
    .outputSharedMemory, .createTranscoder, .requestKeyframe, .health, .sessionStats].find?
    (fun type => type.code == code)

@[simp] theorem MessageType.ofCode?_code (type : MessageType) :
    MessageType.ofCode? type.code = some type := by
  cases type <;> rfl

/-- No defined message type has the response bit. -/
theorem MessageType.code_and_responseBit (type : MessageType) :
    type.code &&& dscbResponseBit = 0 := by
  cases type <;> rfl

/-! ### Big-endian accessors -/

/-- `memcpy` of `data` over `buffer` at an offset. -/
def overwrite (buffer : Bytes) (offset : Nat) (data : Bytes) : Bytes :=
  buffer.take offset ++ data ++ buffer.drop (offset + data.length)

def getU16 (source : Bytes) (offset : Nat) : UInt16 :=
  UInt16.ofNat (BigEndian.decode ((source.drop offset).take 2))

def getU32 (source : Bytes) (offset : Nat) : UInt32 :=
  UInt32.ofNat (BigEndian.decode ((source.drop offset).take 4))

def getU64 (source : Bytes) (offset : Nat) : UInt64 :=
  ((getU32 source offset).toUInt64 <<< 32) ||| (getU32 source (offset + 4)).toUInt64

def putU16 (destination : Bytes) (offset : Nat) (value : UInt16) : Bytes :=
  overwrite destination offset (BigEndian.encode 2 value.toNat)

def putU32 (destination : Bytes) (offset : Nat) (value : UInt32) : Bytes :=
  overwrite destination offset (BigEndian.encode 4 value.toNat)

def putU64 (destination : Bytes) (offset : Nat) (value : UInt64) : Bytes :=
  putU32 (putU32 destination offset (value >>> 32).toUInt32) (offset + 4) value.toUInt32

/-! ### Requests -/

/-- `make_request_header` of the client. -/
def makeRequestHeader (type : UInt16) (sessionId : UInt64) (payloadLength requestId : UInt32) :
    Bytes :=
  let header := List.replicate 32 0
  let header := putU32 header 0 dscbMagic
  let header := putU16 header 4 dscbVersion
  let header := putU16 header 6 type
  let header := putU64 header 12 sessionId
  let header := putU32 header 20 payloadLength
  putU32 header 24 requestId

/-- The request slot up to `request_bytes`: the header `rpc` builds, then its payload. -/
def requestFrame (type : UInt16) (sessionId : UInt64) (requestId : UInt32) (payload : Bytes) :
    Bytes :=
  makeRequestHeader type sessionId (UInt32.ofNat payload.length) requestId ++ payload

/-- The fields `dispatch_request` loads from a request header. -/
structure RequestHeader where
  magic : UInt32
  version : UInt16
  type : UInt16
  flags : UInt32
  sessionId : UInt64
  payloadLength : UInt32
  requestId : UInt32
  reserved : UInt32
deriving DecidableEq, Repr

def decodeRequestHeader (request : Bytes) : RequestHeader where
  magic := getU32 request 0
  version := getU16 request 4
  type := getU16 request 6
  flags := getU32 request 8
  sessionId := getU64 request 12
  payloadLength := getU32 request 20
  requestId := getU32 request 24
  reserved := getU32 request 28

/-- The condition under which `dispatch_request` answers `invalid codec protocol request`. -/
def RequestHeader.framingInvalid (header : RequestHeader) (requestLength : Nat) : Bool :=
  header.magic != dscbMagic || header.version != dscbVersion
    || (header.type &&& dscbResponseBit) != 0 || header.flags != 0 || header.reserved != 0
    || header.requestId == 0 || dscwMaxPayload < header.payloadLength
    || requestLength != (dscwProtocolHeaderBytes + header.payloadLength).toNat

/-- A byte string passes both framing checks of `dispatch_request`: it is not a truncated header
and its header is not invalid. -/
def framingAccepts (request : Bytes) : Bool :=
  !(request.length < dscwProtocolHeaderBytes.toNat)
    && !(decodeRequestHeader request).framingInvalid request.length

/-! ### Responses -/

/-- `write_response_header` of the worker. -/
def writeResponseHeader (type : UInt16) (sessionId : UInt64) (payloadLength requestId : UInt32)
    (status : Int32) : Bytes :=
  let response := List.replicate 32 0
  let response := putU32 response 0 dscbMagic
  let response := putU16 response 4 dscbVersion
  let response := putU16 response 6 (type ||| dscbResponseBit)
  let response := putU64 response 12 sessionId
  let response := putU32 response 20 payloadLength
  let response := putU32 response 24 requestId
  putU32 response 28 status.toUInt32

/-- The response slot up to `response_bytes`: the header the worker writes, then the payload its
dispatch left behind it. -/
def responseFrame (type : UInt16) (sessionId : UInt64) (requestId : UInt32) (status : Int32)
    (payload : Bytes) : Bytes :=
  writeResponseHeader type sessionId (UInt32.ofNat payload.length) requestId status ++ payload

/-- `struct response` of the client.  A null payload pointer is the empty byte string. -/
structure Response where
  type : UInt16
  sessionId : UInt64
  requestId : UInt32
  status : Int32
  payloadLength : UInt32
  payload : Bytes
deriving DecidableEq, Repr

/-- The part of `parse_response` before the payload is copied.  `none` is `-1`. -/
def parseResponseHeader (header : Bytes) (responseBytes : UInt32) (type : UInt16)
    (requestId : UInt32) : Option Response :=
  if responseBytes < dscwProtocolHeaderBytes then none
  else if getU32 header 0 != dscbMagic || getU16 header 4 != dscbVersion
      || getU16 header 6 != (type ||| dscbResponseBit)
      || getU32 header 24 != requestId || getU32 header 8 != 0 then none
  else
    let response : Response :=
      { type := getU16 header 6
        sessionId := getU64 header 12
        payloadLength := getU32 header 20
        requestId := getU32 header 24
        status := (getU32 header 28).toInt32
        payload := [] }
    if dscwMaxPayload < response.payloadLength
        || responseBytes != dscwProtocolHeaderBytes + response.payloadLength then none
    else some response

/-- `parse_response`.  `mallocOk` says whether the payload buffer could be allocated. -/
def parseResponse (response : Bytes) (responseBytes : UInt32) (type : UInt16)
    (requestId : UInt32) (mallocOk : Bool) : Option Response :=
  match parseResponseHeader response responseBytes type requestId with
  | none => none
  | some parsed =>
      if 0 < parsed.payloadLength then
        if mallocOk then
          some { parsed with
            payload := (response.drop dscwProtocolHeaderBytes.toNat).take
              parsed.payloadLength.toNat }
        else none
      else some parsed

end DawnShell.Wire
