/-
Module: DawnShell.Codec.Platform
Layer: Codec
Purpose: The Android platform as the codec worker sees it: the calls of the NDK media API, of the
  clock and of the allocator that the worker makes, with the type of answer each of them has.  The
  answers themselves are not modelled; a worker operation is an `Interaction` and every theorem about it
  quantifies over all of them.
Trusted boundary: signatures of the NDK calls used by dawnshell_codec_ndk.c
Main exports: Platform.Call, Platform.Answer, Platform, Platform.Log, Platform.allSucceed
-/
import DawnShell.Lib.Interaction
import DawnShell.Codec.Wire

namespace DawnShell

open Wire

/-- A codec, image reader or native window; a null pointer is `none`. -/
abbrev Handle := Nat

/-- `media_status_t`; zero is `AMEDIA_OK`. -/
abbrev MediaStatus := Int32

def amediaOk : MediaStatus := 0
def amediaImgreaderNoBufferAvailable : MediaStatus := -30001
def infoTryAgainLater : Int := -1
def infoOutputFormatChanged : Int := -2
def infoOutputBuffersChanged : Int := -3

/-- `AMediaCodecBufferInfo`. -/
structure BufferInfo where
  offset : Int32
  size : Int32
  presentationTimeUs : Int64
  flags : UInt32
deriving DecidableEq, Repr

/-- The four integers `format_record` asks an output format for; `none` is a key that is absent. -/
structure OutputFormat where
  width : Option Int32
  height : Option Int32
  stride : Option Int32
  sliceHeight : Option Int32

/-- `AImageCropRect`. -/
structure CropRect where
  left : Int32
  top : Int32
  right : Int32
  bottom : Int32

/-- What the plane getters of an image answer; `none` is a failed call and a null plane pointer is a
`data` of `none`. -/
structure ImagePlane where
  data : Option (Option (Nat → UInt8) × Int32)
  rowStride : Option Int32
  pixelStride : Option Int32

/-- What the getters of an acquired image answer. -/
structure Image where
  format : Option Int32
  numberOfPlanes : Option Int32
  cropRect : Option CropRect
  plane : Fin 3 → ImagePlane

/-- The symbols `load_optional_api` resolves at run time. -/
inductive OptionalSymbol where
  | getName
  | releaseName
  | findDecoder
  | findEncoder
  | infoName
  | infoType
  | createInputSurface
  | signalInputEos
  | setParameters
deriving DecidableEq, Repr

/-- How a codec is requested from the platform. -/
inductive CodecRequest where
  | byName (name : String)
  | encoderByType (mime : String)
  | decoderByType (mime : String)
deriving DecidableEq, Repr

/-- The keys set on an `AMediaFormat` before a codec is configured with it. -/
structure VideoFormat where
  mime : String
  width : UInt32
  height : UInt32
  frameRate : UInt32
  maxInputSize : Option UInt64 := none
  bitrate : Option UInt32 := none
  iFrameInterval : Option UInt32 := none
  colorFormat : Option UInt32 := none
deriving DecidableEq, Repr

namespace Platform

/-- The calls a codec operation makes. -/
inductive Call where
  | monotonicNs
  | processCpuMs
  | getpid
  | calloc
  | usleep (microseconds : Nat)
  | optionalSymbol (symbol : OptionalSymbol)
  | newFormat
  /-- The whole iteration of the codec store for one format. -/
  | codecStore (encoder : Bool) (mime : String)
  | createCodec (request : CodecRequest)
  | getName (codec : Handle)
  | configure (codec : Handle) (format : VideoFormat) (surface : Option Handle) (encode : Bool)
  | createInputSurface (codec : Handle)
  | start (codec : Handle)
  | stop (codec : Handle)
  | deleteCodec (codec : Handle)
  | newImageReader (width height : UInt32)
  | getWindow (reader : Handle)
  | deleteImageReader (reader : Handle)
  | releaseWindow (window : Handle)
  | dequeueInputBuffer (codec : Option Handle) (timeoutUs : Int)
  | getInputBuffer (codec : Option Handle) (index : Nat)
  | queueInputBuffer (codec : Option Handle) (index : Nat) (data : Bytes)
      (presentationTimeUs : UInt64) (flags : UInt32)
  | dequeueOutputBuffer (codec : Option Handle) (timeoutUs : Int)
  | getOutputBuffer (codec : Option Handle) (index : Nat)
  | releaseOutputBuffer (codec : Option Handle) (index : Nat) (render : Bool)
  | getOutputFormat (codec : Option Handle)
  | signalEndOfInputStream (codec : Option Handle)
  | setParametersRequestSync (codec : Option Handle)
  | flush (codec : Option Handle)
  | acquireNextImage (reader : Option Handle)
  | deleteImage
  /-- The loop of `drain_images`: the answer is how many images were acquired and deleted before the
  first failed acquisition. -/
  | drainImages (reader : Handle)
deriving DecidableEq

/-- The answer each call returns. -/
abbrev Answer : Call → Type
  | .monotonicNs => UInt64
  | .processCpuMs => UInt64
  | .getpid => Nat
  | .calloc => Bool
  | .usleep _ => Unit
  | .optionalSymbol _ => Bool
  | .newFormat => Bool
  | .codecStore _ _ => List (Option String × Int32)
  | .createCodec _ => Option Handle
  | .getName _ => Option String
  | .configure .. => MediaStatus
  | .createInputSurface _ => MediaStatus × Option Handle
  | .start _ => MediaStatus
  | .stop _ => Unit
  | .deleteCodec _ => Unit
  | .newImageReader .. => MediaStatus × Option Handle
  | .getWindow _ => MediaStatus × Option Handle
  | .deleteImageReader _ => Unit
  | .releaseWindow _ => Unit
  | .dequeueInputBuffer .. => Int
  | .getInputBuffer .. => Option Nat
  | .queueInputBuffer .. => MediaStatus
  | .dequeueOutputBuffer .. => Int × BufferInfo
  | .getOutputBuffer .. => Option Bytes
  | .releaseOutputBuffer .. => MediaStatus
  | .getOutputFormat _ => Option OutputFormat
  | .signalEndOfInputStream _ => MediaStatus
  | .setParametersRequestSync _ => MediaStatus
  | .flush _ => MediaStatus
  | .acquireNextImage _ => MediaStatus × Option Image
  | .deleteImage => Unit
  | .drainImages _ => Nat

/-- A platform on which every call succeeds: buffers are always free and large, and every output is a
one-byte record. -/
def allSucceed : (call : Call) → Answer call
  | .monotonicNs => (0 : UInt64)
  | .processCpuMs => (0 : UInt64)
  | .getpid => (1 : Nat)
  | .calloc => true
  | .usleep _ => ()
  | .optionalSymbol _ => true
  | .newFormat => true
  | .codecStore _ _ => []
  | .createCodec _ => some 1
  | .getName _ => some "c2.vendor.codec"
  | .configure .. => amediaOk
  | .createInputSurface _ => (amediaOk, some 2)
  | .start _ => amediaOk
  | .stop _ => ()
  | .deleteCodec _ => ()
  | .newImageReader .. => (amediaOk, some 3)
  | .getWindow _ => (amediaOk, some 4)
  | .deleteImageReader _ => ()
  | .releaseWindow _ => ()
  | .dequeueInputBuffer .. => (0 : Int)
  | .getInputBuffer .. => some 65536
  | .queueInputBuffer .. => amediaOk
  | .dequeueOutputBuffer .. => (0, ⟨0, 1, 0, 0⟩)
  | .getOutputBuffer .. => some [0]
  | .releaseOutputBuffer .. => amediaOk
  | .getOutputFormat _ => none
  | .signalEndOfInputStream _ => amediaOk
  | .setParametersRequestSync _ => amediaOk
  | .flush _ => amediaOk
  | .acquireNextImage _ => (amediaImgreaderNoBufferAvailable, none)
  | .deleteImage => ()
  | .drainImages _ => (0 : Nat)

/-- The calls one operation made and what they answered. -/
abbrev Log := List (Interaction.Exchange Call Answer)

end Platform

/-- An operation that calls the platform. -/
abbrev Platform := Interaction Platform.Call Platform.Answer

/-- One platform call, at its own answer type. -/
abbrev Platform.call (request : Platform.Call) : Platform (Platform.Answer request) :=
  Interaction.call request

end DawnShell
