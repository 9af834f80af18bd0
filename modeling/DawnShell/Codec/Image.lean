/-
Module: DawnShell.Codec.Image
Layer: Codec
Purpose: `normalize_image`: the copy of a three-plane YUV_420_888 image into packed I420.
Trusted boundary: faithful model of dawnshell_codec_ndk.c:814-874.  Coordinates are mathematical
  integers; the frame length keeps the 64-bit unsigned product of the source.
Main exports: planeShift, normalizeImage
-/
import DawnShell.Codec.Platform

namespace DawnShell

open Wire

/-- `AIMAGE_FORMAT_YUV_420_888`. -/
def aimageFormatYuv420888 : Int32 := 0x23

/-- A failed operation: its status and, when it set one, its error text. -/
structure Failure where
  status : Int32
  error : Option String
deriving DecidableEq, Repr

/-- One row of a plane: `memcpy` for contiguous pixels, the per-pixel loop otherwise. -/
def copyRow (data : Nat → UInt8) (first pixelStride : Int) (planeWidth : Nat) : Bytes :=
  if pixelStride = 1 then
    (List.range planeWidth).map (fun (column : Nat) => data (first + column).toNat)
  else
    (List.range planeWidth).map (fun (column : Nat) => data (first + column * pixelStride).toNat)

/-- The row loop of one plane, from `row` on. -/
def copyRows (data : Nat → UInt8) (dataLength rowStride pixelStride cropLeft cropTop : Int)
    (planeWidth : Nat) : Nat → Nat → Except Failure Bytes
  | 0, _ => .ok []
  | rows + 1, row =>
      let first := (cropTop + row) * rowStride + cropLeft * pixelStride
      let last := first + ((planeWidth : Int) - 1) * pixelStride
      if first < 0 ∨ last < first ∨ dataLength ≤ last then
        .error ⟨codecErrorCodec, some "decoder YUV plane bounds are invalid"⟩
      else do
        let rest ← copyRows data dataLength rowStride pixelStride cropLeft cropTop planeWidth rows
          (row + 1)
        pure (copyRow data first pixelStride planeWidth ++ rest)

/-- One plane: map it, then copy its rows at the crop origin. -/
def copyPlane (image : Image) (crop : CropRect) (width height : Int) (plane : Fin 3) :
    Except Failure Bytes :=
  let unmapped : Except Failure Bytes :=
    .error ⟨codecErrorCodec,
      some ("could not map decoder YUV plane " ++ toString plane.val)⟩
  match (image.plane plane).data, (image.plane plane).rowStride,
      (image.plane plane).pixelStride with
  | some (some data, dataLength), some rowStride, some pixelStride =>
      if dataLength.toInt ≤ 0 ∨ rowStride.toInt ≤ 0 ∨ pixelStride.toInt ≤ 0 then unmapped
      else
        let shift : Nat := if plane = 0 then 0 else 1
        copyRows data dataLength.toInt rowStride.toInt pixelStride.toInt
          (crop.left.toInt / 2 ^ shift) (crop.top.toInt / 2 ^ shift)
          (width / 2 ^ shift).toNat (height / 2 ^ shift).toNat 0
  | _, _, _ => unmapped

/-- The planes of a picture. -/
abbrev lumaPlane : Fin 3 := 0
abbrev bluePlane : Fin 3 := 1
abbrev redPlane : Fin 3 := 2

/-- Luma in full, chroma halved. -/
def planeShift (plane : Fin 3) : Nat := if plane = 0 then 0 else 1

/-- `normalize_image`. -/
def normalizeImage (image : Image) (capacity : Nat) : Except Failure Bytes :=
  let notYuv : Except Failure Bytes :=
    .error ⟨codecErrorUnsupported, some "decoder image is not three-plane YUV_420_888"⟩
  if image.format ≠ some aimageFormatYuv420888 ∨ image.numberOfPlanes ≠ some 3 then notYuv
  else
    match image.cropRect with
    | none => notYuv
    | some crop =>
        let width := crop.right.toInt - crop.left.toInt
        let height := crop.bottom.toInt - crop.top.toInt
        let frameLength := UInt64.ofInt width * UInt64.ofInt height * 3 / 2
        if width ≤ 0 ∨ height ≤ 0 ∨ width % 2 ≠ 0 ∨ height % 2 ≠ 0
            ∨ capacity < frameLength.toNat then
          .error ⟨codecErrorLimit, some "decoder image crop exceeds output bounds"⟩
        else do
          let luma ← copyPlane image crop width height 0
          let blue ← copyPlane image crop width height 1
          let red ← copyPlane image crop width height 2
          pure (luma ++ blue ++ red)

end DawnShell
