/-
Module: DawnShell.Codec.ImageMachine
Layer: Codec
Purpose: `normalize_image` over machine integers.  Every sum, difference and product is checked in the
  width the source makes it in, every pixel is read within the length of its plane, and the bytes are
  written one after the other, so that what is left in the output buffer is known on every path.
Trusted boundary: faithful model of dawnshell_codec_ndk.c:814-874; `int` has 32 bits and `size_t` 64
Main exports: Copying, normalizeImageChecked
-/
import DawnShell.Codec.Image
import DawnShell.Lib.Checked

namespace DawnShell

open Wire Checked

/-- A part of `normalize_image`: it fails as the source does, and it writes to `output`. -/
abbrev Copying := Checked Failure UInt8

/-- The `memcpy` of a row of adjacent pixels. -/
def copyAdjacent (data : Nat → UInt8) (dataLength first : Int) (planeWidth : Nat) : Copying Unit := do
  let row ← readBlock data dataLength first planeWidth
  emit row

/-- The loop over the columns of a row, from `column` on. -/
def copyPixels (data : Nat → UInt8) (dataLength first pixelStride : Int) : Nat → Int → Copying Unit
  | 0, _ => pure ()
  | columns + 1, column => do
      let step ← int64 (column * pixelStride)
      let index ← int64 (first + step)
      let pixel ← readAt data dataLength index
      emit [pixel]
      let next ← int32 (column + 1)
      copyPixels data dataLength first pixelStride columns next

/-- The body of the row loop. -/
def copyRowChecked (data : Nat → UInt8)
    (dataLength rowStride pixelStride cropLeft cropTop planeWidth row : Int) : Copying Unit := do
  let line ← int32 (cropTop + row)
  let down ← int64 (line * rowStride)
  let across ← int64 (cropLeft * pixelStride)
  let first ← int64 (down + across)
  let columns ← int32 (planeWidth - 1)
  let span ← int64 (columns * pixelStride)
  let last ← int64 (first + span)
  if first < 0 ∨ last < first ∨ dataLength ≤ last then
    fail ⟨codecErrorCodec, some "decoder YUV plane bounds are invalid"⟩
  else if pixelStride = 1 then copyAdjacent data dataLength first planeWidth.toNat
  else copyPixels data dataLength first pixelStride planeWidth.toNat 0

/-- The row loop of one plane, from `row` on. -/
def copyRowsChecked (data : Nat → UInt8)
    (dataLength rowStride pixelStride cropLeft cropTop planeWidth : Int) : Nat → Int → Copying Unit
  | 0, _ => pure ()
  | rows + 1, row => do
      copyRowChecked data dataLength rowStride pixelStride cropLeft cropTop planeWidth row
      let next ← int32 (row + 1)
      copyRowsChecked data dataLength rowStride pixelStride cropLeft cropTop planeWidth rows next

/-- One plane: map it, then copy its rows at the crop origin. -/
def copyPlaneChecked (image : Image) (crop : CropRect) (width height : Int) (plane : Fin 3) :
    Copying Unit :=
  let unmapped : Copying Unit :=
    fail ⟨codecErrorCodec, some ("could not map decoder YUV plane " ++ toString plane.val)⟩
  match (image.plane plane).data, (image.plane plane).rowStride,
      (image.plane plane).pixelStride with
  | some (some data, dataLength), some rowStride, some pixelStride =>
      if dataLength.toInt ≤ 0 ∨ rowStride.toInt ≤ 0 ∨ pixelStride.toInt ≤ 0 then unmapped
      else
        let shift := planeShift plane
        copyRowsChecked data dataLength.toInt rowStride.toInt pixelStride.toInt
          (crop.left.toInt / 2 ^ shift) (crop.top.toInt / 2 ^ shift) (width / 2 ^ shift)
          (height / 2 ^ shift).toNat 0
  | _, _, _ => unmapped

/-- A signed number converted to `uint64_t`. -/
def toUint64 (value : Int) : Int := value % 2 ^ 64

/-- `normalize_image`; it returns `*length`. -/
def normalizeImageChecked (image : Image) (capacity : Nat) : Copying Nat :=
  let notYuv : Copying Nat :=
    fail ⟨codecErrorUnsupported, some "decoder image is not three-plane YUV_420_888"⟩
  if image.format ≠ some aimageFormatYuv420888 ∨ image.numberOfPlanes ≠ some 3 then notYuv
  else
    match image.cropRect with
    | none => notYuv
    | some crop => do
        let width ← int32 (crop.right.toInt - crop.left.toInt)
        let height ← int32 (crop.bottom.toInt - crop.top.toInt)
        let area ← uint64 (toUint64 width * toUint64 height)
        let samples ← uint64 (area * 3)
        let frameLength := samples / 2
        if width ≤ 0 ∨ height ≤ 0 ∨ width % 2 ≠ 0 ∨ height % 2 ≠ 0 ∨ (capacity : Int) < frameLength then
          fail ⟨codecErrorLimit, some "decoder image crop exceeds output bounds"⟩
        else do
          copyPlaneChecked image crop width height lumaPlane
          copyPlaneChecked image crop width height bluePlane
          copyPlaneChecked image crop width height redPlane
          let output ← get
          pure output.length

end DawnShell
