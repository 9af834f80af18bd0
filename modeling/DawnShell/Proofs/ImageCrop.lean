/-
Module: DawnShell.Proofs.ImageCrop
Layer: Proofs
Purpose: `normalize_image` is the I420 crop.  For every crop inside the first quadrant, whatever the
  strides, the sizes and the contents of the planes and the capacity, no operation overflows and no read
  leaves its plane; what has been written is never longer than the picture; and a copy that succeeds has
  written the samples of the crop, plane after plane.
Trusted boundary: none
Main exports: i420Plane, i420Crop, copyAdjacent_eq_copyPixels, ImageNormalized, normalize_image_is_crop
-/
import DawnShell.Codec.ImageMachine
import DawnShell.Proofs.ReplyBounds

namespace DawnShell

open Wire Checked

/-! ### Rows -/

section Rows

variable {data : Nat → UInt8} {dataLength rowStride pixelStride cropLeft cropTop first : Int}
  {written : Bytes}

theorem product_bound {left right : Int} (leftLow : 0 ≤ left) (leftHigh : left < 2 ^ 31)
    (rightLow : 0 ≤ right) (rightHigh : right < 2 ^ 31) :
    0 ≤ left * right ∧ left * right < 2 ^ 62 := by
  refine ⟨Int.mul_nonneg leftLow rightLow, ?_⟩
  calc left * right < 2 ^ 31 * 2 ^ 31 := mul_lt_mul'' leftHigh rightHigh leftLow rightLow
    _ = 2 ^ 62 := by norm_num

/-- A row that is copied sample by sample is the row of the crop, and no access lies outside the data of
the plane. -/
theorem copyPixels_run {columns : Nat} {column : Int} (low : 0 ≤ first) (short : dataLength < 2 ^ 31)
    (strided : 0 < pixelStride) (from' : 0 ≤ column) (upTo : column + columns < 2 ^ 31)
    (inside : ∀ offset : Nat, offset < columns →
      first + (column + offset) * pixelStride < dataLength)
    (fits : written.length + columns < 2 ^ 64) :
    run (copyPixels data dataLength first pixelStride columns column) written =
      (.ok (), written ++ (List.range columns).map fun (offset : Nat) =>
        data (first + (column + offset) * pixelStride).toNat) := by
  induction columns generalizing column written with
  | zero => simp [copyPixels, run_pure]
  | succ columns ih =>
      have here := inside 0 (Nat.succ_pos columns)
      rw [Nat.cast_zero, add_zero] at here
      have step : 0 ≤ column * pixelStride := Int.mul_nonneg from' (Int.le_of_lt strided)
      have emitted : run (emit [data (first + column * pixelStride).toNat] : Copying Unit) written =
          (.ok (), written ++ [data (first + column * pixelStride).toNat]) := by
        apply run_emit
        rw [List.length_singleton]
        omega
      rw [copyPixels, int64_bind (by omega), int64_bind (by omega), readAt_bind (by omega),
        run_bind_of_ok emitted, int32_bind (by push_cast at upTo; omega), ih (by omega)]
      · rw [List.append_assoc, List.range_succ_eq_map, List.map_cons, List.map_map]
        simp [Function.comp_def, add_comm, add_left_comm]
      · push_cast at upTo
        omega
      · intro offset below
        have later := inside (offset + 1) (by omega)
        push_cast at later
        rwa [add_assoc, add_comm 1]
      · rw [List.length_append, List.length_singleton]
        omega

/-- A row of adjacent samples that is copied at once lies inside the data of the plane. -/
theorem copyAdjacent_run {planeWidth : Nat} (low : 0 ≤ first)
    (inside : first + planeWidth ≤ dataLength) (fits : written.length + planeWidth < 2 ^ 64) :
    run (copyAdjacent data dataLength first planeWidth) written =
      (.ok (), written ++ (List.range planeWidth).map fun (offset : Nat) =>
        data (first + offset).toNat) := by
  rw [copyAdjacent, readBlock_bind ⟨low, inside⟩, run_emit (by simpa using fits)]

/-- The two ways to copy a row of adjacent pixels do the same. -/
theorem copyAdjacent_eq_copyPixels {planeWidth : Nat} (low : 0 ≤ first) (short : dataLength < 2 ^ 31)
    (inside : first + planeWidth ≤ dataLength) (fits : written.length + planeWidth < 2 ^ 64) :
    run (copyAdjacent data dataLength first planeWidth) written =
      run (copyPixels data dataLength first 1 planeWidth 0) written := by
  rw [copyAdjacent_run low inside fits, copyPixels_run low short Int.one_pos le_rfl (by omega)
    (fun offset below => by omega) fits]
  simp

/-- The numbers that a plane is copied with. -/
structure PlaneRange (dataLength rowStride pixelStride cropLeft cropTop planeWidth planeHeight : Int) :
    Prop where
  data : dataLength < 2 ^ 31
  rowStride : 0 < rowStride ∧ rowStride < 2 ^ 31
  pixelStride : 0 < pixelStride ∧ pixelStride < 2 ^ 31
  left : 0 ≤ cropLeft
  top : 0 ≤ cropTop
  wide : 0 < planeWidth
  right : cropLeft + planeWidth < 2 ^ 31
  bottom : cropTop + planeHeight < 2 ^ 31

variable {planeWidth planeHeight row : Int}

/-- A row is copied when it lies inside its plane, and none of the numbers on the way overflows. -/
theorem copyRowChecked_run (data : Nat → UInt8)
    (range : PlaneRange dataLength rowStride pixelStride cropLeft cropTop planeWidth planeHeight)
    (from' : 0 ≤ row) (below : row < planeHeight)
    (fits : written.length + planeWidth.toNat < 2 ^ 64)
    (start : (cropTop + row) * rowStride + cropLeft * pixelStride = first) :
    run (copyRowChecked data dataLength rowStride pixelStride cropLeft cropTop planeWidth row) written =
      if first < 0 ∨ first + (planeWidth - 1) * pixelStride < first ∨
          dataLength ≤ first + (planeWidth - 1) * pixelStride then
        (.error (.failed ⟨codecErrorCodec, some "decoder YUV plane bounds are invalid"⟩), written)
      else (.ok (), written ++ copyRow data first pixelStride planeWidth.toNat) := by
  obtain ⟨strided, narrow⟩ := range.pixelStride
  have top := range.top
  have left := range.left
  have wide := range.wide
  have right := range.right
  have bottom := range.bottom
  have short := range.data
  have down := product_bound (by omega : 0 ≤ cropTop + row) (by omega)
    (Int.le_of_lt range.rowStride.1) range.rowStride.2
  have across := product_bound left (by omega) (Int.le_of_lt strided) narrow
  have span := product_bound (by omega : 0 ≤ planeWidth - 1) (by omega) (Int.le_of_lt strided) narrow
  -- The last pixel of the row is where one product for the whole crop would be.
  have end' := product_bound (by omega : 0 ≤ cropLeft + (planeWidth - 1)) (by omega)
    (Int.le_of_lt strided) narrow
  rw [add_mul] at end'
  rw [copyRowChecked, int32_bind (by omega), int64_bind (by omega), int64_bind (by omega),
    int64_bind (by omega), int32_bind (by omega), int64_bind (by omega), int64_bind (by omega), start]
  split
  · rfl
  next inside =>
    simp only [not_or, Int.not_lt, Int.not_le] at inside
    obtain ⟨low, _, high⟩ := inside
    rw [copyRow]
    split
    next adjacent =>
      subst adjacent
      exact copyAdjacent_run low (by omega) fits
    next =>
      rw [copyPixels_run low short strided le_rfl (by omega) ?_ fits]
      · simp only [Int.zero_add]
      · intro offset within'
        have before : (0 + (offset : Int)) * pixelStride ≤ (planeWidth - 1) * pixelStride :=
          mul_le_mul_of_nonneg_right (by omega) (Int.le_of_lt strided)
        omega

end Rows

/-! ### Planes -/

/-- A part of the copy does what a pure function says, and what it writes has at most `limit` bytes, also
when it fails. -/
def Writes (limit : Nat) (written : Bytes) (outcome : Except (Stop Failure) Unit × Bytes) :
    Except Failure Bytes → Prop
  | .ok bytes => outcome = (.ok (), written ++ bytes) ∧ bytes.length ≤ limit
  | .error failure => ∃ part, outcome = (.error (.failed failure), written ++ part) ∧
      part.length ≤ limit

section Planes

variable {data : Nat → UInt8} {dataLength rowStride pixelStride cropLeft cropTop : Int}
  {planeWidth planeHeight : Int} {written : Bytes} {image : Image} {crop : CropRect}

/-- Within the range that was checked before, each row is written behind the one above it. -/
theorem copyRowsChecked_writes
    (range : PlaneRange dataLength rowStride pixelStride cropLeft cropTop planeWidth planeHeight)
    (rows row : Nat) (below : (row : Int) + rows ≤ planeHeight)
    (fits : written.length + rows * planeWidth.toNat < 2 ^ 64) :
    Writes (rows * planeWidth.toNat) written
      (run (copyRowsChecked data dataLength rowStride pixelStride cropLeft cropTop planeWidth rows row)
        written)
      (copyRows data dataLength rowStride pixelStride cropLeft cropTop planeWidth.toNat rows row) := by
  have width : ((planeWidth.toNat : Nat) : Int) = planeWidth :=
    Int.toNat_of_nonneg (Int.le_of_lt range.wide)
  induction rows generalizing row written with
  | zero => exact ⟨by simp [copyRowsChecked, run_pure], Nat.zero_le _⟩
  | succ rows ih =>
      rw [Nat.succ_mul] at fits ⊢
      have room : written.length + planeWidth.toNat < 2 ^ 64 := by omega
      have line := copyRowChecked_run data range (Int.natCast_nonneg row)
        (by push_cast at below; omega) room rfl
      rw [copyRowsChecked, copyRows, width]
      split
      next outside =>
        rw [if_pos outside] at line
        exact ⟨[], by rw [run_bind_of_error line, List.append_nil], Nat.zero_le _⟩
      next inside =>
        rw [if_neg inside] at line
        generalize (cropTop + (row : Int)) * rowStride + cropLeft * pixelStride = first at *
        have length := length_copyRow data first pixelStride planeWidth.toNat
        have bottom := range.bottom
        have top := range.top
        have next : int32 ((row : Int) + 1) >>= copyRowsChecked data dataLength rowStride pixelStride
            cropLeft cropTop planeWidth rows =
            copyRowsChecked data dataLength rowStride pixelStride cropLeft cropTop planeWidth rows
              ((row + 1 : Nat) : Int) := by
          rw [int32_bind (by push_cast at below; omega)]
          rfl
        rw [run_bind_of_ok line, next]
        have left : (written ++ copyRow data first pixelStride planeWidth.toNat).length +
            rows * planeWidth.toNat < 2 ^ 64 := by
          rw [List.length_append, length]
          omega
        have rest := ih (row + 1) (by push_cast at below ⊢; omega) left
        cases later : copyRows data dataLength rowStride pixelStride cropLeft cropTop
            planeWidth.toNat rows (row + 1) with
        | error failure =>
            rw [later] at rest
            obtain ⟨part, same, few⟩ := rest
            refine ⟨copyRow data first pixelStride planeWidth.toNat ++ part, ?_, ?_⟩
            · rw [same, List.append_assoc]
            · rw [List.length_append, length]
              omega
        | ok bytes =>
            rw [later] at rest
            obtain ⟨same, few⟩ := rest
            refine ⟨by rw [same, List.append_assoc], ?_⟩
            rw [List.length_append, length]
            omega

/-- A crop as the platform reports it: inside the first quadrant, with its corners in order. -/
structure CropRect.Plain (crop : CropRect) : Prop where
  left : 0 ≤ crop.left.toInt
  right : crop.left.toInt ≤ crop.right.toInt
  top : 0 ≤ crop.top.toInt
  bottom : crop.top.toInt ≤ crop.bottom.toInt

/-- The bytes of one plane of the picture. -/
def planeBytes (crop : CropRect) (plane : Fin 3) : Nat :=
  (crop.height / 2 ^ planeShift plane).toNat * (crop.width / 2 ^ planeShift plane).toNat

/-- For a plain crop and positive strides the check of the last offset keeps all offsets inside the
plane. -/
theorem planeRange_of_plain {dataLength rowStride pixelStride : Int32} (plain : crop.Plain)
    (wide : 0 < crop.width) (even : crop.width % 2 = 0)
    (positive : 0 < dataLength.toInt ∧ 0 < rowStride.toInt ∧ 0 < pixelStride.toInt)
    (plane : Fin 3) :
    PlaneRange dataLength.toInt rowStride.toInt pixelStride.toInt
      (crop.left.toInt / 2 ^ planeShift plane) (crop.top.toInt / 2 ^ planeShift plane)
      (crop.width / 2 ^ planeShift plane) (crop.height / 2 ^ planeShift plane) := by
  obtain ⟨left, right, top, bottom⟩ := plain
  have farRight := Int32.toInt_lt crop.right
  have farBottom := Int32.toInt_lt crop.bottom
  have longData := Int32.toInt_lt dataLength
  have longRow := Int32.toInt_lt rowStride
  have longPixel := Int32.toInt_lt pixelStride
  rw [CropRect.width] at *
  rw [CropRect.height]
  rw [planeShift]
  split
  · simp only [pow_zero, Int.ediv_one]
    constructor <;> omega
  · simp only [pow_one]
    constructor <;> omega

/-- A plane is either written whole or refused, and in no case is there an access outside. -/
theorem copyPlaneChecked_writes (plain : crop.Plain) (wide : 0 < crop.width)
    (high : 0 < crop.height) (even : crop.width % 2 = 0) (plane : Fin 3)
    (fits : written.length + planeBytes crop plane < 2 ^ 64) :
    Writes (planeBytes crop plane) written
      (run (copyPlaneChecked image crop crop.width crop.height plane) written)
      (copyPlane image crop crop.width crop.height plane) := by
  have unmapped : ∀ failure : Failure,
      Writes (planeBytes crop plane) written (run (fail failure : Copying Unit) written)
        (.error failure) := fun failure =>
    ⟨[], by rw [run_fail, List.append_nil], Nat.zero_le _⟩
  rw [copyPlaneChecked, copyPlane]
  obtain ⟨mapped, rowStride, pixelStride⟩ := image.plane plane
  rcases mapped with _ | ⟨_ | data, dataLength⟩
  · exact unmapped _
  · exact unmapped _
  rcases rowStride with _ | rowStride
  · exact unmapped _
  rcases pixelStride with _ | pixelStride
  · exact unmapped _
  dsimp only
  split
  · exact unmapped _
  next positive =>
    simp only [not_or, Int.not_le] at positive
    have range := planeRange_of_plain plain wide even positive plane
    refine copyRowsChecked_writes range _ 0 ?_ fits
    rw [Nat.cast_zero, zero_add]
    exact le_of_eq (Int.toNat_of_nonneg (Int.ediv_nonneg (Int.le_of_lt high) (by positivity)))

/-- The three planes together are the picture. -/
theorem planeBytes_sum (wide : 0 < crop.width) (high : 0 < crop.height)
    (evenWidth : crop.width % 2 = 0) (evenHeight : crop.height % 2 = 0) :
    planeBytes crop 0 + planeBytes crop 1 + planeBytes crop 2 =
      crop.width.toNat * crop.height.toNat * 3 / 2 := by
  simp only [planeBytes, planeShift]
  generalize crop.width = width at *
  generalize crop.height = height at *
  obtain ⟨halfWidth, rfl⟩ : ∃ half : Nat, width = 2 * half := ⟨(width / 2).toNat, by omega⟩
  obtain ⟨halfHeight, rfl⟩ : ∃ half : Nat, height = 2 * half := ⟨(height / 2).toNat, by omega⟩
  have whole : (2 * (halfWidth : Int)).toNat * (2 * (halfHeight : Int)).toNat =
      4 * (halfHeight * halfWidth) := by
    rw [show (2 * (halfHeight : Int)).toNat = 2 * halfHeight by omega,
      show (2 * (halfWidth : Int)).toNat = 2 * halfWidth by omega]
    ring
  simp
  rw [whole, Nat.mul_comm (2 * (halfHeight : Int)).toNat, whole]
  omega

end Planes

/-! ### The crop -/

/-- Where the sample of a line and a column stands in the data of its plane. -/
def sampleIndex (rowStride pixelStride : Int32) (line column : Nat) : Nat :=
  line * rowStride.toInt.toNat + column * pixelStride.toInt.toNat

/-- The sample of a mapped plane. -/
def ImagePlane.sample (plane : ImagePlane) (line column : Nat) : UInt8 :=
  match plane.data, plane.rowStride, plane.pixelStride with
  | some (some data, _), some rowStride, some pixelStride =>
      data (sampleIndex rowStride pixelStride line column)
  | _, _, _ => 0

/-- The samples of a rectangle, line after line. -/
def i420Plane (plane : ImagePlane) (left top width height : Nat) : Bytes :=
  (List.range height).flatMap fun line =>
    (List.range width).map fun column => plane.sample (top + line) (left + column)

/-- The plane is mapped, with positive strides, and the samples of the rectangle lie within its data. -/
def ImagePlane.Covers (plane : ImagePlane) (left top width height : Nat) : Prop :=
  ∃ data dataLength rowStride pixelStride,
    plane = ⟨some (some data, dataLength), some rowStride, some pixelStride⟩ ∧
      0 < rowStride.toInt ∧ 0 < pixelStride.toInt ∧ ∀ line < height, ∀ column < width,
        (sampleIndex rowStride pixelStride (top + line) (left + column) : Int) < dataLength.toInt

/-- One plane of a crop: luma in full, chroma with everything halved. -/
def cropPlane (image : Image) (crop : CropRect) (plane : Fin 3) : Bytes :=
  i420Plane (image.plane plane) (crop.left.toInt.toNat / 2 ^ planeShift plane)
    (crop.top.toInt.toNat / 2 ^ planeShift plane) (crop.width.toNat / 2 ^ planeShift plane)
    (crop.height.toNat / 2 ^ planeShift plane)

/-- The crop of a picture as packed I420. -/
def i420Crop (image : Image) (crop : CropRect) : Bytes :=
  cropPlane image crop lumaPlane ++ cropPlane image crop bluePlane ++
    cropPlane image crop redPlane

section Crop

variable {data : Nat → UInt8} {dataLength rowStride pixelStride cropLeft cropTop first : Int}
  {image : Image} {crop : CropRect} {plane : Fin 3} {bytes : Bytes}

/-- Either way to copy a row takes the pixels at the stride. -/
theorem copyRow_eq (planeWidth : Nat) :
    copyRow data first pixelStride planeWidth = (List.range planeWidth).map
      fun (column : Nat) => data (first + column * pixelStride).toNat := by
  rw [copyRow]
  split
  next adjacent => simp [adjacent]
  next => rfl

/-- The rows that are copied are those of the crop, from the top down. -/
theorem copyRows_eq {planeWidth rows row : Nat}
    (copied : copyRows data dataLength rowStride pixelStride cropLeft cropTop planeWidth rows row =
      .ok bytes) :
    bytes = (List.range rows).flatMap fun (line : Nat) => copyRow data
      ((cropTop + (row + line : Nat)) * rowStride + cropLeft * pixelStride) pixelStride planeWidth := by
  induction rows generalizing row bytes with
  | zero =>
      cases copied
      rfl
  | succ rows ih =>
      obtain ⟨-, rest, later, rfl⟩ := of_copyRows_succ copied
      rw [ih later, List.range_succ_eq_map, List.flatMap_cons, List.flatMap_map]
      simp only [Nat.add_zero, Nat.add_assoc, Nat.add_comm 1]

/-- The offset of a sample is that of its row and column in the plane, counted with both strides. -/
theorem position_eq {rowStride pixelStride : Int32} (rowStrided : 0 < rowStride.toInt)
    (pixelStrided : 0 < pixelStride.toInt) (left top line column : Nat) :
    ((top : Int) + (0 + line : Nat)) * rowStride.toInt + left * pixelStride.toInt +
        column * pixelStride.toInt =
      sampleIndex rowStride pixelStride (top + line) (left + column) := by
  rw [sampleIndex]
  push_cast
  rw [Int.toNat_of_nonneg (Int.le_of_lt rowStrided), Int.toNat_of_nonneg (Int.le_of_lt pixelStrided)]
  ring

/-- Halving a number that is not negative is the same among naturals and integers. -/
theorem shifted_eq {value : Int} (nonnegative : 0 ≤ value) (shift : Nat) :
    value / 2 ^ shift = ((value.toNat / 2 ^ shift : Nat) : Int) := by
  push_cast
  rw [Int.toNat_of_nonneg nonnegative]

/-- A plane that is copied was mapped, with a positive length and positive strides. -/
theorem copyPlane_inputs {width height : Int} (copied : copyPlane image crop width height plane = .ok bytes) :
    ∃ data dataLength rowStride pixelStride,
      image.plane plane = ⟨some (some data, dataLength), some rowStride, some pixelStride⟩ ∧
        ¬(dataLength.toInt ≤ 0 ∨ rowStride.toInt ≤ 0 ∨ pixelStride.toInt ≤ 0) := by
  rw [copyPlane] at copied
  generalize image.plane plane = entry at copied ⊢
  dsimp only at copied
  split at copied
  next data dataLength rowStride pixelStride mapped rows pixels =>
    split at copied
    · cases copied
    next positive =>
      obtain ⟨_, _, _⟩ := entry
      subst mapped rows pixels
      exact ⟨data, dataLength, rowStride, pixelStride, rfl, positive⟩
  · cases copied

/-- A plain crop is not narrower than nothing. -/
theorem CropRect.Plain.width_nonneg (plain : crop.Plain) : 0 ≤ crop.width :=
  Int.sub_nonneg_of_le plain.right

theorem CropRect.Plain.height_nonneg (plain : crop.Plain) : 0 ≤ crop.height :=
  Int.sub_nonneg_of_le plain.bottom

/-- A mapped plane is the row loop at the origin of its part of the crop. -/
theorem copyPlane_mapped {dataLength rowStride pixelStride : Int32} (plain : crop.Plain)
    (mapped : image.plane plane = ⟨some (some data, dataLength), some rowStride, some pixelStride⟩)
    (positive : ¬(dataLength.toInt ≤ 0 ∨ rowStride.toInt ≤ 0 ∨ pixelStride.toInt ≤ 0)) :
    copyPlane image crop crop.width crop.height plane =
      copyRows data dataLength.toInt rowStride.toInt pixelStride.toInt
        ((crop.left.toInt.toNat / 2 ^ planeShift plane : Nat) : Int)
        ((crop.top.toInt.toNat / 2 ^ planeShift plane : Nat) : Int)
        (crop.width.toNat / 2 ^ planeShift plane) (crop.height.toNat / 2 ^ planeShift plane) 0 := by
  rw [copyPlane, mapped]
  dsimp only
  rw [if_neg positive, ← planeShift, shifted_eq plain.left, shifted_eq plain.top,
    shifted_eq plain.width_nonneg, shifted_eq plain.height_nonneg, Int.toNat_natCast,
    Int.toNat_natCast]

/-- A plane that is copied covers its part of the crop, and its part is what is copied. -/
theorem copyPlane_eq (plain : crop.Plain)
    (copied : copyPlane image crop crop.width crop.height plane = .ok bytes) :
    bytes = cropPlane image crop plane ∧
      (image.plane plane).Covers (crop.left.toInt.toNat / 2 ^ planeShift plane)
        (crop.top.toInt.toNat / 2 ^ planeShift plane) (crop.width.toNat / 2 ^ planeShift plane)
        (crop.height.toNat / 2 ^ planeShift plane) := by
  obtain ⟨data, dataLength, rowStride, pixelStride, mapped, positive⟩ := copyPlane_inputs copied
  rw [copyPlane_mapped plain mapped positive] at copied
  simp only [not_or, Int.not_le] at positive
  obtain ⟨_, rowStrided, pixelStrided⟩ := positive
  constructor
  · rw [copyRows_eq copied, cropPlane, i420Plane, mapped]
    simp only [copyRow_eq, position_eq rowStrided pixelStrided, Int.toNat_natCast]
    rfl
  · refine ⟨data, dataLength, rowStride, pixelStride, mapped, rowStrided, pixelStrided, ?_⟩
    intro line below column within'
    obtain ⟨_, last⟩ := (copyRows_ok copied).2 line below
    rw [← position_eq rowStrided pixelStrided]
    have before : (column : Int) * pixelStride.toInt ≤
        (((crop.width.toNat / 2 ^ planeShift plane : Nat) : Int) - 1) * pixelStride.toInt :=
      mul_le_mul_of_nonneg_right (by omega) (Int.le_of_lt pixelStrided)
    omega

/-- Rows that all lie inside their plane are copied. -/
theorem copyRows_of_inside {planeWidth : Nat} (rows row : Nat)
    (forward : 0 ≤ ((planeWidth : Int) - 1) * pixelStride)
    (inside : ∀ offset : Nat, offset < rows →
      0 ≤ (cropTop + (row + offset : Nat)) * rowStride + cropLeft * pixelStride ∧
      (cropTop + (row + offset : Nat)) * rowStride + cropLeft * pixelStride
        + ((planeWidth : Int) - 1) * pixelStride < dataLength) :
    ∃ bytes, copyRows data dataLength rowStride pixelStride cropLeft cropTop planeWidth rows row =
      .ok bytes := by
  induction rows generalizing row with
  | zero => exact ⟨[], rfl⟩
  | succ rows ih =>
      have here := inside 0 (Nat.succ_pos rows)
      rw [Nat.add_zero] at here
      obtain ⟨rest, later⟩ := ih (row + 1) fun offset below => by
        have shifted := inside (offset + 1) (by omega)
        rwa [show row + (offset + 1) = row + 1 + offset by omega] at shifted
      rw [copyRows, if_neg (by omega), later]
      exact ⟨_, rfl⟩

/-- A plane that covers its part of the crop is copied. -/
theorem copyPlane_of_covers (plain : crop.Plain)
    (wide : 0 < crop.width.toNat / 2 ^ planeShift plane)
    (high : 0 < crop.height.toNat / 2 ^ planeShift plane)
    (covers : (image.plane plane).Covers (crop.left.toInt.toNat / 2 ^ planeShift plane)
      (crop.top.toInt.toNat / 2 ^ planeShift plane) (crop.width.toNat / 2 ^ planeShift plane)
      (crop.height.toNat / 2 ^ planeShift plane)) :
    ∃ bytes, copyPlane image crop crop.width crop.height plane = .ok bytes := by
  obtain ⟨data, dataLength, rowStride, pixelStride, mapped, rowStrided, pixelStrided, inside⟩ := covers
  have corner := inside 0 high 0 wide
  rw [copyPlane_mapped plain mapped (by omega)]
  apply copyRows_of_inside
  · exact Int.mul_nonneg (by omega) (Int.le_of_lt pixelStrided)
  · intro line below
    have start := position_eq rowStrided pixelStrided
      (crop.left.toInt.toNat / 2 ^ planeShift plane) (crop.top.toInt.toNat / 2 ^ planeShift plane) line 0
    have last := inside line below (crop.width.toNat / 2 ^ planeShift plane - 1) (by omega)
    rw [← position_eq rowStrided pixelStrided, Nat.cast_sub wide] at last
    rw [Nat.cast_zero, Int.zero_mul, Int.add_zero] at start
    exact ⟨by omega, last⟩

/-- When there is a picture to copy: the image has the format, the sides of its crop are even, the picture
fits the buffer, and each plane covers its part of the crop. -/
structure Croppable (image : Image) (crop : CropRect) (capacity : Nat) : Prop where
  format : image.format = some aimageFormatYuv420888
  planes : image.numberOfPlanes = some 3
  reported : image.cropRect = some crop
  wide : 0 < crop.width
  high : 0 < crop.height
  evenWidth : crop.width % 2 = 0
  evenHeight : crop.height % 2 = 0
  fits : crop.width.toNat * crop.height.toNat * 3 / 2 ≤ capacity
  covered : ∀ plane, (image.plane plane).Covers (crop.left.toInt.toNat / 2 ^ planeShift plane)
    (crop.top.toInt.toNat / 2 ^ planeShift plane) (crop.width.toNat / 2 ^ planeShift plane)
    (crop.height.toNat / 2 ^ planeShift plane)

/-- An image is normalized exactly if its crop is even, inside the planes and small enough, and the
pixels are those of that crop. -/
theorem normalizeImage_ok_iff {capacity : Nat} {pixels : Bytes}
    (plain : ∀ crop ∈ image.cropRect, crop.Plain) :
    normalizeImage image capacity = .ok pixels ↔
      ∃ crop, Croppable image crop capacity ∧ pixels = i420Crop image crop := by
  constructor
  · intro normalized
    obtain ⟨crop, luma, blue, red, reported, wide, high, evenWidth, evenHeight, fits, first, second,
      third, rfl⟩ := normalizeImage_planes normalized
    have format : image.format = some aimageFormatYuv420888 ∧ image.numberOfPlanes = some 3 := by
      by_contra other
      rw [normalizeImage, if_pos (by tauto)] at normalized
      cases normalized
    have placed := plain crop reported
    obtain ⟨narrow, low⟩ := copyPlane_zero_small wide high first
    rw [frameLength_toNat (Int.le_of_lt wide) (Int.le_of_lt high) narrow low] at fits
    obtain ⟨lumaBytes, lumaCovers⟩ := copyPlane_eq placed first
    obtain ⟨blueBytes, blueCovers⟩ := copyPlane_eq placed second
    obtain ⟨redBytes, redCovers⟩ := copyPlane_eq placed third
    refine ⟨crop, ⟨format.1, format.2, reported, wide, high, evenWidth, evenHeight, fits, ?_⟩, ?_⟩
    · intro plane
      have three : ∀ plane : Fin 3, plane = 0 ∨ plane = 1 ∨ plane = 2 := by decide
      rcases three plane with rfl | rfl | rfl
      · exact lumaCovers
      · exact blueCovers
      · exact redCovers
    · rw [lumaBytes, blueBytes, redBytes, i420Crop]
  · rintro ⟨crop, croppable, rfl⟩
    obtain ⟨format, planes, reported, wide, high, evenWidth, evenHeight, fits, covered⟩ := croppable
    have placed := plain crop reported
    have copied : ∀ plane, copyPlane image crop crop.width crop.height plane =
        .ok (cropPlane image crop plane) := by
      intro plane
      obtain ⟨bytes, copied⟩ := copyPlane_of_covers placed
        (by rw [planeShift]; split <;> simp <;> omega)
        (by rw [planeShift]; split <;> simp <;> omega) (covered plane)
      rw [copied, (copyPlane_eq placed copied).1]
    obtain ⟨narrow, low⟩ := copyPlane_zero_small wide high (copied 0)
    rw [← frameLength_toNat (Int.le_of_lt wide) (Int.le_of_lt high) narrow low] at fits
    rw [normalizeImage, if_neg (by simp [format, planes]), reported]
    dsimp only
    rw [← CropRect.width, ← CropRect.height, if_neg (by omega), copied, copied, copied]
    rfl

/-- The bytes of the picture that an image reports. -/
def Image.pictureBytes (image : Image) : Nat :=
  image.cropRect.elim 0 fun crop => crop.width.toNat * crop.height.toNat * 3 / 2

/-- The whole function does what a pure one says, and what it has written has at most `limit` bytes, also
when it fails. -/
def Leaves (limit : Nat) (outcome : Except (Stop Failure) Nat × Bytes) : Except Failure Bytes → Prop
  | .ok bytes => outcome = (.ok bytes.length, bytes) ∧ bytes.length ≤ limit
  | .error failure => ∃ part, outcome = (.error (.failed failure), part) ∧ part.length ≤ limit

theorem leaves_fail {limit : Nat} (failure : Failure) :
    Leaves limit (run (fail failure : Copying Nat) []) (.error failure) :=
  ⟨[], rfl, Nat.zero_le limit⟩

/-- The rest of the function after a part of it. -/
theorem Writes.leaves {part : Copying Unit} {rest : Copying Nat} {written : Bytes} {limit more : Nat}
    {pure : Except Failure Bytes} {after : Bytes → Except Failure Bytes}
    (writes : Writes more written (run part written) pure) (room : written.length + more ≤ limit)
    (leaves : ∀ bytes, pure = .ok bytes →
      Leaves limit (run rest (written ++ bytes)) (after bytes)) :
    Leaves limit (run (do part; rest) written) (pure >>= after) := by
  cases pure with
  | error failure =>
      obtain ⟨left, same, few⟩ := writes
      refine ⟨written ++ left, run_bind_of_error same, ?_⟩
      rw [List.length_append]
      omega
  | ok bytes =>
      have same : run (do part; rest) written = run rest (written ++ bytes) := run_bind_of_ok writes.1
      rw [same]
      exact leaves bytes rfl

/-- The three planes one after the other: each finds the room that those before it have left. -/
theorem planes_leaves (plain : crop.Plain) (wide : 0 < crop.width) (high : 0 < crop.height)
    (evenWidth : crop.width % 2 = 0) (evenHeight : crop.height % 2 = 0)
    (small : crop.width.toNat * crop.height.toNat * 3 / 2 < 2 ^ 64) :
    Leaves (crop.width.toNat * crop.height.toNat * 3 / 2)
      (run (do
        copyPlaneChecked image crop crop.width crop.height 0
        copyPlaneChecked image crop crop.width crop.height 1
        copyPlaneChecked image crop crop.width crop.height 2
        let output ← get
        pure output.length) [])
      (do
        let luma ← copyPlane image crop crop.width crop.height 0
        let blue ← copyPlane image crop crop.width crop.height 1
        let red ← copyPlane image crop crop.width crop.height 2
        pure (luma ++ blue ++ red)) := by
  have sum := planeBytes_sum wide high evenWidth evenHeight
  have written {plane : Fin 3} {bytes : Bytes}
      (copied : copyPlane image crop crop.width crop.height plane = .ok bytes) :
      bytes.length = planeBytes crop plane := copyPlane_ok copied
  have next {before : Bytes} {rest : Copying Nat} {after : Bytes → Except Failure Bytes} (plane : Fin 3)
      (room : before.length + planeBytes crop plane ≤ crop.width.toNat * crop.height.toNat * 3 / 2)
      (leaves : ∀ bytes, copyPlane image crop crop.width crop.height plane = .ok bytes →
        Leaves (crop.width.toNat * crop.height.toNat * 3 / 2) (run rest (before ++ bytes))
          (after bytes)) :
      Leaves (crop.width.toNat * crop.height.toNat * 3 / 2)
        (run (do copyPlaneChecked image crop crop.width crop.height plane; rest) before)
        (copyPlane image crop crop.width crop.height plane >>= after) :=
    (copyPlaneChecked_writes plain wide high evenWidth plane
      (Nat.lt_of_le_of_lt room small)).leaves room leaves
  refine next 0 (by rw [List.length_nil]; omega) fun luma first => ?_
  have lumaLength := written first
  rw [List.nil_append]
  refine next 1 (by omega) fun blue second => ?_
  have blueLength := written second
  refine next 2 (by rw [List.length_append]; omega) fun red third => ?_
  have redLength := written third
  refine ⟨rfl, ?_⟩
  rw [List.length_append, List.length_append]
  omega

/-- A number that is not negative and below `2 ^ 64` is the same when it is unsigned. -/
theorem toUint64_of_nonneg {value : Int} (nonnegative : 0 ≤ value) (small : value < 2 ^ 64) :
    toUint64 value = value :=
  Int.emod_eq_of_lt nonnegative small

/-- The function over machine integers does what the function over mathematical ones does. -/
theorem normalizeImageChecked_leaves (capacity : Nat) (plain : ∀ crop ∈ image.cropRect, crop.Plain) :
    Leaves (min image.pictureBytes capacity) (run (normalizeImageChecked image capacity) [])
      (normalizeImage image capacity) := by
  rw [normalizeImageChecked, normalizeImage]
  dsimp only
  split
  · exact leaves_fail _
  rw [Image.pictureBytes]
  cases reported : image.cropRect with
  | none => exact leaves_fail _
  | some crop =>
    have placed := plain crop reported
    have farRight := Int32.toInt_lt crop.right
    have farBottom := Int32.toInt_lt crop.bottom
    have wide := placed.width_nonneg
    have high := placed.height_nonneg
    have narrow : crop.width < 2 ^ 31 := by
      have left := placed.left
      rw [CropRect.width]
      omega
    have low : crop.height < 2 ^ 31 := by
      have top := placed.top
      rw [CropRect.height]
      omega
    have area := product_bound wide narrow high low
    have same := frameLength_toNat wide high narrow low
    have length : crop.width * crop.height * 3 / 2 =
        ((crop.width.toNat * crop.height.toNat * 3 / 2 : Nat) : Int) := by
      push_cast
      rw [Int.toNat_of_nonneg wide, Int.toNat_of_nonneg high]
    dsimp only [Option.elim]
    rw [← CropRect.width, ← CropRect.height, int32_bind (by omega), int32_bind (by omega),
      toUint64_of_nonneg wide (by omega), toUint64_of_nonneg high (by omega), uint64_bind (by omega),
      uint64_bind (by omega), length, same]
    simp only [Nat.cast_lt]
    split
    · exact leaves_fail _
    next checked =>
      simp only [not_or, Int.not_le, Nat.not_lt, not_not] at checked
      obtain ⟨wide, high, evenWidth, evenHeight, fits⟩ := checked
      rw [min_eq_left fits]
      exact planes_leaves placed wide high evenWidth evenHeight (by omega)

/-- What a run of `normalize_image` comes to. -/
structure ImageNormalized (image : Image) (capacity : Nat)
    (outcome : Except (Stop Failure) Nat × Bytes) : Prop where
  /-- No operation overflows its width and no read leaves its plane. -/
  defined : ∀ kind, outcome.1 ≠ .error (.fault kind)
  /-- On every path, what has been written stays within the picture and within the buffer. -/
  written : outcome.2.length ≤ image.pictureBytes ∧ outcome.2.length ≤ capacity
  /-- It succeeds exactly when there is a picture to copy, and returns the length of the picture. -/
  succeeds : ∀ length, outcome.1 = .ok length ↔ ∃ crop, Croppable image crop capacity ∧
    length = crop.width.toNat * crop.height.toNat * 3 / 2
  /-- Then the output is the crop, sample by sample. -/
  cropped : ∀ crop length, image.cropRect = some crop → outcome.1 = .ok length →
    outcome.2 = i420Crop image crop ∧ outcome.2.length = length

/-- Copying that leaves a result has run into no undefined behaviour. -/
theorem Leaves.defined {limit : Nat} {outcome : Except (Stop Failure) Nat × Bytes}
    {result : Except Failure Bytes} (leaves : Leaves limit outcome result) (kind : Fault) :
    outcome.1 ≠ .error (.fault kind) := by
  intro faulted
  cases result with
  | ok bytes =>
      rw [leaves.1] at faulted
      cases faulted
  | error failure =>
      obtain ⟨part, same, _⟩ := leaves
      rw [same] at faulted
      cases faulted

/-- Copying never writes more than its limit. -/
theorem Leaves.written {limit : Nat} {outcome : Except (Stop Failure) Nat × Bytes}
    {result : Except Failure Bytes} (leaves : Leaves limit outcome result) :
    outcome.2.length ≤ limit := by
  cases result with
  | ok bytes =>
      rw [leaves.1]
      exact leaves.2
  | error failure =>
      obtain ⟨part, same, few⟩ := leaves
      rw [same]
      exact few

/-- Copying succeeds with a length exactly if the result is what was written, and it is as long. -/
theorem Leaves.ok_iff {limit length : Nat} {outcome : Except (Stop Failure) Nat × Bytes}
    {result : Except Failure Bytes} (leaves : Leaves limit outcome result) :
    outcome.1 = .ok length ↔ result = .ok outcome.2 ∧ length = outcome.2.length := by
  cases result with
  | ok bytes =>
      rw [leaves.1]
      simp [eq_comm]
  | error failure =>
      obtain ⟨part, same, _⟩ := leaves
      rw [same]
      simp

/-- A crop has half again as many bytes as pixels. -/
theorem length_i420Crop {capacity : Nat} (plain : ∀ crop ∈ image.cropRect, crop.Plain)
    (croppable : Croppable image crop capacity) :
    (i420Crop image crop).length = crop.width.toNat * crop.height.toNat * 3 / 2 := by
  have normalized := (normalizeImage_ok_iff plain).2 ⟨crop, croppable, rfl⟩
  obtain ⟨_, reported, _, _, length, _⟩ := normalizeImage_length normalized
  rw [croppable.reported] at reported
  cases reported
  exact length

/-- For every image with a plain crop and every capacity, copying with checked arithmetic normalizes it
as the model does, without a fault; both ways to copy a row give the same bytes; and the result is the
crop in the I420 layout. -/
theorem normalize_image_is_crop (image : Image) (capacity : Nat)
    (plain : ∀ crop ∈ image.cropRect, crop.Plain) :
    ImageNormalized image capacity (run (normalizeImageChecked image capacity) []) ∧
      -- The two ways to copy a row of adjacent pixels.
      ∀ (data : Nat → UInt8) (dataLength : Int32) (first : Int) (planeWidth : Nat) (written : Bytes),
        0 ≤ first → first + planeWidth ≤ dataLength.toInt → written.length + planeWidth < 2 ^ 64 →
        run (copyAdjacent data dataLength.toInt first planeWidth) written =
          run (copyPixels data dataLength.toInt first 1 planeWidth 0) written := by
  have leaves := normalizeImageChecked_leaves capacity plain
  constructor
  · constructor
    case defined => exact leaves.defined
    case written => exact le_min_iff.1 leaves.written
    case succeeds =>
      intro length
      rw [leaves.ok_iff, normalizeImage_ok_iff plain]
      constructor
      · rintro ⟨⟨crop, croppable, pixels⟩, rfl⟩
        exact ⟨crop, croppable, by rw [pixels, length_i420Crop plain croppable]⟩
      · rintro ⟨crop, croppable, rfl⟩
        have normalized := (normalizeImage_ok_iff plain).2 ⟨crop, croppable, rfl⟩
        rw [normalized] at leaves
        rw [leaves.1, length_i420Crop plain croppable]
        exact ⟨⟨crop, croppable, rfl⟩, rfl⟩
    case cropped =>
      intro crop length reported succeeded
      obtain ⟨normalized, same⟩ := leaves.ok_iff.1 succeeded
      obtain ⟨other, croppable, pixels⟩ := (normalizeImage_ok_iff plain).1 normalized
      rw [croppable.reported] at reported
      cases reported
      exact ⟨pixels, same.symm⟩
  · intro data dataLength first planeWidth written low inside fits
    exact copyAdjacent_eq_copyPixels low (Int32.toInt_lt dataLength) inside fits

/-- A crop with an odd origin: adjacent luma pixels, and chroma pixels that alternate. -/
def oddCropImage : Image where
  format := some aimageFormatYuv420888
  numberOfPlanes := some 3
  cropRect := some ⟨1, 1, 3, 3⟩
  plane plane :=
    if plane = lumaPlane then ⟨some (some fun index => index.toUInt8, 16), some 4, some 1⟩
    else ⟨some (some fun index => (100 + index).toUInt8, 7), some 4, some 2⟩

theorem normalize_image_is_crop_odd_origin :
    (∀ crop ∈ oddCropImage.cropRect, crop.Plain) ∧
      run (normalizeImageChecked oddCropImage 6) [] = (.ok 6, [5, 6, 9, 10, 100, 100]) ∧
      ImageNormalized oddCropImage 6 (run (normalizeImageChecked oddCropImage 6) []) := by
  have plain : ∀ crop ∈ oddCropImage.cropRect, crop.Plain := by
    intro crop reported
    cases reported
    constructor <;> decide
  exact ⟨plain, rfl, (normalize_image_is_crop oddCropImage 6 plain).1⟩

end Crop
end DawnShell
