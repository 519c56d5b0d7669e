/-
# VhalClient.Emulator.Frames — a frame that `GetOneFrame` takes from the content file.

With dimensions of its own the content is read row by row: a row of the source goes to a row buffer, its
front to the frame, and the rows below the surface are read to be skipped.  `copyRows_eq` says what a whole
such pass does: the crop of one source frame, and one source frame further.  This is also what the direct
read does when the dimensions agree (`row_path_crops`).
-/
import VhalClient.Emulator.CmdHandler

namespace VhalClient.Emulator

open VhalClient.Lib

/-! ## Crops -/

/-- The first `width` bytes of each of the first `rows` rows of `stride` bytes. -/
def cropRows (stride width rows : ℕ) (bytes : List UInt8) : List UInt8 :=
  (List.range rows).flatMap fun r => (bytes.drop (r * stride)).take width

theorem cropRows_succ (stride width rows : ℕ) (bytes : List UInt8) :
    cropRows stride width (rows + 1) bytes =
      cropRows stride width rows bytes ++ (bytes.drop (rows * stride)).take width := by
  simp [cropRows, List.range_succ]

/-- Whole rows are what there is. -/
theorem cropRows_self (stride rows : ℕ) (bytes : List UInt8) :
    cropRows stride stride rows bytes = bytes.take (rows * stride) := by
  induction rows with
  | zero => simp [cropRows]
  | succ rows ih => rw [cropRows_succ, ih, Nat.succ_mul, List.take_add]

section Rows

variable {stride width rows : ℕ} {bytes : List UInt8}

theorem length_cropRows (hwidth : width ≤ stride) (hrows : rows * stride ≤ bytes.length) :
    (cropRows stride width rows bytes).length = rows * width := by
  induction rows with
  | zero => simp [cropRows]
  | succ rows ih =>
    rw [Nat.succ_mul] at hrows
    rw [cropRows_succ, List.length_append, ih (by omega), Nat.succ_mul, List.length_take, List.length_drop]
    omega

/-- A row of the crop is the front of a row. -/
theorem row_cropRows (hwidth : width ≤ stride) (hrows : rows * stride ≤ bytes.length) {r : ℕ}
    (hr : r < rows) :
    ((cropRows stride width rows bytes).drop (r * width)).take width =
      (bytes.drop (r * stride)).take width := by
  induction rows with
  | zero => omega
  | succ rows ih =>
    rw [Nat.succ_mul] at hrows
    have hlen : (cropRows stride width rows bytes).length = rows * width :=
      length_cropRows hwidth (by omega)
    rw [cropRows_succ]
    rcases Nat.lt_succ_iff_lt_or_eq.mp hr with hlt | rfl
    · -- The row ends before the one that was added.
      have hend : r * width + width ≤ rows * width := by
        rw [← Nat.succ_mul]
        exact Nat.mul_le_mul_right width hlt
      rw [List.drop_append_of_le_length (by omega), List.take_append_of_le_length (by simp; omega)]
      exact ih (by omega) hlt
    · rw [← hlen, List.drop_left, List.take_take, Nat.min_self]

/-- Only the bytes of these rows count. -/
theorem cropRows_take (hwidth : width ≤ stride) {n : ℕ} (hn : rows * stride ≤ n) :
    cropRows stride width rows (bytes.take n) = cropRows stride width rows bytes := by
  induction rows with
  | zero => simp [cropRows]
  | succ rows ih =>
    rw [Nat.succ_mul] at hn
    rw [cropRows_succ, cropRows_succ, ih (by omega), List.drop_take, List.take_take, Nat.min_eq_left (by omega)]

end Rows

/-! ## One pass over the rows -/

namespace InputStream

theorem read_full (st : InputStream) (hgood : st.good = true) {n : ℕ} (hleft : st.pos + n ≤ st.content.length)
    (buf : List UInt8) :
    st.read n buf = (overwrite ((st.content.drop st.pos).take n) buf, { st with pos := st.pos + n }) := by
  have hlen : ((st.content.drop st.pos).take n).length = n := by
    rw [List.length_take, List.length_drop]
    omega
  have hbits : st.eof = false ∧ st.fail = false := by simpa [good] using hgood
  unfold read
  rw [if_pos hgood]
  simp only [hlen, Nat.lt_irrefl, decide_false]
  rw [hbits.1, hbits.2]

end InputStream

theorem memcpyAt_append {offset : ℕ} {row front back : List UInt8} (h : front.length = offset) :
    memcpyAt offset row (front ++ back) = front ++ row ++ back.drop row.length := by
  rw [memcpyAt, ← h, List.take_left, List.drop_left, overwrite, List.append_assoc]

section Pass

variable {stride width : ℕ} {st : InputStream}

/-- Rows that are all there: each brings its front to the frame. -/
theorem foldl_copyRow (hwidth : width ≤ stride) (hgood : st.good = true) (src frame : List UInt8) (rows : ℕ)
    (hleft : st.pos + rows * stride ≤ st.content.length) :
    ∃ src', (List.range rows).foldl (copyRow stride width) (src, frame, st) =
      (src', cropRows stride width rows (st.content.drop st.pos) ++ frame.drop (rows * width),
        { st with pos := st.pos + rows * stride }) := by
  induction rows with
  | zero => exact ⟨src, by simp [cropRows]⟩
  | succ rows ih =>
    rw [Nat.succ_mul] at hleft
    obtain ⟨src', hrows⟩ := ih (by omega)
    have hcrop : (cropRows stride width rows (st.content.drop st.pos)).length = rows * width :=
      length_cropRows hwidth (by rw [List.length_drop]; omega)
    have hgot : ((st.content.drop (st.pos + rows * stride)).take stride).length = stride := by
      rw [List.length_take, List.length_drop]
      omega
    -- What is copied is the front of what was just read, whatever the row buffer held.
    have hfront : (overwrite ((st.content.drop (st.pos + rows * stride)).take stride) src').take width =
        ((st.content.drop st.pos).drop (rows * stride)).take width := by
      rw [overwrite, List.take_append_of_le_length (by omega), List.take_take, Nat.min_eq_left hwidth,
        List.drop_drop]
    refine ⟨overwrite ((st.content.drop (st.pos + rows * stride)).take stride) src', ?_⟩
    rw [List.range_succ, List.foldl_append, hrows, List.foldl_cons, List.foldl_nil]
    unfold copyRow
    dsimp only
    rw [InputStream.read_full { st with pos := st.pos + rows * stride } hgood (by dsimp only; omega)]
    dsimp only
    have hrow : (((st.content.drop st.pos).drop (rows * stride)).take width).length = width := by
      rw [List.length_take, List.length_drop, List.length_drop]
      omega
    rw [hfront, memcpyAt_append hcrop, hrow, cropRows_succ, Nat.succ_mul, Nat.succ_mul,
      List.drop_drop (l := frame), Nat.add_assoc st.pos]

/-- **One pass**: the crop of one source frame, the rest of the frame as it was, and one source frame
further. -/
theorem copyRows_eq (hwidth : width ≤ stride) {srcHeight height : ℕ} (hheight : height ≤ srcHeight)
    (hgood : st.good = true) (hleft : st.pos + srcHeight * stride ≤ st.content.length)
    (src frame : List UInt8) :
    copyRows srcHeight height stride width src frame st =
      (cropRows stride width height (st.content.drop st.pos) ++ frame.drop (height * width),
        { st with pos := st.pos + srcHeight * stride }) := by
  have hsplit : srcHeight * stride = height * stride + (srcHeight - height) * stride := by
    rw [← Nat.add_mul, Nat.add_sub_cancel' hheight]
  obtain ⟨src', hrows⟩ := foldl_copyRow hwidth hgood src frame height (by omega)
  have hskip : ∀ (rest : ℕ) (src : List UInt8), height * stride + rest * stride ≤ srcHeight * stride →
      ((List.range rest).foldl (fun (acc : List UInt8 × InputStream) (_ : ℕ) => acc.2.read stride acc.1)
        (src, { st with pos := st.pos + height * stride })).2 =
      { st with pos := st.pos + height * stride + rest * stride } := by
    intro rest src hrest
    induction rest with
    | zero => simp
    | succ rest ih =>
      rw [Nat.succ_mul] at hrest
      rw [List.range_succ, List.foldl_append, List.foldl_cons, List.foldl_nil, ih (by omega),
        InputStream.read_full { st with pos := st.pos + height * stride + rest * stride } hgood
          (by dsimp only; omega)]
      dsimp only
      rw [Nat.succ_mul, Nat.add_assoc _ (rest * stride)]
  unfold copyRows
  rw [hrows]
  dsimp only
  rw [hskip (srcHeight - height) src' (by omega), hsplit, Nat.add_assoc]

end Pass

/-! ## `GetOneFrame` -/

namespace SurfaceParams

/-- The bytes of a row, and of all rows, as numbers. -/
def rowBytes (surf : SurfaceParams) : ℕ := surf.width.toNat * surf.pixelSize.toNat

def bytes (surf : SurfaceParams) : ℕ := surf.width.toNat * surf.height.toNat * surf.pixelSize.toNat

theorem height_mul_rowBytes (surf : SurfaceParams) : surf.height.toNat * surf.rowBytes = surf.bytes := by
  rw [rowBytes, bytes]
  ring

end SurfaceParams

/-- The bytes of a source row, and of a source frame, for pixels of the surface's size. -/
def srcRowBytes (srcWidth : UInt32) (surf : SurfaceParams) : ℕ := srcWidth.toNat * surf.pixelSize.toNat

def srcBytes (srcWidth srcHeight : UInt32) (surf : SurfaceParams) : ℕ :=
  srcWidth.toNat * srcHeight.toNat * surf.pixelSize.toNat

theorem height_mul_srcRowBytes (srcWidth srcHeight : UInt32) (surf : SurfaceParams) :
    srcHeight.toNat * srcRowBytes srcWidth surf = srcBytes srcWidth srcHeight surf := by
  rw [srcRowBytes, srcBytes]
  ring

/-- A product of three words whose value fits in a word has this value. -/
theorem toNat_mul_mul {a b c : UInt32} (h : a.toNat * b.toNat * c.toNat < 2 ^ 32) :
    (a * b * c).toNat = a.toNat * b.toNat * c.toNat := by
  rw [UInt32.toNat_mul, UInt32.toNat_mul, Nat.mod_mul_mod, Nat.mod_eq_of_lt h]

/-- A surface that is a part of the source, row by row. -/
structure Crops (srcWidth srcHeight : UInt32) (surf : SurfaceParams) : Prop where
  width_pos : 0 < surf.width
  height_pos : 0 < surf.height
  pixel_pos : 0 < surf.pixelSize
  width_le : surf.width ≤ srcWidth
  height_le : surf.height ≤ srcHeight
  product : srcBytes srcWidth srcHeight surf < 2 ^ 32

namespace Crops

variable {srcWidth srcHeight : UInt32} {surf : SurfaceParams}

theorem toNat_pos {w : UInt32} (h : 0 < w) : 0 < w.toNat := by simpa [UInt32.lt_iff_toNat_lt] using h

theorem bytes_le (h : Crops srcWidth srcHeight surf) : surf.bytes ≤ srcBytes srcWidth srcHeight surf := by
  have hw : surf.width.toNat ≤ srcWidth.toNat := UInt32.le_iff_toNat_le.mp h.width_le
  have hh : surf.height.toNat ≤ srcHeight.toNat := UInt32.le_iff_toNat_le.mp h.height_le
  unfold SurfaceParams.bytes srcBytes
  gcongr

theorem toNat_bytesToRead (h : Crops srcWidth srcHeight surf) :
    (surf.width * surf.height * surf.pixelSize).toNat = surf.bytes :=
  toNat_mul_mul (lt_of_le_of_lt h.bytes_le h.product)

theorem bytes_pos (h : Crops srcWidth srcHeight surf) : 0 < surf.bytes :=
  Nat.mul_pos (Nat.mul_pos (toNat_pos h.width_pos) (toNat_pos h.height_pos)) (toNat_pos h.pixel_pos)

/-- One row of the source is no longer than the source. -/
theorem toNat_srcStride (h : Crops srcWidth srcHeight surf) :
    (srcWidth * surf.pixelSize).toNat = srcRowBytes srcWidth surf := by
  have hrow : 1 * srcRowBytes srcWidth surf ≤ srcHeight.toNat * srcRowBytes srcWidth surf := by
    apply Nat.mul_le_mul_right
    exact Nat.lt_of_lt_of_le (toNat_pos h.height_pos) (UInt32.le_iff_toNat_le.mp h.height_le)
  rw [height_mul_srcRowBytes, Nat.one_mul] at hrow
  rw [UInt32.toNat_mul]
  exact Nat.mod_eq_of_lt (lt_of_le_of_lt hrow h.product)

theorem rowBytes_le (h : Crops srcWidth srcHeight surf) : surf.rowBytes ≤ srcRowBytes srcWidth surf := by
  have hw : surf.width.toNat ≤ srcWidth.toNat := UInt32.le_iff_toNat_le.mp h.width_le
  unfold SurfaceParams.rowBytes srcRowBytes
  gcongr

theorem toNat_dstStride (h : Crops srcWidth srcHeight surf) :
    (surf.width * surf.pixelSize).toNat = surf.rowBytes := by
  have hsrc := h.toNat_srcStride
  have hlt := (srcWidth * surf.pixelSize).toNat_lt
  rw [UInt32.toNat_mul]
  exact Nat.mod_eq_of_lt (lt_of_le_of_lt h.rowBytes_le (hsrc ▸ hlt))

theorem not_isDirectRead (h : Crops srcWidth srcHeight surf) : isDirectRead srcWidth srcHeight 0 0 = false := by
  have hw : ¬ srcWidth = 0 := by
    intro hzero
    have hle := UInt32.le_iff_toNat_le.mp h.width_le
    rw [hzero] at hle
    exact absurd hle (not_le.mpr (toNat_pos h.width_pos))
  simp [isDirectRead, hw]

end Crops

section Calls

variable {srcWidth srcHeight : UInt32} {surf : SurfaceParams} {st : InputStream}

/-- A stream at a frame that is all there, on the row-by-row path. -/
theorem getOneFrame_rows (h : Crops srcWidth srcHeight surf) (hgood : st.good = true)
    (hleft : st.pos + srcBytes srcWidth srcHeight surf ≤ st.content.length) (fresh : ℕ → UInt8)
    (pFrame : List UInt8) :
    getOneFrame fresh srcWidth srcHeight surf pFrame st =
      (.ok (cropRows (srcRowBytes srcWidth surf) surf.rowBytes surf.height.toNat (st.content.drop st.pos) ++
          pFrame.drop surf.bytes),
        { st with pos := st.pos + srcBytes srcWidth srcHeight surf }) := by
  have hbytes : ¬ surf.width * surf.height * surf.pixelSize = 0 := by
    intro hzero
    have hpos := h.bytes_pos
    rw [← h.toNat_bytesToRead, hzero] at hpos
    exact absurd hpos (by decide)
  have hdims : ¬ (srcWidth < surf.width ∨ srcHeight < surf.height) := by
    rw [not_or, UInt32.not_lt, UInt32.not_lt]
    exact ⟨h.width_le, h.height_le⟩
  have hheight : surf.height.toNat ≤ srcHeight.toNat := UInt32.le_iff_toNat_le.mp h.height_le
  unfold getOneFrame
  simp only [hgood, Bool.true_eq_false, false_and, if_false, if_neg hbytes, h.not_isDirectRead,
    Bool.false_eq_true, if_neg hdims, h.toNat_srcStride, h.toNat_dstStride]
  rw [copyRows_eq h.rowBytes_le hheight hgood (by rw [height_mul_srcRowBytes]; exact hleft),
    height_mul_srcRowBytes, SurfaceParams.height_mul_rowBytes]

/-- A stream at a frame that is all there, on the direct path. -/
theorem getOneFrame_direct (hproduct : surf.bytes < 2 ^ 32) (hpos : surf.bytes ≠ 0) (hgood : st.good = true)
    (hleft : st.pos + surf.bytes ≤ st.content.length) (fresh : ℕ → UInt8) (pFrame : List UInt8) :
    getOneFrame fresh 0 0 surf pFrame st =
      (.ok ((st.content.drop st.pos).take surf.bytes ++ pFrame.drop surf.bytes),
        { st with pos := st.pos + surf.bytes }) := by
  have htoNat : (surf.width * surf.height * surf.pixelSize).toNat = surf.bytes := toNat_mul_mul hproduct
  have hbytes : ¬ surf.width * surf.height * surf.pixelSize = 0 := by
    intro hzero
    rw [hzero] at htoNat
    exact hpos htoNat.symm
  have hlen : ((st.content.drop st.pos).take surf.bytes).length = surf.bytes := by
    rw [List.length_take, List.length_drop]
    omega
  unfold getOneFrame
  simp only [hgood, Bool.true_eq_false, false_and, if_false, if_neg hbytes, isDirectRead, decide_true,
    Bool.and_self, Bool.true_or, if_true, htoNat]
  rw [st.read_full hgood hleft, overwrite, hlen]

/-- **The row-by-row path writes the crop of one source frame, row by row to its place, and nothing else, and
goes one source frame further; with the dimensions of the source it does what the direct read does.** -/
theorem row_path_crops (h : Crops srcWidth srcHeight surf) (hgood : st.good = true)
    (hleft : st.pos + srcBytes srcWidth srcHeight surf ≤ st.content.length) (fresh : ℕ → UInt8)
    (pFrame : List UInt8) :
    ∃ frame,
      getOneFrame fresh srcWidth srcHeight surf pFrame st =
        (.ok (frame ++ pFrame.drop surf.bytes),
          { st with pos := st.pos + srcBytes srcWidth srcHeight surf }) ∧
      frame.length = surf.bytes ∧
      (∀ r < surf.height.toNat, (frame.drop (r * surf.rowBytes)).take surf.rowBytes =
        (st.content.drop (st.pos + r * srcRowBytes srcWidth surf)).take surf.rowBytes) ∧
      (srcWidth = surf.width → srcHeight = surf.height →
        getOneFrame fresh srcWidth srcHeight surf pFrame st = getOneFrame fresh 0 0 surf pFrame st) := by
  have hheight : surf.height.toNat ≤ srcHeight.toNat := UInt32.le_iff_toNat_le.mp h.height_le
  have hrows : surf.height.toNat * srcRowBytes srcWidth surf ≤ (st.content.drop st.pos).length := by
    have hle := Nat.mul_le_mul_right (srcRowBytes srcWidth surf) hheight
    rw [height_mul_srcRowBytes srcWidth srcHeight] at hle
    rw [List.length_drop]
    omega
  have hrow := getOneFrame_rows h hgood hleft fresh pFrame
  refine ⟨_, hrow, ?_, ?_, ?_⟩
  · rw [length_cropRows h.rowBytes_le hrows, SurfaceParams.height_mul_rowBytes]
  · intro r hr
    rw [row_cropRows h.rowBytes_le hrows hr, List.drop_drop]
  · rintro rfl rfl
    -- A crop to all of the source is the source, and the frames are of one size.
    have hproduct : surf.bytes < 2 ^ 32 := h.product
    rw [hrow, getOneFrame_direct hproduct h.bytes_pos.ne' hgood hleft]
    rw [show srcRowBytes surf.width surf = surf.rowBytes from rfl, cropRows_self,
      SurfaceParams.height_mul_rowBytes]
    rfl

/-- A source of two rows of two pixels, of which a column is taken. -/
theorem row_path_crops_column :
    ∃ frame, getOneFrame (fun _ => 0) 2 2 ⟨1, 2, 4, 1, 0, 0, 0, 4, 32⟩ (List.replicate 8 0)
        ⟨List.range 16 |>.map UInt8.ofNat, 0, false, false⟩ =
      (.ok (frame ++ (List.replicate 8 0).drop 8), ⟨List.range 16 |>.map UInt8.ofNat, 16, false, false⟩) ∧
      frame.length = 8 := by
  have h : Crops 2 2 ⟨1, 2, 4, 1, 0, 0, 0, 4, 32⟩ :=
    ⟨by decide, by decide, by decide, by decide, by decide, by decide⟩
  obtain ⟨frame, hframe, hlen, -⟩ :=
    @row_path_crops 2 2 ⟨1, 2, 4, 1, 0, 0, 0, 4, 32⟩ ⟨List.range 16 |>.map UInt8.ofNat, 0, false, false⟩ h
      rfl (by decide) (fun _ => 0) (List.replicate 8 0)
  exact ⟨frame, hframe, hlen⟩

end Calls

end VhalClient.Emulator
