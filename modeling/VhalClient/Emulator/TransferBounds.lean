/-
# VhalClient.Emulator.TransferBounds — the memory a frame goes through.

A display request allocates a frame, fills it from the content file and copies it to the mapped object.  The
three sizes are 32-bit products: of the frame, of a row, of the object.  The loops walk with pointers, which do
not wrap.  Here the functions keep the stretches of memory they touch (`getOneFrameLogged`, `copyReads`,
`copyWrites`); they are the functions of the model with a log (`getOneFrameLogged_fst`, `writeRows_eq`).

A loop over rows is within bounds exactly when its last row is (`rowSpans_within_iff`).  So what the surfaces
that are accepted need is two inequalities: rows times row must not reach 2^32, and the last row written has to
end within the object (`transfer_within_iff`).
-/
import VhalClient.Emulator.Frames

namespace VhalClient.Emulator

open VhalClient.Lib VhalClient.Display

/-! ## Stretches of memory -/

/-- A stretch of some memory. -/
structure Span where
  offset : ℕ
  length : ℕ
  deriving DecidableEq, Repr

namespace Span

/-- Every byte of the stretch lies below the size. -/
def Within (size : ℕ) (s : Span) : Prop := ∀ j < s.length, s.offset + j < size

theorem within_iff {size : ℕ} {s : Span} : s.Within size ↔ s.length = 0 ∨ s.offset + s.length ≤ size := by
  constructor
  · intro h
    by_cases hzero : s.length = 0
    · exact Or.inl hzero
    · have hlast := h (s.length - 1) (by omega)
      omega
  · rintro (hzero | hle) j hj
    · omega
    · omega

end Span

/-- A stretch for each row, the rows a step apart. -/
def rowSpans (rows step length : ℕ) : List Span := (List.range rows).map fun i => ⟨i * step, length⟩

/-- Rows are within bounds exactly when the last one is. -/
theorem rowSpans_within_iff {rows step length size : ℕ} (hrows : 0 < rows) :
    (∀ s ∈ rowSpans rows step length, s.Within size) ↔
      length = 0 ∨ (rows - 1) * step + length ≤ size := by
  simp only [rowSpans, List.mem_map, List.mem_range, forall_exists_index, and_imp,
    forall_apply_eq_imp_iff₂, Span.within_iff]
  constructor
  · intro h
    exact h (rows - 1) (by omega)
  · rintro (hzero | hlast) i hi
    · exact Or.inl hzero
    · have hle : i * step ≤ (rows - 1) * step := Nat.mul_le_mul_right step (by omega)
      exact Or.inr (by omega)

/-! ## The functions with their accesses -/

/-- `copyRow`, with the stretch of the frame that `memcpy` fills. -/
def copyRowLogged (srcStride dstStride : ℕ) (acc : (List UInt8 × List UInt8 × InputStream) × List Span)
    (row : ℕ) : (List UInt8 × List UInt8 × InputStream) × List Span :=
  (copyRow srcStride dstStride acc.1 row, acc.2 ++ [⟨row * dstStride, dstStride⟩])

def copyRowsLogged (srcHeight height srcStride dstStride : ℕ) (src pFrame : List UInt8) (st : InputStream) :
    (List UInt8 × InputStream) × List Span :=
  let ((src, frame, st), log) :=
    (List.range height).foldl (copyRowLogged srcStride dstStride) ((src, pFrame, st), [])
  let skip (acc : List UInt8 × InputStream) (_ : ℕ) := acc.2.read srcStride acc.1
  ((frame, ((List.range (srcHeight - height)).foldl skip (src, st)).2), log)

/-- `GetOneFrame`, with the stretches of `pFrame` it hands to `read` and to `memcpy`. -/
def getOneFrameLogged (fresh : ℕ → UInt8) (srcWidth srcHeight : UInt32) (surf : SurfaceParams)
    (pFrame : List UInt8) (st : InputStream) :
    (Except AicError (List UInt8) × InputStream) × List Span :=
  let bytesToRead := surf.width * surf.height * surf.pixelSize
  if bytesToRead = 0 then ((.error .streamParams, st), [])
  else
    let st := if st.good = false ∧ st.eof then st.rewind else st
    if st.good = false then ((.error .inputStream, st), [])
    else if isDirectRead srcWidth srcHeight 0 0 then
      let (frame, st) := st.read bytesToRead.toNat pFrame
      ((.ok frame, st), [⟨0, bytesToRead.toNat⟩])
    else if srcWidth < surf.width ∨ srcHeight < surf.height then ((.error .streamParams, st), [])
    else
      let srcStride := (srcWidth * surf.pixelSize).toNat
      let dstStride := (surf.width * surf.pixelSize).toNat
      let ((frame, st), log) := copyRowsLogged srcHeight.toNat surf.height.toNat srcStride dstStride
        ((List.range srcStride).map fresh) pFrame st
      ((.ok frame, st), log)

/-- What `Copy` reads of the frame. -/
def copyReads (surf : SurfaceParams) : List Span :=
  let sizeSrcPerRow := (surf.width * surf.pixelSize).toNat
  rowSpans surf.height.toNat sizeSrcPerRow sizeSrcPerRow

/-- What `Copy` writes of the mapped object. -/
def copyWrites (surf : SurfaceParams) : List Span :=
  rowSpans surf.height.toNat surf.pitch.toNat (surf.width * surf.pixelSize).toNat

theorem foldl_copyRowLogged (srcStride dstStride rows : ℕ) (acc : List UInt8 × List UInt8 × InputStream) :
    (List.range rows).foldl (copyRowLogged srcStride dstStride) (acc, []) =
      ((List.range rows).foldl (copyRow srcStride dstStride) acc, rowSpans rows dstStride dstStride) := by
  induction rows with
  | zero => rfl
  | succ rows ih =>
    rw [List.range_succ, List.foldl_append, List.foldl_append, ih]
    simp [copyRowLogged, rowSpans, List.range_succ]

theorem copyRowsLogged_fst (srcHeight height srcStride dstStride : ℕ) (src pFrame : List UInt8)
    (st : InputStream) :
    (copyRowsLogged srcHeight height srcStride dstStride src pFrame st).1 =
      copyRows srcHeight height srcStride dstStride src pFrame st := by
  unfold copyRowsLogged copyRows
  rw [foldl_copyRowLogged]

theorem copyRowsLogged_snd (srcHeight height srcStride dstStride : ℕ) (src pFrame : List UInt8)
    (st : InputStream) :
    (copyRowsLogged srcHeight height srcStride dstStride src pFrame st).2 =
      rowSpans height dstStride dstStride := by
  unfold copyRowsLogged
  rw [foldl_copyRowLogged]

/-- The log changes nothing. -/
theorem getOneFrameLogged_fst (fresh : ℕ → UInt8) (srcWidth srcHeight : UInt32) (surf : SurfaceParams)
    (pFrame : List UInt8) (st : InputStream) :
    (getOneFrameLogged fresh srcWidth srcHeight surf pFrame st).1 =
      getOneFrame fresh srcWidth srcHeight surf pFrame st := by
  unfold getOneFrameLogged getOneFrame
  dsimp only
  split
  · rfl
  · generalize (if st.good = false ∧ st.eof = true then st.rewind else st) = st'
    split
    · rfl
    · split
      · rfl
      · split
        · rfl
        · rw [← copyRowsLogged_fst]

/-- `Copy` writes each row where `copyWrites` has it, with what it reads where `copyReads` has it. -/
theorem writeRows_eq (bo : BoData) (srcBuf : List UInt8) (g : GfxHandler) :
    g.writeRows bo srcBuf =
      ((copyReads bo.surf).zip (copyWrites bo.surf)).foldl
        (fun g s => g.call (.writeRow bo.mmapAddr s.2.offset ((srcBuf.drop s.1.offset).take s.1.length))) g := by
  unfold GfxHandler.writeRows copyReads copyWrites rowSpans
  dsimp only
  rw [List.zip_map', List.foldl_map]

/-! ## The transfer of a frame -/

/-- The stretches of the frame that are filled, those of it that are read, and those of the object. -/
structure Accesses where
  filled : List Span
  read : List Span
  written : List Span

/-- The frame of a display request, from its allocation to the copy, which is made if there is a frame. -/
def transfer (fresh : ℕ → UInt8) (srcWidth srcHeight : UInt32) (surf : SurfaceParams) (st : InputStream) :
    Accesses :=
  let sizeToRead := (surf.width * surf.height * surf.pixelSize).toNat
  match getOneFrameLogged fresh srcWidth srcHeight surf ((List.range sizeToRead).map fresh) st with
  | ((.error _, _), log) => ⟨log, [], []⟩
  | ((.ok _, _), log) => ⟨log, copyReads surf, copyWrites surf⟩

/-- The accesses stay within the frame and within the object. -/
structure Accesses.Within (surf : SurfaceParams) (a : Accesses) : Prop where
  filled : ∀ s ∈ a.filled, s.Within (surf.width * surf.height * surf.pixelSize).toNat
  read : ∀ s ∈ a.read, s.Within (surf.width * surf.height * surf.pixelSize).toNat
  written : ∀ s ∈ a.written, s.Within surf.totalSize.toNat

/-- A size that is computed in 32 bits is the size of the rows exactly when they do not reach 2^32. -/
theorem rows_le_iff (surf : SurfaceParams) :
    surf.height.toNat * (surf.width * surf.pixelSize).toNat ≤
        (surf.width * surf.height * surf.pixelSize).toNat ↔
      surf.height.toNat * (surf.width * surf.pixelSize).toNat < 2 ^ 32 := by
  have hsize : (surf.width * surf.height * surf.pixelSize).toNat =
      surf.height.toNat * (surf.width * surf.pixelSize).toNat % 2 ^ 32 := by
    rw [UInt32.toNat_mul, UInt32.toNat_mul, UInt32.toNat_mul, Nat.mul_mod_mod, Nat.mod_mul_mod]
    congr 1
    ring
  rw [hsize]
  constructor
  · intro hle
    exact lt_of_le_of_lt hle (Nat.mod_lt _ (by decide))
  · intro hlt
    rw [Nat.mod_eq_of_lt hlt]

/-- What a call fills: nothing, the whole frame at once, or the frame row by row. -/
theorem getOneFrameLogged_snd (fresh : ℕ → UInt8) (srcWidth srcHeight : UInt32) (surf : SurfaceParams)
    (pFrame : List UInt8) (st : InputStream) :
    (getOneFrameLogged fresh srcWidth srcHeight surf pFrame st).2 = [] ∨
      (getOneFrameLogged fresh srcWidth srcHeight surf pFrame st).2 =
        [⟨0, (surf.width * surf.height * surf.pixelSize).toNat⟩] ∨
      (getOneFrameLogged fresh srcWidth srcHeight surf pFrame st).2 = copyReads surf := by
  unfold getOneFrameLogged copyReads
  dsimp only
  split
  · exact Or.inl rfl
  · generalize (if st.good = false ∧ st.eof = true then st.rewind else st) = st'
    split
    · exact Or.inl rfl
    · split
      · exact Or.inr (Or.inl rfl)
      · split
        · exact Or.inl rfl
        · exact Or.inr (Or.inr (copyRowsLogged_snd srcHeight.toNat surf.height.toNat
            (srcWidth * surf.pixelSize).toNat (surf.width * surf.pixelSize).toNat _ pFrame st'))

variable {surf : SurfaceParams}

/-- Rows of no bytes make an empty frame. -/
theorem empty_of_row (h : (surf.width * surf.pixelSize).toNat = 0) :
    surf.width * surf.height * surf.pixelSize = 0 := by
  have hrow : surf.width * surf.pixelSize = 0 := UInt32.toNat_inj.mp h
  rw [UInt32.mul_comm surf.width, UInt32.mul_assoc, hrow, UInt32.mul_zero]

/-- A frame that `GetOneFrame` refuses is not touched. -/
theorem transfer_empty (h : surf.width * surf.height * surf.pixelSize = 0) (fresh : ℕ → UInt8)
    (srcWidth srcHeight : UInt32) (st : InputStream) :
    transfer fresh srcWidth srcHeight surf st = ⟨[], [], []⟩ := by
  unfold transfer getOneFrameLogged
  dsimp only
  rw [if_pos h]

/-- A frame that is read at once and copied. -/
theorem transfer_direct (h : ¬ surf.width * surf.height * surf.pixelSize = 0) (fresh : ℕ → UInt8)
    (content : List UInt8) :
    transfer fresh 0 0 surf ⟨content, 0, false, false⟩ =
      ⟨[⟨0, (surf.width * surf.height * surf.pixelSize).toNat⟩], copyReads surf, copyWrites surf⟩ := by
  unfold transfer getOneFrameLogged
  simp [h, InputStream.good, isDirectRead]

/-- The copy is made of the whole surface or not at all. -/
theorem transfer_copies (fresh : ℕ → UInt8) (srcWidth srcHeight : UInt32) (surf : SurfaceParams)
    (st : InputStream) :
    ((transfer fresh srcWidth srcHeight surf st).read = [] ∨
      (transfer fresh srcWidth srcHeight surf st).read = copyReads surf) ∧
    ((transfer fresh srcWidth srcHeight surf st).written = [] ∨
      (transfer fresh srcWidth srcHeight surf st).written = copyWrites surf) ∧
    (transfer fresh srcWidth srcHeight surf st).filled =
      (getOneFrameLogged fresh srcWidth srcHeight surf
        ((List.range (surf.width * surf.height * surf.pixelSize).toNat).map fresh) st).2 := by
  unfold transfer
  dsimp only
  rcases getOneFrameLogged fresh srcWidth srcHeight surf _ st with ⟨⟨_ | _, st'⟩, log⟩
  · exact ⟨Or.inl rfl, Or.inl rfl, rfl⟩
  · exact ⟨Or.inr rfl, Or.inr rfl, rfl⟩

theorem copyReads_within_iff (hheight : 0 < surf.height.toNat) :
    (∀ s ∈ copyReads surf, s.Within (surf.width * surf.height * surf.pixelSize).toNat) ↔
      surf.height.toNat * (surf.width * surf.pixelSize).toNat < 2 ^ 32 := by
  have hrows : (surf.height.toNat - 1) * (surf.width * surf.pixelSize).toNat +
      (surf.width * surf.pixelSize).toNat = surf.height.toNat * (surf.width * surf.pixelSize).toNat := by
    rw [← Nat.succ_mul, Nat.succ_eq_add_one, Nat.sub_add_cancel hheight]
  rw [copyReads, rowSpans_within_iff hheight, hrows, rows_le_iff]
  constructor
  · rintro (hzero | hlt)
    · rw [hzero, Nat.mul_zero]
      decide
    · exact hlt
  · exact Or.inr

/-- The surface that is made of a handle. -/
theorem initGfxSurfaceParams_surf {props : CrosGrallocHandle} {h h' : CmdHandler}
    (hok : CmdHandler.initGfxSurfaceParams props h = .ok surf h') :
    surf.width = props.width ∧ surf.height = props.height ∧ surf.pitch = props.strides.get 0 ∧
      surf.pixelSize = 4 ∧ surf.totalSize = props.strides.get 0 * props.height * 4 ∧ props.height ≠ 0 := by
  unfold CmdHandler.initGfxSurfaceParams at hok
  obtain ⟨hprops, hok⟩ := Checked.guard_eq_ok.mp hok
  rw [not_or, not_or] at hprops
  unfold GfxHandler.adjustSurfaceParams at hok
  dsimp only at hok
  rw [if_neg (by simp [hprops])] at hok
  obtain ⟨rfl, -⟩ := Checked.pure_eq_ok.mp hok
  exact ⟨rfl, rfl, rfl, rfl, rfl, hprops.2.1⟩

/-- Every transfer of a frame stays within bounds if its two copies do. -/
theorem transfer_within_of (hread : ∀ s ∈ copyReads surf,
      s.Within (surf.width * surf.height * surf.pixelSize).toNat)
    (hwritten : ∀ s ∈ copyWrites surf, s.Within surf.totalSize.toNat) (fresh : ℕ → UInt8)
    (srcWidth srcHeight : UInt32) (st : InputStream) : (transfer fresh srcWidth srcHeight surf st).Within surf := by
  obtain ⟨hcopy, hcopy', hfilled⟩ := transfer_copies fresh srcWidth srcHeight surf st
  refine ⟨?_, ?_, ?_⟩
  · rw [hfilled]
    rcases getOneFrameLogged_snd fresh srcWidth srcHeight surf
      ((List.range (surf.width * surf.height * surf.pixelSize).toNat).map fresh) st with hnone | hwhole | hrow
    · rw [hnone]
      intro s hs
      cases hs
    · rw [hwhole]
      intro s hs
      rw [List.mem_singleton.mp hs, Span.within_iff, Nat.zero_add]
      exact Or.inr le_rfl
    · rw [hrow]
      exact hread
  · rcases hcopy with hnone | hall
    · simp [hnone]
    · rw [hall]
      exact hread
  · rcases hcopy' with hnone | hall
    · simp [hnone]
    · rw [hall]
      exact hwritten

/-- **For a surface that is accepted, every transfer of a frame stays within bounds exactly when the frame is
refused as empty, or its rows do not reach 2^32 and the last row ends within the object.** -/
theorem transfer_within_iff {props : CrosGrallocHandle} {h h' : CmdHandler}
    (hok : CmdHandler.initGfxSurfaceParams props h = .ok surf h') :
    (∀ fresh srcWidth srcHeight st, (transfer fresh srcWidth srcHeight surf st).Within surf) ↔
      props.width * props.height * 4 = 0 ∨
      (props.height.toNat * (props.width * 4).toNat < 2 ^ 32 ∧
        (props.height.toNat - 1) * (props.strides.get 0).toNat + (props.width * 4).toNat ≤
          (props.strides.get 0 * props.height * 4).toNat) := by
  obtain ⟨hwidth, hheight, hpitch, hpixel, htotal, hne⟩ := initGfxSurfaceParams_surf hok
  have hpos : 0 < surf.height.toNat := by
    rw [hheight]
    exact Nat.pos_of_ne_zero fun hzero => hne (UInt32.toNat_inj.mp hzero)
  have hwrites : (∀ s ∈ copyWrites surf, s.Within surf.totalSize.toNat) ↔
      (surf.width * surf.pixelSize).toNat = 0 ∨
        (surf.height.toNat - 1) * surf.pitch.toNat + (surf.width * surf.pixelSize).toNat ≤
          surf.totalSize.toNat := rowSpans_within_iff hpos
  rw [htotal.symm, ← hwidth, ← hheight, ← hpitch, ← hpixel]
  constructor
  · intro hall
    by_cases hempty : surf.width * surf.height * surf.pixelSize = 0
    · exact Or.inl hempty
    · right
      -- A content with the dimensions of the surface is read and copied whole.
      have hdirect := hall (fun _ => 0) 0 0 ⟨[], 0, false, false⟩
      rw [transfer_direct hempty] at hdirect
      refine ⟨(copyReads_within_iff hpos).mp hdirect.read, ?_⟩
      rcases hwrites.mp hdirect.written with hrow | hlast
      · exact absurd (empty_of_row hrow) hempty
      · exact hlast
  · rintro (hempty | ⟨hrows, hlast⟩) fresh srcWidth srcHeight st
    · rw [transfer_empty hempty]
      exact ⟨by simp, by simp, by simp⟩
    · apply transfer_within_of
      · exact (copyReads_within_iff hpos).mpr hrows
      · exact hwrites.mpr (Or.inr hlast)

/-- The handle of a surface whose planes all have one pitch. -/
def handleOf (width height pitch : UInt32) : CrosGrallocHandle :=
  { Layout.crosGrallocHandle.read [] with
    width := width
    height := height
    format := 1
    strides := Vector.replicate 4 pitch }

/-- What `InitGfxSurfaceParams` makes of it. -/
def surfaceOf (width height pitch : UInt32) : SurfaceParams :=
  ⟨width, height, pitch, 1, 0, 0, 0, 4, pitch * height * 4⟩

/-- A handler that has not started. -/
def idleHandler : CmdHandler := ⟨none, [], [], [], ⟨true, .empty, 128, []⟩, ⟨[], 0, false, false⟩, 0, 0⟩

theorem initGfxSurfaceParams_handleOf {width height : UInt32} (hwidth : width ≠ 0) (hheight : height ≠ 0)
    (pitch : UInt32) (h : CmdHandler) :
    CmdHandler.initGfxSurfaceParams (handleOf width height pitch) h = .ok (surfaceOf width height pitch) h := by
  have hprops : ¬((handleOf width height pitch).width = 0 ∨ (handleOf width height pitch).height = 0 ∨
      (handleOf width height pitch).format = 0) := by
    rintro (hzero | hzero | hzero)
    · exact hwidth hzero
    · exact hheight hzero
    · cases hzero
  unfold CmdHandler.initGfxSurfaceParams
  refine Checked.guard_eq_ok.mpr ⟨hprops, ?_⟩
  unfold GfxHandler.adjustSurfaceParams
  dsimp only
  rw [if_neg hprops]
  rfl

/-- A surface of two by two pixels with the pitch of its rows, and a content without dimensions. -/
theorem transfer_within_iff_twoByTwo :
    (transfer (fun _ => 0) 0 0 (surfaceOf 2 2 8) ⟨[1, 2, 3], 0, false, false⟩).Within (surfaceOf 2 2 8) :=
  (transfer_within_iff (initGfxSurfaceParams_handleOf (by decide) (by decide) 8 idleHandler)).mpr
    (Or.inr (by decide)) (fun _ => 0) 0 0 ⟨[1, 2, 3], 0, false, false⟩

/-- A surface of 2^15 by 2^15 + 1 pixels, with the pitch of its rows: the frame is allocated with 2^17 bytes, the object
with 2^19, and the rows that are copied have more than 2^32. -/
theorem not_transfer_within_pastWord :
    ¬ ∀ props h h' surf, CmdHandler.initGfxSurfaceParams props h = .ok surf h' →
      ∀ fresh srcWidth srcHeight st, (transfer fresh srcWidth srcHeight surf st).Within surf := by
  intro hall
  have hinit := initGfxSurfaceParams_handleOf (show (32768 : UInt32) ≠ 0 by decide)
    (show (32769 : UInt32) ≠ 0 by decide) 131072 idleHandler
  have hwithin := hall _ _ _ _ hinit (fun _ => 0) 0 0 ⟨[], 0, false, false⟩
  have hframe : ¬(32768 : UInt32) * 32769 * 4 = 0 := by decide
  generalize hsurf : surfaceOf 32768 32769 131072 = surf at hwithin
  have hheight : 0 < surf.height.toNat := by rw [← hsurf]; decide
  have hempty : ¬surf.width * surf.height * surf.pixelSize = 0 := by rw [← hsurf]; exact hframe
  rw [transfer_direct hempty] at hwithin
  have hrows := (copyReads_within_iff hheight).mp hwithin.read
  rw [← hsurf] at hrows
  exact absurd hrows (by decide)

end VhalClient.Emulator
