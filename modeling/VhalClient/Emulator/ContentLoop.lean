/-
# VhalClient.Emulator.ContentLoop — the content file, call after call.

Over many calls of `GetOneFrame` the end of the file decides.  A read that ends with the last byte leaves the
stream good, so it is the call behind the last frame that finds nothing: it returns what memory held, and sets
the bits that make the next call start over.  With `N` frames the calls go round in `N + 1`, not in `N`
(`at_streamAfter`), which says for every call what it returns (`fills_iff`).
-/
import VhalClient.Emulator.Frames

namespace VhalClient.Emulator

open VhalClient.Lib

/-! ## Behind the last frame -/

namespace InputStream

/-- There is nothing to read: the stream is at its end, or has found it. -/
def AtEnd (st : InputStream) : Prop := st.eof = true ∨ st.good = true ∧ st.content.length ≤ st.pos

theorem read_atEnd {st : InputStream} (h : st.AtEnd) {n : ℕ} (hn : 0 < n) (buf : List UInt8) :
    ∃ st', st.read n buf = (buf, st') ∧ st'.eof = true ∧ st'.content = st.content := by
  unfold read
  rcases h with heof | ⟨hgood, hpos⟩
  · have hbad : st.good = false := by simp [good, heof]
    rw [if_neg (by simp [hbad])]
    exact ⟨{ st with fail := true }, rfl, heof, rfl⟩
  · rw [if_pos hgood, List.drop_eq_nil_of_le hpos]
    exact ⟨{ st with pos := st.pos + 0, eof := true, fail := true }, by simp [overwrite, hn], rfl, rfl⟩

end InputStream

/-- Rows read at the end are the row buffer again and again. -/
theorem foldl_copyRow_atEnd {stride width : ℕ} (hstride : 0 < stride) (hwidth : width ≤ stride)
    {st : InputStream} (h : st.AtEnd) (src : List UInt8) (hsrc : src.length = stride) (frame : List UInt8)
    (rows : ℕ) :
    ∃ st', (List.range rows).foldl (copyRow stride width) (src, frame, st) =
        (src, (List.replicate rows (src.take width)).flatten ++ frame.drop (rows * width), st') ∧
      st'.AtEnd ∧ st'.content = st.content ∧ (0 < rows → st'.eof = true) := by
  have hlen (rows : ℕ) : (List.replicate rows (src.take width)).flatten.length = rows * width := by
    rw [List.length_flatten, List.map_replicate, List.sum_replicate_nat, List.length_take, hsrc,
      Nat.min_eq_left hwidth]
  induction rows with
  | zero => exact ⟨st, by simp, h, rfl, by omega⟩
  | succ rows ih =>
    obtain ⟨st', hrows, hend, hcontent, -⟩ := ih
    obtain ⟨st'', hread, heof, hcontent'⟩ := InputStream.read_atEnd hend hstride src
    refine ⟨st'', ?_, Or.inl heof, hcontent'.trans hcontent, fun _ => heof⟩
    rw [List.range_succ, List.foldl_append, hrows, List.foldl_cons, List.foldl_nil]
    unfold copyRow
    dsimp only
    rw [hread]
    dsimp only
    rw [memcpyAt_append (hlen rows), List.replicate_succ', List.flatten_append,
      List.length_take, hsrc, Nat.min_eq_left hwidth, List.drop_drop, Nat.succ_mul]
    simp

/-- Rows skipped at the end leave the stream there. -/
theorem foldl_read_atEnd {stride : ℕ} (hstride : 0 < stride) (src : List UInt8) {st : InputStream}
    (heof : st.eof = true) (rest : ℕ) :
    ((List.range rest).foldl (fun (acc : List UInt8 × InputStream) (_ : ℕ) => acc.2.read stride acc.1)
      (src, st)).2.eof = true ∧
    ((List.range rest).foldl (fun (acc : List UInt8 × InputStream) (_ : ℕ) => acc.2.read stride acc.1)
      (src, st)).2.content = st.content := by
  induction rest with
  | zero => exact ⟨heof, rfl⟩
  | succ rest ih =>
    rw [List.range_succ, List.foldl_append, List.foldl_cons, List.foldl_nil]
    generalize (List.range rest).foldl _ _ = acc at ih ⊢
    obtain ⟨st', hread, heof', hcontent'⟩ := InputStream.read_atEnd (Or.inl ih.1) hstride acc.1
    rw [hread]
    exact ⟨heof', hcontent'.trans ih.2⟩

/-- At the end, a pass copies what the row buffer holds, row for row. -/
theorem copyRows_atEnd {stride width : ℕ} (hstride : 0 < stride) (hwidth : width ≤ stride)
    (srcHeight : ℕ) {height : ℕ} (hheight : 0 < height) {st : InputStream} (h : st.AtEnd) (src : List UInt8)
    (hsrc : src.length = stride) (frame : List UInt8) :
    ∃ st', copyRows srcHeight height stride width src frame st =
        ((List.replicate height (src.take width)).flatten ++ frame.drop (height * width), st') ∧
      st'.eof = true ∧ st'.content = st.content := by
  obtain ⟨st', hpass, -, hcontent, heof⟩ := foldl_copyRow_atEnd hstride hwidth h src hsrc frame height
  unfold copyRows
  rw [hpass]
  dsimp only
  obtain ⟨heof', hcontent'⟩ := foldl_read_atEnd hstride src (heof hheight) (srcHeight - height)
  exact ⟨_, rfl, heof', hcontent'.trans hcontent⟩

/-! ## Many calls -/

/-- What memory holds before a call: fresh memory, and the frame that was allocated. -/
structure Memory where
  fresh : ℕ → UInt8
  pFrame : List UInt8

/-- The content file as it was opened. -/
def InputStream.opened (content : List UInt8) : InputStream := ⟨content, 0, false, false⟩

section Replay

variable (srcWidth srcHeight : UInt32) (surf : SurfaceParams) (content : List UInt8)

/-- The stream after so many calls, each with memory of its own. -/
def streamAfter (memory : ℕ → Memory) : ℕ → InputStream
  | 0 => .opened content
  | k + 1 =>
    (getOneFrame (memory k).fresh srcWidth srcHeight surf (memory k).pFrame (streamAfter memory k)).2

/-- What the k-th call returns. -/
def kthCall (memory : ℕ → Memory) (k : ℕ) : Except AicError (List UInt8) :=
  (getOneFrame (memory k).fresh srcWidth srcHeight surf (memory k).pFrame
    (streamAfter srcWidth srcHeight surf content memory k)).1

/-- The bytes of a frame of the content. -/
def frameBytes : ℕ := if srcWidth = 0 ∧ srcHeight = 0 then surf.bytes else srcBytes srcWidth srcHeight surf

/-- The part of a frame that goes to the surface. -/
def crop (frame : List UInt8) : List UInt8 :=
  if srcWidth = 0 ∧ srcHeight = 0 then frame
  else cropRows (srcRowBytes srcWidth surf) surf.rowBytes surf.height.toNat frame

/-- The part of the j-th frame of the content that goes to the surface. -/
def frameAt (j : ℕ) : List UInt8 :=
  crop srcWidth srcHeight surf
    ((content.drop (j * frameBytes srcWidth srcHeight surf)).take (frameBytes srcWidth srcHeight surf))

/-- A surface for the content: with dimensions of its own, the content is at least as large. -/
structure Suits : Prop where
  fits : (srcWidth = 0 ∧ srcHeight = 0) ∨ (surf.width ≤ srcWidth ∧ surf.height ≤ srcHeight)
  product : surf.bytes < 2 ^ 32
  srcProduct : srcBytes srcWidth srcHeight surf < 2 ^ 32

/-- Whatever memory held before, the k-th call returns the frame that comes round at `k`. -/
def Fills (frames k : ℕ) : Prop :=
  ∀ memory : ℕ → Memory, (∀ j, (memory j).pFrame.length = surf.bytes) →
    kthCall srcWidth srcHeight surf content memory k =
      .ok (frameAt srcWidth srcHeight surf content (k % frames))

/-- The stream before the call that is to return frame `q`: at that frame, or at its end if it is the first
one's turn. -/
structure At (q : ℕ) (st : InputStream) : Prop where
  content_eq : st.content = content
  place : (st.good = true ∧ st.pos = q * frameBytes srcWidth srcHeight surf) ∨ (q = 0 ∧ st.eof = true)

variable {srcWidth srcHeight surf content}

/-- `GetOneFrame` tests the size it computes. -/
theorem Suits.toRead (h : Suits srcWidth srcHeight surf) :
    surf.width * surf.height * surf.pixelSize = 0 ↔ surf.bytes = 0 := by
  have htoNat : (surf.width * surf.height * surf.pixelSize).toNat = surf.bytes := toNat_mul_mul h.product
  rw [← htoNat, ← UInt32.toNat_inj, UInt32.toNat_zero]

theorem Suits.crops (h : Suits srcWidth srcHeight surf) (hbytes : surf.bytes ≠ 0)
    (hown : ¬ (srcWidth = 0 ∧ srcHeight = 0)) : Crops srcWidth srcHeight surf := by
  obtain ⟨hwidth, hheight⟩ := h.fits.resolve_left hown
  have hpos : ∀ w : UInt32, w.toNat ≠ 0 → 0 < w := by
    intro w hw
    rw [UInt32.lt_iff_toNat_lt]
    exact Nat.pos_of_ne_zero hw
  have hfactors : (surf.width.toNat ≠ 0 ∧ surf.height.toNat ≠ 0) ∧ surf.pixelSize.toNat ≠ 0 := by
    simpa only [SurfaceParams.bytes, ne_eq, Nat.mul_eq_zero, not_or] using hbytes
  exact ⟨hpos _ hfactors.1.1, hpos _ hfactors.1.2, hpos _ hfactors.2, hwidth, hheight, h.srcProduct⟩

/-- A frame that is all there. -/
theorem getOneFrame_whole (h : Suits srcWidth srcHeight surf) (hbytes : surf.bytes ≠ 0) {st : InputStream}
    (hgood : st.good = true)
    (hleft : st.pos + frameBytes srcWidth srcHeight surf ≤ st.content.length) (fresh : ℕ → UInt8)
    (pFrame : List UInt8) :
    getOneFrame fresh srcWidth srcHeight surf pFrame st =
      (.ok (crop srcWidth srcHeight surf ((st.content.drop st.pos).take (frameBytes srcWidth srcHeight surf)) ++
          pFrame.drop surf.bytes),
        { st with pos := st.pos + frameBytes srcWidth srcHeight surf }) := by
  by_cases hown : srcWidth = 0 ∧ srcHeight = 0
  · simp only [frameBytes, crop, if_pos hown] at hleft ⊢
    obtain ⟨rfl, rfl⟩ := hown
    exact getOneFrame_direct h.product hbytes hgood hleft fresh pFrame
  · simp only [frameBytes, crop, if_neg hown] at hleft ⊢
    have hcrops := h.crops hbytes hown
    have hheight := Nat.mul_le_mul_right (srcRowBytes srcWidth surf) (UInt32.le_iff_toNat_le.mp hcrops.height_le)
    rw [height_mul_srcRowBytes srcWidth srcHeight] at hheight
    rw [getOneFrame_rows hcrops hgood hleft, cropRows_take hcrops.rowBytes_le hheight]

/-- Behind the last frame: the call reports success and goes no further, and what it returns is made of what
memory held. -/
theorem getOneFrame_atEnd (h : Suits srcWidth srcHeight surf) (hbytes : surf.bytes ≠ 0) {st : InputStream}
    (hgood : st.good = true) (hend : st.content.length ≤ st.pos) (m : Memory) :
    ∃ frame st', getOneFrame m.fresh srcWidth srcHeight surf m.pFrame st = (.ok frame, st') ∧
      st'.eof = true ∧ st'.content = st.content ∧
      ∀ b, m.fresh = (fun _ => b) → m.pFrame = List.replicate surf.bytes b →
        frame = List.replicate surf.bytes b := by
  have htoNat : (surf.width * surf.height * surf.pixelSize).toNat = surf.bytes := toNat_mul_mul h.product
  have hread : ¬ surf.width * surf.height * surf.pixelSize = 0 := mt h.toRead.mp hbytes
  have hatEnd : st.AtEnd := Or.inr ⟨hgood, hend⟩
  unfold getOneFrame
  by_cases hown : srcWidth = 0 ∧ srcHeight = 0
  · obtain ⟨rfl, rfl⟩ := hown
    obtain ⟨st', hnothing, heof, hcontent⟩ :=
      InputStream.read_atEnd hatEnd (Nat.pos_of_ne_zero hbytes) m.pFrame
    simp only [hgood, Bool.true_eq_false, false_and, if_false, if_neg hread, isDirectRead, decide_true,
      Bool.and_self, Bool.true_or, if_true, htoNat, hnothing]
    exact ⟨m.pFrame, st', rfl, heof, hcontent, fun b _ hframe => hframe⟩
  · have hcrops := h.crops hbytes hown
    have hdims : ¬ (srcWidth < surf.width ∨ srcHeight < surf.height) := by
      rw [not_or, UInt32.not_lt, UInt32.not_lt]
      exact ⟨hcrops.width_le, hcrops.height_le⟩
    have hstride : 0 < srcRowBytes srcWidth surf := by
      apply Nat.lt_of_lt_of_le _ hcrops.rowBytes_le
      exact Nat.mul_pos (Crops.toNat_pos hcrops.width_pos) (Crops.toNat_pos hcrops.pixel_pos)
    obtain ⟨st', hpass, heof, hcontent⟩ := copyRows_atEnd hstride hcrops.rowBytes_le srcHeight.toNat
      (Crops.toNat_pos hcrops.height_pos) hatEnd ((List.range (srcRowBytes srcWidth surf)).map m.fresh)
      (by simp) m.pFrame
    simp only [hgood, Bool.true_eq_false, false_and, if_false, if_neg hread, hcrops.not_isDirectRead,
      Bool.false_eq_true, if_neg hdims, hcrops.toNat_srcStride, hcrops.toNat_dstStride, hpass]
    refine ⟨_, st', rfl, heof, hcontent, ?_⟩
    intro b hfresh hframe
    rw [hfresh, hframe, List.map_const', List.length_range, List.take_replicate,
      Nat.min_eq_left hcrops.rowBytes_le, List.flatten_replicate_replicate, List.drop_replicate,
      SurfaceParams.height_mul_rowBytes, Nat.sub_self]
    simp

/-- A stream at its end starts over at the next call. -/
theorem getOneFrame_rewind (hbytes : ¬ surf.width * surf.height * surf.pixelSize = 0) {st : InputStream}
    (heof : st.eof = true) (fresh : ℕ → UInt8) (pFrame : List UInt8) :
    getOneFrame fresh srcWidth srcHeight surf pFrame st =
      getOneFrame fresh srcWidth srcHeight surf pFrame st.rewind := by
  have hbad : st.good = false := by simp [InputStream.good, heof]
  have hgood : st.rewind.good = true := rfl
  unfold getOneFrame
  simp only [if_neg hbytes, hbad, heof, and_self, if_true, hgood, Bool.true_eq_false, false_and, if_false]

/-- Whatever the bits are, the call acts on a good stream at the frame. -/
theorem At.normal (hbytes : ¬ surf.width * surf.height * surf.pixelSize = 0) {q : ℕ} {st : InputStream}
    (h : At srcWidth srcHeight surf content q st) :
    ∃ st', st'.good = true ∧ st'.pos = q * frameBytes srcWidth srcHeight surf ∧ st'.content = content ∧
      ∀ fresh pFrame, getOneFrame fresh srcWidth srcHeight surf pFrame st =
        getOneFrame fresh srcWidth srcHeight surf pFrame st' := by
  rcases h.place with ⟨hgood, hpos⟩ | ⟨rfl, heof⟩
  · exact ⟨st, hgood, hpos, h.content_eq, fun _ _ => rfl⟩
  · exact ⟨st.rewind, rfl, (Nat.zero_mul _).symm, h.content_eq,
      fun fresh pFrame => getOneFrame_rewind hbytes heof fresh pFrame⟩

/-- **One call**: frame after frame, then a call that finds nothing, then the first frame again. -/
theorem at_getOneFrame (h : Suits srcWidth srcHeight surf) (hbytes : surf.bytes ≠ 0) {frames q : ℕ}
    (hlen : content.length = frames * frameBytes srcWidth srcHeight surf) (hq : q ≤ frames) {st : InputStream}
    (hat : At srcWidth srcHeight surf content q st) (m : Memory) :
    At srcWidth srcHeight surf content (if q = frames then 0 else q + 1)
      (getOneFrame m.fresh srcWidth srcHeight surf m.pFrame st).2 := by
  obtain ⟨st', hgood, hpos, hcontent, heq⟩ := hat.normal (mt h.toRead.mp hbytes)
  rw [heq]
  split
  · rename_i hlast
    have hend : st'.content.length ≤ st'.pos := by rw [hcontent, hpos, hlen, hlast]
    obtain ⟨frame, st'', hcall, heof, hcontent', -⟩ := getOneFrame_atEnd h hbytes hgood hend m
    rw [hcall]
    exact ⟨hcontent'.trans hcontent, Or.inr ⟨rfl, heof⟩⟩
  · rename_i hlast
    have hleft : st'.pos + frameBytes srcWidth srcHeight surf ≤ st'.content.length := by
      rw [hpos, hcontent, hlen, ← Nat.succ_mul]
      exact Nat.mul_le_mul_right _ (by omega)
    rw [getOneFrame_whole h hbytes hgood hleft]
    refine ⟨hcontent, Or.inl ⟨hgood, ?_⟩⟩
    show st'.pos + _ = _
    rw [hpos, Nat.succ_mul]

/-- **A run**: the calls go round in one more than there are frames. -/
theorem at_streamAfter (h : Suits srcWidth srcHeight surf) (hbytes : surf.bytes ≠ 0) {frames : ℕ}
    (hlen : content.length = frames * frameBytes srcWidth srcHeight surf) (memory : ℕ → Memory) (k : ℕ) :
    At srcWidth srcHeight surf content (k % (frames + 1))
      (streamAfter srcWidth srcHeight surf content memory k) := by
  induction k with
  | zero =>
    rw [Nat.zero_mod]
    exact ⟨rfl, Or.inl ⟨rfl, (Nat.zero_mul _).symm⟩⟩
  | succ k ih =>
    have hq : k % (frames + 1) ≤ frames := Nat.le_of_lt_succ (Nat.mod_lt k (Nat.succ_pos frames))
    have hstep := at_getOneFrame h hbytes hlen hq ih (memory k)
    have hmod : (k + 1) % (frames + 1) =
        if k % (frames + 1) = frames then 0 else k % (frames + 1) + 1 := by
      rw [Nat.add_mod]
      split
      · rename_i hlast
        rw [hlast]
        rcases Nat.eq_zero_or_pos frames with rfl | hpos
        · rfl
        · rw [Nat.mod_eq_of_lt (show 1 < frames + 1 by omega), Nat.mod_self]
      · rename_i hlast
        rw [Nat.mod_eq_of_lt (show 1 < frames + 1 by omega), Nat.mod_eq_of_lt (by omega)]
    rw [hmod]
    exact hstep

theorem kthCall_whole (h : Suits srcWidth srcHeight surf) (hbytes : surf.bytes ≠ 0) {frames k : ℕ}
    (hlen : content.length = frames * frameBytes srcWidth srcHeight surf) (hk : k % (frames + 1) < frames)
    (memory : ℕ → Memory) :
    kthCall srcWidth srcHeight surf content memory k =
      .ok (frameAt srcWidth srcHeight surf content (k % (frames + 1)) ++ (memory k).pFrame.drop surf.bytes) := by
  obtain ⟨st, hgood, hpos, hcontent, heq⟩ :=
    (at_streamAfter h hbytes hlen memory k).normal (mt h.toRead.mp hbytes)
  have hleft : st.pos + frameBytes srcWidth srcHeight surf ≤ st.content.length := by
    rw [hpos, hcontent, hlen, ← Nat.succ_mul]
    exact Nat.mul_le_mul_right _ hk
  rw [kthCall, heq, getOneFrame_whole h hbytes hgood hleft, frameAt, hcontent, hpos]

/-- A call that finds nothing returns what memory held. -/
theorem kthCall_atEnd (h : Suits srcWidth srcHeight surf) (hbytes : surf.bytes ≠ 0) {frames k : ℕ}
    (hlen : content.length = frames * frameBytes srcWidth srcHeight surf) (hk : k % (frames + 1) = frames)
    (b : UInt8) :
    kthCall srcWidth srcHeight surf content (fun _ => ⟨fun _ => b, List.replicate surf.bytes b⟩) k =
      .ok (List.replicate surf.bytes b) := by
  obtain ⟨st, hgood, hpos, hcontent, heq⟩ :=
    (at_streamAfter h hbytes hlen (fun _ => ⟨fun _ => b, List.replicate surf.bytes b⟩) k).normal
      (mt h.toRead.mp hbytes)
  have hend : st.content.length ≤ st.pos := by rw [hcontent, hpos, hlen, hk]
  obtain ⟨frame, st', hcall, -, -, hframe⟩ :=
    getOneFrame_atEnd h hbytes hgood hend ⟨fun _ => b, List.replicate surf.bytes b⟩
  rw [kthCall, heq, hcall, hframe b rfl rfl]

/-- **The k-th call returns the frame that comes round at `k` exactly when the surface is not empty, the call
is not one of those that find nothing, and the frame the calls are at has the same contents.** -/
theorem fills_iff (h : Suits srcWidth srcHeight surf) {frames : ℕ}
    (hlen : content.length = frames * frameBytes srcWidth srcHeight surf) (k : ℕ) :
    Fills srcWidth srcHeight surf content frames k ↔
      surf.bytes ≠ 0 ∧ k % (frames + 1) ≠ frames ∧
      frameAt srcWidth srcHeight surf content (k % (frames + 1)) =
        frameAt srcWidth srcHeight surf content (k % frames) := by
  constructor
  · intro hfills
    have hbytes : surf.bytes ≠ 0 := by
      intro hzero
      have hcall := hfills (fun _ => ⟨fun _ => 0, []⟩) (fun _ => hzero.symm)
      rw [kthCall, getOneFrame, if_pos (h.toRead.mpr hzero)] at hcall
      cases hcall
    have hmod : k % (frames + 1) < frames + 1 := Nat.mod_lt k (Nat.succ_pos frames)
    have hsome : k % (frames + 1) ≠ frames := by
      intro hlast
      -- The same call with other memory returns something else.
      have hcall (b : UInt8) := hfills (fun _ => ⟨fun _ => b, List.replicate surf.bytes b⟩)
        fun _ => List.length_replicate
      have hsame := (hcall 0).trans (hcall 1).symm
      rw [kthCall_atEnd h hbytes hlen hlast, kthCall_atEnd h hbytes hlen hlast, Except.ok.injEq,
        List.replicate_inj] at hsame
      rcases hsame.2 with hzero | hbyte
      · exact hbytes hzero
      · exact absurd hbyte (by decide)
    refine ⟨hbytes, hsome, ?_⟩
    have hcall := hfills (fun _ => ⟨fun _ => 0, List.replicate surf.bytes 0⟩) fun _ => List.length_replicate
    rw [kthCall_whole h hbytes hlen (by omega), Except.ok.injEq] at hcall
    simpa using hcall
  · rintro ⟨hbytes, hsome, hsame⟩ memory hmemory
    have hmod : k % (frames + 1) < frames + 1 := Nat.mod_lt k (Nat.succ_pos frames)
    rw [kthCall_whole h hbytes hlen (by omega), List.drop_eq_nil_of_le (hmemory k).le, List.append_nil, hsame]

/-- A surface of one pixel. -/
def onePixel : SurfaceParams := ⟨1, 1, 4, 1, 0, 0, 0, 4, 16⟩

/-- The first call on a file of one frame returns that frame. -/
theorem fills_iff_onePixel :
    Fills 0 0 onePixel [1, 2, 3, 4] 1 0 := by
  have h : Suits 0 0 onePixel := ⟨Or.inl ⟨rfl, rfl⟩, by decide, by decide⟩
  have hlen : ([1, 2, 3, 4] : List UInt8).length = 1 * frameBytes 0 0 onePixel := by decide
  exact (fills_iff h hlen 0).mpr ⟨by decide, by decide, rfl⟩

/-- The second call does not: it returns the memory it was given. -/
theorem not_fills_onePixel : ¬ Fills 0 0 onePixel [1, 2, 3, 4] 1 1 := by
  intro hfills
  have hcall := hfills (fun _ => ⟨fun _ => 0, [0, 0, 0, 0]⟩) fun _ => rfl
  exact absurd hcall (by decide)

end Replay

end VhalClient.Emulator
