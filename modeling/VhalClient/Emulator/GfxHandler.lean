/-
# VhalClient.Emulator.GfxHandler — `GfxHandler`, the emulator's buffer objects.

The emulator keeps a buffer object of the graphics device for every remote handle it announced.  What the
kernel answers to the ioctls and to `mmap` during one call is a `Kernel`; an ioctl that is interrupted
is repeated, so an answer here is the last one.  What the handler did to the device is kept newest first
in `calls`, where a row that `Copy` writes through a null pointer is still a row written.
-/
import VhalClient.Lib.OrdMap

namespace VhalClient.Emulator

open VhalClient.Lib

/-- `SurfaceParams_t`. -/
structure SurfaceParams where
  width : UInt32
  height : UInt32
  pitch : UInt32
  format : UInt32
  tilingFormat : UInt32
  alignedHeight : UInt32
  alignedWidth : UInt32
  pixelSize : UInt32
  totalSize : UInt32
  deriving DecidableEq, Repr

/-- `boData_t`; the address is null or where the object is mapped. -/
structure BoData where
  surf : SurfaceParams
  fd : Int32
  handle : UInt32
  mmapAddr : Option ℕ
  deriving DecidableEq, Repr

/-- `GfxStatus`. -/
inductive GfxStatus where
  | ok
  | fail
  deriving DecidableEq, Repr

/-- The answers of the kernel during one call: the handle of a created object, the descriptor of an exported
one, the address of a mapping, or whether the ioctl succeeded. -/
structure Kernel where
  gemCreate : Option UInt32
  primeHandleToFd : Option Int32
  gemClose : Bool
  gemMmapOffset : Bool
  mmap : Option ℕ
  gemSetDomain : Bool
  gemSwFinish : Bool

/-- What the handler did to the device. -/
inductive GfxCall where
  | gemCreate (size : UInt32) (handle : UInt32)
  | primeHandleToFd (handle : UInt32) (fd : Int32)
  | gemClose (handle : UInt32)
  | mmap (addr : ℕ) (length : UInt32)
  /-- A row of a frame, copied to an offset from the mapped address. -/
  | writeRow (addr : Option ℕ) (offset : ℕ) (row : List UInt8)
  | gemSwFinish (handle : UInt32)
  /-- The counterparts of `mmap` and of the export.  No function of the handler makes them. -/
  | munmap (addr : ℕ) (length : UInt32)
  | close (fd : Int32)
  deriving DecidableEq, Repr

structure GfxHandler where
  hasMMAPoffset : Bool
  boList : OrdMap UInt64 BoData
  renderNode : Int32
  calls : List GfxCall

/-- `I915_TILING_NONE`. -/
def tilingNone : UInt32 := 0

namespace GfxHandler

def call (g : GfxHandler) (c : GfxCall) : GfxHandler := { g with calls := c :: g.calls }

/-- `GetRenderNode` returns the `int` as an `unsigned`. -/
def getRenderNode (g : GfxHandler) : UInt32 := g.renderNode.toUInt32

def getTilingFormat (_format : UInt32) : UInt32 := tilingNone

def getPixelSize (_format : UInt32) : UInt32 := 4

def adjustSurfaceParams (surf : SurfaceParams) : GfxStatus × SurfaceParams :=
  if surf.width = 0 ∨ surf.height = 0 ∨ surf.format = 0 then (.fail, surf)
  else
    let pixelSize := getPixelSize surf.format
    (.ok, { surf with
      tilingFormat := getTilingFormat surf.format
      pixelSize := pixelSize
      totalSize := surf.pitch * surf.height * pixelSize })

def allocateBo (k : Kernel) (surf : SurfaceParams) (remote : UInt64) (g : GfxHandler) :
    GfxStatus × GfxHandler :=
  if surf.tilingFormat ≠ tilingNone then (.fail, g)
  else
    match k.gemCreate with
    | none => (.fail, g)
    | some handle =>
      let g := g.call (.gemCreate surf.totalSize handle)
      match k.primeHandleToFd with
      | none => (.fail, g)
      | some fd =>
        let g := g.call (.primeHandleToFd handle fd)
        -- `std::map::insert`: an object that is listed already stays, and the new one is lost.
        (.ok, { g with boList := g.boList.insert remote ⟨surf, fd, handle, none⟩ })

def clearBo (k : Kernel) (remote : UInt64) (erase : Bool) (g : GfxHandler) : GfxStatus × GfxHandler :=
  match g.boList.find remote with
  | none => (.fail, g)
  | some bo =>
    if k.gemClose = false then (.fail, g)
    else
      -- The exported descriptor is not closed.
      let g := g.call (.gemClose bo.handle)
      (.ok, if erase then { g with boList := g.boList.erase remote } else g)

/-- `GetBo`, as the object it leads to. -/
def getBo (remote : UInt64) (g : GfxHandler) : Option BoData := g.boList.find remote

/-- A mapping that failed leaves a null address and is not reported: the status that is tested is the one
of the ioctl before it. -/
def mmapBo (k : Kernel) (bo : BoData) (g : GfxHandler) : GfxStatus × BoData × GfxHandler :=
  if g.hasMMAPoffset = false then (.fail, bo, g)
  else if k.gemMmapOffset = false then (.fail, bo, g)
  else
    let bo := { bo with mmapAddr := k.mmap }
    let g :=
      match k.mmap with
      | none => g
      | some addr => g.call (.mmap addr bo.surf.totalSize)
    if k.gemSetDomain = false then (.fail, bo, g) else (.ok, bo, g)

/-- `UnmapBo`: nothing is unmapped, the address is forgotten. -/
def unmapBo (k : Kernel) (bo : BoData) (g : GfxHandler) : GfxStatus × BoData × GfxHandler :=
  if bo.mmapAddr = none then (.ok, bo, g)
  else if k.gemSwFinish = false then (.fail, bo, g)
  else (.ok, { bo with mmapAddr := none }, g.call (.gemSwFinish bo.handle))

/-- The rows of `Copy`: `src` advances by the bytes of a row, `dst` by the pitch. -/
def writeRows (bo : BoData) (srcBuf : List UInt8) (g : GfxHandler) : GfxHandler :=
  let sizeSrcPerRow := (bo.surf.width * bo.surf.pixelSize).toNat
  (List.range bo.surf.height.toNat).foldl
    (fun g i => g.call (.writeRow bo.mmapAddr (i * bo.surf.pitch.toNat)
      ((srcBuf.drop (i * sizeSrcPerRow)).take sizeSrcPerRow))) g

/-- `Copy` into the object of a remote handle, with what it leaves of the object in the list.  Rows that go through a
null address, behind a mapping that failed, are kept among the calls like all others; the process dies of the first
byte of them. -/
def copy (k : Kernel) (remote : UInt64) (bo : BoData) (srcBuf : List UInt8) (g : GfxHandler) :
    GfxStatus × GfxHandler :=
  let store (bo : BoData) (g : GfxHandler) : GfxHandler :=
    { g with boList := (g.boList.erase remote).insert remote bo }
  match g.mmapBo k bo with
  | (.fail, bo, g) => (.fail, store bo g)
  | (.ok, bo, g) =>
    match (g.writeRows bo srcBuf).unmapBo k bo with
    | (status, bo, g) => (status, store bo g)

/-! ## The list of objects -/

theorem allocateBo_ok {k : Kernel} {surf : SurfaceParams} {remote : UInt64} {g g' : GfxHandler}
    (hok : g.allocateBo k surf remote = (.ok, g')) :
    (∃ bo, g'.boList = g.boList.insert remote bo) ∧ g'.renderNode = g.renderNode := by
  unfold allocateBo at hok
  split at hok
  · cases hok
  · split at hok
    · cases hok
    · dsimp only at hok
      split at hok
      · cases hok
      · cases hok
        exact ⟨⟨_, rfl⟩, rfl⟩

/-- An object is cleared if it is there. -/
theorem clearBo_ok {k : Kernel} {remote : UInt64} {g g' : GfxHandler}
    (hok : g.clearBo k remote true = (.ok, g')) :
    remote ∈ g.boList.keys ∧ g'.boList = g.boList.erase remote ∧ g'.renderNode = g.renderNode := by
  unfold clearBo at hok
  split at hok
  · cases hok
  · rename_i bo hfind
    split at hok
    · cases hok
    · cases hok
      exact ⟨OrdMap.mem_keys_iff.mpr ⟨bo, hfind⟩, rfl, rfl⟩

theorem writeRows_calls (bo : BoData) (srcBuf : List UInt8) (g : GfxHandler) :
    ∃ calls, g.writeRows bo srcBuf = { g with calls := calls } := by
  unfold writeRows
  dsimp only
  generalize List.range bo.surf.height.toNat = rows
  induction rows generalizing g with
  | nil => exact ⟨g.calls, rfl⟩
  | cons row rows ih =>
    obtain ⟨calls, heq⟩ := ih (g.call (.writeRow bo.mmapAddr (row * bo.surf.pitch.toNat)
      ((srcBuf.drop (row * (bo.surf.width * bo.surf.pixelSize).toNat)).take
        (bo.surf.width * bo.surf.pixelSize).toNat)))
    exact ⟨calls, heq⟩

theorem mmapBo_calls (k : Kernel) (bo : BoData) (g : GfxHandler) :
    ∃ calls, (g.mmapBo k bo).2.2 = { g with calls := calls } := by
  unfold mmapBo
  split
  · exact ⟨g.calls, rfl⟩
  · split
    · exact ⟨g.calls, rfl⟩
    · dsimp only
      cases k.mmap with
      | none => split <;> exact ⟨g.calls, rfl⟩
      | some addr => split <;> exact ⟨_, rfl⟩

theorem unmapBo_calls (k : Kernel) (bo : BoData) (g : GfxHandler) :
    ∃ calls, (g.unmapBo k bo).2.2 = { g with calls := calls } := by
  unfold unmapBo
  split
  · exact ⟨g.calls, rfl⟩
  · split
    · exact ⟨g.calls, rfl⟩
    · exact ⟨_, rfl⟩

/-- A copy changes the object it writes to, not which objects there are. -/
theorem copy_frame (k : Kernel) (remote : UInt64) (bo : BoData) (srcBuf : List UInt8) (g : GfxHandler) :
    (∃ bo', (g.copy k remote bo srcBuf).2.boList = (g.boList.erase remote).insert remote bo') ∧
      (g.copy k remote bo srcBuf).2.renderNode = g.renderNode := by
  obtain ⟨calls, hmap⟩ := g.mmapBo_calls k bo
  unfold copy
  rcases hmmap : g.mmapBo k bo with ⟨_ | _, bo₁, g₁⟩
  · rw [hmmap] at hmap
    obtain rfl : g₁ = { g with calls := calls } := hmap
    obtain ⟨calls₂, hrows⟩ := writeRows_calls bo₁ srcBuf { g with calls := calls }
    obtain ⟨calls₃, hunmap⟩ := unmapBo_calls k bo₁ ({ g with calls := calls }.writeRows bo₁ srcBuf)
    dsimp only
    rw [hunmap, hrows]
    exact ⟨⟨_, rfl⟩, rfl⟩
  · rw [hmmap] at hmap
    obtain rfl : g₁ = { g with calls := calls } := hmap
    exact ⟨⟨bo₁, rfl⟩, rfl⟩

end GfxHandler

end VhalClient.Emulator
