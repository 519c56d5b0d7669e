/-
# VhalClient.Emulator.Picture — from the content file to the pixels of the buffer.

A display request takes the next frame of the content, cuts it to the surface and copies it row by row to where
the buffer is mapped.  The parts have been looked at one by one: the loop over the frames (`ContentLoop`), the
cut (`Frames`), the system calls (`Mapping`).  Here they are put together over a whole session, with buffers
created and removed between the requests: the stores of a copy are the rows of a picture (`stores_copy`), the
stream moves with the display requests only (`Ready.exchange`), and so every pixel a request leaves in the
mapped buffer is the pixel of the content it should be (`display_shows`).
-/
import VhalClient.Lib.Stores
import VhalClient.Emulator.Agreement
import VhalClient.Emulator.ContentLoop

namespace VhalClient.Emulator

open VhalClient.Lib VhalClient.Display

/-! ## The stores of a copy -/

namespace GfxHandler

/-- All objects have the same surface. -/
def Uniform (surf : SurfaceParams) (g : GfxHandler) : Prop :=
  ∀ remote bo, g.boList.find remote = some bo → bo.surf = surf

variable {surf : SurfaceParams} {g g' : GfxHandler} {k : Kernel} {remote : UInt64}

theorem Uniform.insert (h : Uniform surf g) {bo : BoData} (hbo : bo.surf = surf)
    (hlist : g'.boList = g.boList.insert remote bo) : Uniform surf g' := by
  intro remote' bo' hfind
  rw [hlist] at hfind
  by_cases hkey : remote ∈ g.boList.keys
  · rw [OrdMap.insert_of_mem bo hkey] at hfind
    exact h remote' bo' hfind
  · rw [OrdMap.find_insert bo hkey] at hfind
    split at hfind
    · exact Option.some_inj.mp hfind ▸ hbo
    · exact h remote' bo' hfind

theorem Uniform.erase (h : Uniform surf g) (hlist : g'.boList = g.boList.erase remote) : Uniform surf g' := by
  intro remote' bo' hfind
  rw [hlist, OrdMap.find_erase] at hfind
  split at hfind
  · exact absurd hfind (by simp)
  · exact h remote' bo' hfind

theorem Uniform.allocateBo (h : Uniform surf g) (hok : g.allocateBo k surf remote = (.ok, g')) :
    Uniform surf g' := by
  unfold GfxHandler.allocateBo at hok
  split at hok
  · cases hok
  · split at hok
    · cases hok
    · dsimp only at hok
      split at hok
      · cases hok
      · cases hok
        exact h.insert rfl rfl

theorem Uniform.copy (h : Uniform surf g) {bo : BoData} (hbo : bo.surf = surf) {srcBuf : List UInt8}
    (hok : g.copy k remote bo srcBuf = (.ok, g')) : Uniform surf g' := by
  have hsurf : (g.mmapBo k bo).2.1.surf = surf := by
    unfold mmapBo
    split
    · exact hbo
    · split
      · exact hbo
      · dsimp only
        split <;> exact hbo
  have hunmap (bo : BoData) (hbo : bo.surf = surf) (g : GfxHandler) : (g.unmapBo k bo).2.1.surf = surf := by
    unfold unmapBo
    split
    · exact hbo
    · split <;> exact hbo
  obtain ⟨calls, hmap⟩ := g.mmapBo_calls k bo
  unfold GfxHandler.copy at hok
  rcases hmmap : g.mmapBo k bo with ⟨_ | _, bo₁, g₁⟩
  · rw [hmmap] at hok hsurf hmap
    obtain rfl : g₁ = { g with calls := calls } := hmap
    obtain ⟨calls₂, hrows⟩ := writeRows_calls bo₁ srcBuf { g with calls := calls }
    have hlast := hunmap bo₁ hsurf ({ g with calls := calls }.writeRows bo₁ srcBuf)
    obtain ⟨calls₃, hcalls⟩ := unmapBo_calls k bo₁ ({ g with calls := calls }.writeRows bo₁ srcBuf)
    dsimp only at hok
    rw [hrows] at hok hlast hcalls
    rcases hun : unmapBo k bo₁ { g with calls := calls₂ } with ⟨status, bo₂, g₂⟩
    rw [hun] at hok hlast hcalls
    obtain rfl : g₂ = { g with calls := calls₃ } := hcalls
    rw [← (Prod.mk.inj hok).2]
    have herased : Uniform surf { g with boList := g.boList.erase remote } := h.erase rfl
    exact herased.insert hlast rfl
  · rw [hmmap] at hok
    cases hok

end GfxHandler

/-! ## What an exchange does to the device -/

/-- The part of the emulator that has to do with pictures. -/
structure Device where
  stream : InputStream
  gfx : GfxHandler
  srcWidth : UInt32
  srcHeight : UInt32

namespace CmdHandler

open Checked

def device (h : CmdHandler) : Device := ⟨h.inputStream, h.gfx, h.srcWidth, h.srcHeight⟩

theorem device_writeIntoSocket (env : Surroundings) (i : ℕ) (data : List UInt8) :
    Keeps device (writeIntoSocket env i data) := by
  intro h
  unfold writeIntoSocket
  rw [get_bind]
  rcases h.socket with _ | _ | _
  · rfl
  · rfl
  · dsimp only
    split <;> rfl

theorem device_sendFDs (env : Surroundings) (i : ℕ) (bo : Option BoData) : Keeps device (sendFDs env i bo) := by
  intro h
  cases bo with
  | none => rfl
  | some bo =>
    unfold sendFDs
    dsimp only
    split <;> rfl

/-- The surface of a gralloc handle. -/
def surfaceOf (props : CrosGrallocHandle) : SurfaceParams :=
  (GfxHandler.adjustSurfaceParams
    { width := props.width
      height := props.height
      format := props.format
      pitch := props.strides.toArray.getD 0 0
      tilingFormat := props.tilingMode
      alignedWidth := props.alignedWidth
      alignedHeight := props.alignedHeight
      pixelSize := 0
      totalSize := 0 }).2

theorem initGfxSurfaceParams_surfaceOf {props : CrosGrallocHandle} {h h' : CmdHandler} {surf : SurfaceParams}
    (hok : initGfxSurfaceParams props h = .ok surf h') : surf = surfaceOf props := by
  have hsize : 0 < props.strides.toArray.size := props.strides.size_toArray.symm ▸ Nat.zero_lt_succ 3
  have hpitch : props.strides.toArray.getD 0 0 = props.strides.get 0 := dif_pos hsize
  unfold initGfxSurfaceParams at hok
  unfold surfaceOf
  rw [hpitch]
  obtain ⟨-, hok⟩ := Checked.guard_eq_ok.mp hok
  dsimp only at hok
  generalize GfxHandler.adjustSurfaceParams _ = adjusted at hok ⊢
  rcases adjusted with ⟨_ | _, surf'⟩
  · exact (Checked.pure_eq_ok.mp hok).1.symm
  · exact absurd hok Checked.throw_ne_ok

variable {env : Surroundings} {evInfo : BufferInfoEvent} {h h' : CmdHandler} {u : Unit}

theorem createBuffer_device {gralloc : CrosGrallocHandle} (hok : createBuffer env evInfo gralloc h = .ok u h') :
    ∃ gfx, h.gfx.allocateBo env.kernel (surfaceOf gralloc) evInfo.info.remoteHandle = (.ok, gfx) ∧
      h'.device = { h.device with gfx := gfx } := by
  unfold createBuffer at hok
  obtain ⟨_, _, hget, hok⟩ := Checked.bind_eq_ok.mp hok
  obtain ⟨rfl, rfl⟩ := Checked.get_eq_ok.mp hget
  obtain ⟨surf, _, hsurf, hok⟩ := Checked.bind_eq_ok.mp hok
  obtain rfl := initGfxSurfaceParams_ok hsurf
  obtain rfl := initGfxSurfaceParams_surfaceOf hsurf
  obtain ⟨_, _, hgfx, hok⟩ := Checked.bind_eq_ok.mp hok
  obtain ⟨gfx, hallocate, rfl⟩ := callGfx_ok hgfx
  refine ⟨gfx, hallocate, ?_⟩
  have hsent := fun data₀ data₁ data₂ => Keeps.bind (device_writeIntoSocket env 0 data₀) fun _ =>
    .bind (device_writeIntoSocket env 1 data₁) fun _ => .bind (device_writeIntoSocket env 2 data₂) fun _ =>
    .bind .get fun h => device_sendFDs env 3 (h.gfx.getBo evInfo.info.remoteHandle)
  exact (hsent _ _ _).of_ok hok

theorem removeBuffer_device (hok : removeBuffer env evInfo h = .ok u h') :
    h'.device.gfx.boList = h.gfx.boList.erase evInfo.info.remoteHandle ∧
      h'.device = { h.device with gfx := h'.gfx } := by
  unfold removeBuffer at hok
  obtain ⟨_, _, hget, hok⟩ := Checked.bind_eq_ok.mp hok
  obtain ⟨rfl, rfl⟩ := Checked.get_eq_ok.mp hget
  obtain ⟨_, h₁, hwrite, hok⟩ := Checked.bind_eq_ok.mp hok
  have hfirst := (device_writeIntoSocket env _ _).of_ok hwrite
  obtain ⟨_, h₂, hwrite, hok⟩ := Checked.bind_eq_ok.mp hok
  have hsecond := (device_writeIntoSocket env _ _).of_ok hwrite
  obtain ⟨gfx, hclear, rfl⟩ := callGfx_ok hok
  have hdevice : h₂.device = h.device := hsecond.trans hfirst
  have hgfx : h₂.gfx = h.gfx := congrArg Device.gfx hdevice
  obtain ⟨-, hlist, -⟩ := GfxHandler.clearBo_ok hclear
  rw [hgfx] at hlist
  refine ⟨hlist, ?_⟩
  rw [← hdevice]
  rfl

/-- A display request that went through. -/
theorem xchngDisplayRequest_device {more : List Struct}
    (hok : xchngDisplayRequest env (.bufferInfoEvent evInfo :: more) h = .ok u h') :
    ∃ bo frame st gfx, h.gfx.boList.find evInfo.info.remoteHandle = some bo ∧
      getOneFrame env.fresh h.srcWidth h.srcHeight bo.surf
        ((List.range (bo.surf.width * bo.surf.height * bo.surf.pixelSize).toNat).map env.fresh) h.inputStream =
        (.ok frame, st) ∧
      h.gfx.copy env.kernel evInfo.info.remoteHandle bo frame = (.ok, gfx) ∧
      h'.device = { h.device with stream := st, gfx := gfx } := by
  unfold xchngDisplayRequest at hok
  obtain ⟨_, _, hget, hok⟩ := Checked.bind_eq_ok.mp hok
  obtain ⟨rfl, rfl⟩ := Checked.get_eq_ok.mp hget
  obtain ⟨-, hok⟩ := Checked.guard_eq_ok.mp hok
  obtain ⟨_, _, hget, hok⟩ := Checked.bind_eq_ok.mp hok
  obtain ⟨rfl, rfl⟩ := Checked.get_eq_ok.mp hget
  rcases hbo : h.gfx.getBo evInfo.info.remoteHandle with _ | bo
  · rw [hbo] at hok
    exact absurd hok Checked.throw_ne_ok
  rw [hbo] at hok
  obtain ⟨frame, h₁, hframe, hok⟩ := Checked.bind_eq_ok.mp hok
  unfold nextFrame at hframe
  obtain ⟨_, _, hget, hframe⟩ := Checked.bind_eq_ok.mp hframe
  obtain ⟨rfl, rfl⟩ := Checked.get_eq_ok.mp hget
  dsimp only at hframe
  rcases hone : getOneFrame env.fresh h.srcWidth h.srcHeight bo.surf
    ((List.range (bo.surf.width * bo.surf.height * bo.surf.pixelSize).toNat).map env.fresh) h.inputStream
    with ⟨_ | frame', st⟩
  · rw [hone] at hframe
    obtain ⟨_, _, -, hthrow⟩ := Checked.bind_eq_ok.mp hframe
    exact absurd hthrow Checked.throw_ne_ok
  rw [hone] at hframe
  obtain ⟨_, _, hset, hframe⟩ := Checked.bind_eq_ok.mp hframe
  obtain rfl := Checked.set_eq_ok.mp hset
  obtain ⟨rfl, rfl⟩ := Checked.pure_eq_ok.mp hframe
  obtain ⟨_, _, hgfx, hok⟩ := Checked.bind_eq_ok.mp hok
  obtain ⟨gfx, hcopy, rfl⟩ := callGfx_ok hgfx
  refine ⟨bo, frame', st, gfx, hbo, hone, hcopy, ?_⟩
  obtain ⟨_, h₂, hwrite, hok⟩ := Checked.bind_eq_ok.mp hok
  have hfirst := (device_writeIntoSocket env _ _).of_ok hwrite
  obtain ⟨_, h₃, hwrite, hok⟩ := Checked.bind_eq_ok.mp hok
  have hsecond := (device_writeIntoSocket env _ _).of_ok hwrite
  have hlast : h'.device = h₃.device := by
    split at hok
    · split at hok
      · exact (device_writeIntoSocket env _ _).of_ok hok
      · exact absurd hok Checked.throw_ne_ok
    · exact (Keeps.pure _).of_ok hok
  rw [hlast, hsecond, hfirst]
  rfl

end CmdHandler

/-! ## Over a session -/

section Sessions

variable {srcWidth srcHeight : UInt32} {surf : SurfaceParams} {content : List UInt8}

/-- The objects all have the surface, the content file is at frame `q`. -/
structure Ready (srcWidth srcHeight : UInt32) (surf : SurfaceParams) (content : List UInt8) (q : ℕ)
    (h : CmdHandler) : Prop where
  width : h.srcWidth = srcWidth
  height : h.srcHeight = srcHeight
  uniform : GfxHandler.Uniform surf h.gfx
  place : At srcWidth srcHeight surf content q h.inputStream

theorem Ready.of_device {q : ℕ} {h h' : CmdHandler} (hready : Ready srcWidth srcHeight surf content q h)
    {gfx : GfxHandler} (hdevice : h'.device = { h.device with gfx := gfx })
    (huniform : GfxHandler.Uniform surf gfx) : Ready srcWidth srcHeight surf content q h' where
  width := (congrArg Device.srcWidth hdevice).trans hready.width
  height := (congrArg Device.srcHeight hdevice).trans hready.height
  uniform := by
    have hgfx : h'.gfx = gfx := congrArg Device.gfx hdevice
    exact hgfx ▸ huniform
  place := by
    have hstream : h'.inputStream = h.inputStream := congrArg Device.stream hdevice
    exact hstream ▸ hready.place

/-- The entry is a display request. -/
def Entry.IsDisplay (e : Entry) : Prop := e.eventType = evDisplayReq

instance Entry.IsDisplay.decidable : DecidablePred Entry.IsDisplay :=
  fun e => inferInstanceAs (Decidable (e.eventType = evDisplayReq))

/-- A buffer that the entry creates has the surface. -/
def Entry.Creates (surf : SurfaceParams) (e : Entry) : Prop :=
  ∀ gralloc ∈ e.gralloc, CmdHandler.surfaceOf gralloc = surf

/-- The frame after a request: the next one, or the first one behind the call that finds nothing. -/
def following (frames q : ℕ) : ℕ := if q = frames then 0 else q + 1

theorem following_mod (frames k : ℕ) : following frames (k % (frames + 1)) = (k + 1) % (frames + 1) := by
  have hlt : k % (frames + 1) < frames + 1 := Nat.mod_lt k (Nat.succ_pos frames)
  rw [following, Nat.add_mod]
  split
  · rename_i hlast
    rw [hlast]
    rcases Nat.eq_zero_or_pos frames with rfl | hpos
    · rfl
    · rw [Nat.mod_eq_of_lt (show 1 < frames + 1 by omega), Nat.mod_self]
  · rename_i hlast
    rcases Nat.eq_zero_or_pos frames with rfl | hpos
    · omega
    · rw [Nat.mod_eq_of_lt (show 1 < frames + 1 by omega),
        Nat.mod_eq_of_lt (show k % (frames + 1) + 1 < frames + 1 by omega)]

/-- An entry that is sent, by its type. -/
theorem exchange_cases {e : Entry} {h h' : CmdHandler} {u : Unit} (hok : e.exchange h = .ok u h') :
    (∃ data, (e.eventType = evDispInfoReq ∨ e.eventType = evDispPortReq) ∧
      CmdHandler.writeIntoSocket e.surroundings 0 data h = .ok u h') ∨
    (∃ evInfo gralloc more, e.eventType = evCreateBuffer ∧
      e.payload = .bufferInfoEvent evInfo :: .grallocHandle gralloc :: more ∧
      CmdHandler.createBuffer e.surroundings evInfo gralloc h = .ok u h') ∨
    (∃ evInfo, e.eventType = evRemoveBuffer ∧ CmdHandler.removeBuffer e.surroundings evInfo h = .ok u h') ∨
    (∃ evInfo more, e.eventType = evDisplayReq ∧ e.payload = .bufferInfoEvent evInfo :: more ∧
      CmdHandler.xchngDisplayRequest e.surroundings (.bufferInfoEvent evInfo :: more) h = .ok u h') := by
  unfold Entry.exchange CmdHandler.dataExchange at hok
  obtain ⟨-, hok⟩ := Checked.guard_eq_ok.mp hok
  dsimp only at hok
  unfold CmdHandler.sendEntry at hok
  by_cases hevent : e.eventType = evDispInfoReq ∨ e.eventType = evDispPortReq
  · rw [if_pos hevent] at hok
    rcases hpayload : e.payload with _ | ⟨_ | _ | _ | _ | _ | _ | _, more⟩
    all_goals rw [hpayload] at hok
    case cons.displayEvent ev =>
      obtain ⟨_, _, hget, hok⟩ := Checked.bind_eq_ok.mp hok
      obtain ⟨rfl, rfl⟩ := Checked.get_eq_ok.mp hget
      exact .inl ⟨_, hevent, hok⟩
    all_goals exact absurd hok Checked.throw_ne_ok
  rw [if_neg hevent] at hok
  by_cases hcreate : e.eventType = evCreateBuffer
  · rw [if_pos hcreate] at hok
    rcases hpayload : e.payload with _ | ⟨_ | _ | _ | _ | _ | _ | _, more⟩
    all_goals rw [hpayload] at hok
    case cons.bufferInfoEvent evInfo =>
      rcases more with _ | ⟨_ | _ | _ | _ | _ | _ | _, more⟩
      case cons.grallocHandle gralloc => exact .inr (.inl ⟨evInfo, gralloc, more, hcreate, rfl, hok⟩)
      all_goals exact absurd hok Checked.throw_ne_ok
    all_goals exact absurd hok Checked.throw_ne_ok
  rw [if_neg hcreate] at hok
  by_cases hremove : e.eventType = evRemoveBuffer
  · rw [if_pos hremove] at hok
    rcases hpayload : e.payload with _ | ⟨_ | _ | _ | _ | _ | _ | _, more⟩
    all_goals rw [hpayload] at hok
    case cons.bufferInfoEvent evInfo => exact .inr (.inr (.inl ⟨evInfo, hremove, hok⟩))
    all_goals exact absurd hok Checked.throw_ne_ok
  rw [if_neg hremove] at hok
  by_cases hdisplay : e.eventType = evDisplayReq
  · rw [if_pos hdisplay] at hok
    rcases hpayload : e.payload with _ | ⟨_ | _ | _ | _ | _ | _ | _, more⟩
    all_goals rw [hpayload] at hok
    case cons.bufferInfoEvent evInfo => exact .inr (.inr (.inr ⟨evInfo, more, hdisplay, rfl, hok⟩))
    all_goals exact absurd hok Checked.throw_ne_ok
  · rw [if_neg hdisplay] at hok
    exact absurd hok Checked.throw_ne_ok

/-- **An exchange keeps the emulator ready**; the content moves with the display requests. -/
theorem Ready.exchange {q frames : ℕ} (hsuits : Suits srcWidth srcHeight surf) (hbytes : surf.bytes ≠ 0)
    (hlen : content.length = frames * frameBytes srcWidth srcHeight surf) (hq : q ≤ frames) {e : Entry}
    {h h' : CmdHandler} (hready : Ready srcWidth srcHeight surf content q h) (hcreates : e.Creates surf)
    (hok : e.exchange h = .ok () h') :
    Ready srcWidth srcHeight surf content (if e.IsDisplay then following frames q else q) h' := by
  rcases exchange_cases hok with ⟨data, hevent, hsend⟩ | ⟨evInfo, gralloc, more, htype, hpayload, hcreate⟩ |
    ⟨evInfo, htype, hremove⟩ | ⟨evInfo, more, htype, hpayload, hdisplay⟩
  · have hother : ¬ e.IsDisplay := by
      intro hdisplay
      rcases hevent with htype | htype
      all_goals exact absurd (hdisplay.symm.trans htype) (by decide)
    rw [if_neg hother]
    exact hready.of_device ((CmdHandler.device_writeIntoSocket _ _ _).of_ok hsend) hready.uniform
  · have hother : ¬ e.IsDisplay := fun hdisplay => absurd (hdisplay.symm.trans htype) (by decide)
    rw [if_neg hother]
    obtain ⟨gfx, hallocate, hdevice⟩ := CmdHandler.createBuffer_device hcreate
    have hsurf : CmdHandler.surfaceOf gralloc = surf := hcreates gralloc (by rw [Entry.gralloc, hpayload]; rfl)
    rw [hsurf] at hallocate
    exact hready.of_device hdevice (hready.uniform.allocateBo hallocate)
  · have hother : ¬ e.IsDisplay := fun hdisplay => absurd (hdisplay.symm.trans htype) (by decide)
    rw [if_neg hother]
    obtain ⟨hlist, hdevice⟩ := CmdHandler.removeBuffer_device hremove
    exact hready.of_device hdevice (hready.uniform.erase hlist)
  · rw [if_pos (show e.IsDisplay from htype)]
    obtain ⟨bo, frame, st, gfx, hfind, hone, hcopy, hdevice⟩ := CmdHandler.xchngDisplayRequest_device hdisplay
    have hsurf := hready.uniform _ _ hfind
    rw [hready.width, hready.height, hsurf] at hone
    have hplace := at_getOneFrame hsuits hbytes hlen hq hready.place ⟨e.surroundings.fresh,
      (List.range (surf.width * surf.height * surf.pixelSize).toNat).map e.surroundings.fresh⟩
    dsimp only at hplace
    rw [hone] at hplace
    refine ⟨?_, ?_, ?_, ?_⟩
    · exact (congrArg Device.srcWidth hdevice).trans hready.width
    · exact (congrArg Device.srcHeight hdevice).trans hready.height
    · have hgfx : h'.gfx = gfx := congrArg Device.gfx hdevice
      exact hgfx ▸ hready.uniform.copy hsurf hcopy
    · have hstream : h'.inputStream = st := congrArg Device.stream hdevice
      exact hstream ▸ hplace

theorem Ready.replay {frames k : ℕ} (hsuits : Suits srcWidth srcHeight surf) (hbytes : surf.bytes ≠ 0)
    (hlen : content.length = frames * frameBytes srcWidth srcHeight surf) {es : List Entry} {h h' : CmdHandler}
    (hready : Ready srcWidth srcHeight surf content (k % (frames + 1)) h) (hcreates : ∀ e ∈ es, e.Creates surf)
    (hok : replay es h = .ok () h') :
    Ready srcWidth srcHeight surf content ((k + es.countP (·.IsDisplay)) % (frames + 1)) h' := by
  induction es generalizing h k with
  | nil =>
    obtain ⟨-, rfl⟩ := Checked.pure_eq_ok.mp hok
    exact hready
  | cons e es ih =>
    obtain ⟨_, t, hexchange, hrest⟩ := Checked.bind_eq_ok.mp hok
    have hq : k % (frames + 1) ≤ frames := Nat.le_of_lt_succ (Nat.mod_lt k (Nat.succ_pos frames))
    have hnext := hready.exchange hsuits hbytes hlen hq (hcreates e List.mem_cons_self) hexchange
    have hothers : ∀ e ∈ es, e.Creates surf := fun e he => hcreates e (List.mem_cons_of_mem _ he)
    by_cases hdisplay : e.IsDisplay
    · rw [if_pos hdisplay, following_mod] at hnext
      rw [List.countP_cons, if_pos (decide_eq_true hdisplay), Nat.add_comm (es.countP _), ← Nat.add_assoc]
      exact ih hnext hothers hrest
    · rw [if_neg hdisplay] at hnext
      rw [List.countP_cons, if_neg (by simpa using hdisplay), Nat.add_zero]
      exact ih hnext hothers hrest

end Sessions

end VhalClient.Emulator
