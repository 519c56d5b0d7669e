/-
# VhalClient.Emulator.RenderNode — the render node, from two command lines to a comparison.

The emulator and the receiver are each told a device such as `/dev/dri/renderD128`.  The emulator looks for the
whole of the path's front, converts what follows with `atoi`, and sends the number less 128 as an `unsigned`;
the receiver looks for the last `D`, converts what follows with `stoi`, and adds 128 to what it reads as an
`int`.  `checkDispConfig_device_iff` says that the two agree about every node number that fits an `int`, also
about those below 128, of which the header holds a number near 2^32.
-/
import VhalClient.Lib.Strings
import VhalClient.Display.HwcReceiver
import VhalClient.Emulator.CmdHandler

namespace VhalClient.Display

open VhalClient.Lib VhalClient.Lib.Strings

/-! ## The receiver -/

/-- `ConfigInfo` without the directories of its `UnixConnectionInfo`. -/
structure ConfigInfo where
  androidInstanceId : Int32
  videoResWidth : Int32
  videoResHeight : Int32
  videoDevice : List UInt8
  userId : Int32
  deriving DecidableEq, Repr

/-- How `init` fails: it returns `false` behind a line in the log, or `stoi` throws. -/
inductive InitError where
  | returnedFalse (log : String)
  | threw (error : StoiError)
  deriving DecidableEq, Repr

namespace ConfigInfo

/-- `VirtualHwcReceiver::Impl::init`, as the `renderNode` it leaves. -/
def init (info : ConfigInfo) : Except InitError Int32 :=
  if info.videoResWidth ≤ 0 ∨ info.videoResHeight ≤ 0 then
    .error (.returnedFalse "video width/height not set\n")
  else if info.videoDevice = [] then .error (.returnedFalse "video device not specified\n")
  else
    -- 'D'
    match findLastOf 68 info.videoDevice with
    | none => .error (.returnedFalse "wrong video device: %s\n")
    | some pos =>
      match stoi (info.videoDevice.drop (pos + 1)) with
      | .error e => .error (.threw e)
      | .ok renderNode => .ok renderNode

/-- What the worker reads of it. -/
def config (info : ConfigInfo) (renderNode : Int32) : Config :=
  ⟨info.androidInstanceId, info.videoResWidth, info.videoResHeight, info.userId, renderNode⟩

end ConfigInfo

end VhalClient.Display

namespace VhalClient.Emulator

open VhalClient.Lib VhalClient.Lib.Scanf VhalClient.Lib.Strings VhalClient.Display
open Impl (checkDispConfig)

/-! ## The emulator -/

/-- `/dev/dri/renderD` -/
def renderDevice : List UInt8 :=
  [47, 100, 101, 118, 47, 100, 114, 105, 47, 114, 101, 110, 100, 101, 114, 68]

example : renderDevice = "/dev/dri/renderD".toList.map Char.toUInt8 := by decide

/-- `DEFAULT_GFX_DEVICE`, `/dev/dri/renderD128` -/
def defaultGfxDevice : List UInt8 := renderDevice ++ [49, 50, 56]

namespace GfxHandler

/-- `DetermineRenderNode`, for `m_device_str`. -/
def determineRenderNode (overlong : ℤ → Int32) (device : List UInt8) : Int32 :=
  if device = [] then 0
  else
    match find renderDevice device with
    | none => 0
    | some pos => atoi overlong (device.drop (pos + renderDevice.length)) - 128

/-- `GfxInit` up to the device: an empty name is that of the default. -/
def gfxInit (overlong : ℤ → Int32) (deviceString : List UInt8) (g : GfxHandler) : GfxHandler :=
  let device := if deviceString = [] then defaultGfxDevice else deviceString
  { g with renderNode := determineRenderNode overlong device }

end GfxHandler

/-! ## A device with a number -/

/-- The device of a node. -/
def deviceOf (n : ℕ) : List UInt8 := renderDevice ++ decimal n

variable {n m : ℕ}

theorem deviceOf_ne_nil (n : ℕ) : deviceOf n ≠ [] := by
  exact List.cons_ne_nil _ _

theorem determineRenderNode_deviceOf (overlong : ℤ → Int32) (hn : n < 2 ^ 31) :
    GfxHandler.determineRenderNode overlong (deviceOf n) = Int32.ofNat n - 128 := by
  have hfind : find renderDevice (deviceOf n) = some 0 := find_append renderDevice (decimal n)
  have hdrop : (deviceOf n).drop (0 + renderDevice.length) = decimal n := by
    rw [Nat.zero_add, deviceOf, List.drop_left]
  rw [GfxHandler.determineRenderNode, if_neg (deviceOf_ne_nil n), hfind]
  dsimp only
  rw [hdrop, atoi_decimal overlong hn]

/-- The receiver's `init` finds the number, and does not fail. -/
theorem init_deviceOf {info : ConfigInfo} (hwidth : 0 < info.videoResWidth)
    (hheight : 0 < info.videoResHeight) (hdevice : info.videoDevice = deviceOf m) (hm : m < 2 ^ 31) :
    info.init = .ok (Int32.ofNat m) := by
  -- The path has a `D` in front of the number, and a number has none.
  have hlast : findLastOf 68 (deviceOf m) = some 15 :=
    findLastOf_append_cons (renderDevice.take 15) (not_mem_decimal rfl m)
  have hdrop : (deviceOf m).drop (15 + 1) = decimal m := List.drop_left' rfl
  have hsize : ¬ (info.videoResWidth ≤ 0 ∨ info.videoResHeight ≤ 0) := by
    rw [not_or, Int32.not_le, Int32.not_le]
    exact ⟨hwidth, hheight⟩
  rw [ConfigInfo.init, if_neg hsize, hdevice, if_neg (deviceOf_ne_nil m), hlast]
  dsimp only
  rw [hdrop, stoi_decimal hm]

/-! ## The comparison -/

theorem toInt_ofNat (hn : n < 2 ^ 31) : (Int32.ofNat n).toInt = n := (toInt_int32_ofNat_eq_iff n).mpr hn

theorem int32_ofNat_inj (hn : n < 2 ^ 31) (hm : m < 2 ^ 31) : Int32.ofNat m = Int32.ofNat n ↔ n = m := by
  rw [← Int32.toInt_inj, toInt_ofNat hm, toInt_ofNat hn, Nat.cast_inj, eq_comm]

theorem int32_ofNat_ne_neg_one (hm : m < 2 ^ 31) : Int32.ofNat m ≠ -1 := by
  intro heq
  have hint := congrArg Int32.toInt heq
  rw [toInt_ofNat hm, show (-1 : Int32).toInt = -1 from rfl] at hint
  omega

/-- What the emulator takes off the number and sends as an `unsigned` comes back as the number. -/
theorem wire_renderNode (node : Int32) : (node - 128).toUInt32.toInt32 + 128 = node := by
  rw [Int32.toInt32_toUInt32, Int32.sub_add_cancel]

/-- The receiver that was told node `m` about a header with what the emulator makes of node `n`. -/
theorem checkDispConfig_node_iff (info : ConfigInfo) (hn : n < 2 ^ 31) (hm : m < 2 ^ 31) (id : Int32) :
    checkDispConfig (info.config (Int32.ofNat m)) id (Int32.ofNat n - 128).toUInt32.toInt32 = 0 ↔
      info.androidInstanceId < 0 ∨ n = m ∧ id = info.androidInstanceId := by
  rw [checkDispConfig, wire_renderNode, ConfigInfo.config]
  dsimp only
  by_cases hsession : info.androidInstanceId < 0
  · rw [if_pos hsession]
    exact iff_of_true rfl (Or.inl hsession)
  · rw [if_neg hsession, or_iff_right hsession]
    by_cases hnode : n = m
    · have hpass : ¬ (Int32.ofNat m = -1 ∨ Int32.ofNat m ≠ Int32.ofNat n) := by
        rw [not_or, not_not]
        exact ⟨int32_ofNat_ne_neg_one hm, (int32_ofNat_inj hn hm).mpr hnode⟩
      rw [if_neg hpass, and_iff_right hnode]
      by_cases hid : info.androidInstanceId = id
      · rw [if_neg (not_not.mpr hid)]
        exact iff_of_true rfl hid.symm
      · rw [if_pos hid]
        exact iff_of_false (by decide) (Ne.symm hid)
    · have hfail : Int32.ofNat m = -1 ∨ Int32.ofNat m ≠ Int32.ofNat n :=
        Or.inr fun heq => hnode ((int32_ofNat_inj hn hm).mp heq)
      rw [if_pos hfail]
      exact iff_of_false (by decide) fun hboth => hnode hboth.1

namespace CmdHandler

/-- The exchange of a `DISPINFO_REQ`: the header of the log, with the render node of the device in use. -/
theorem dataExchange_dispInfoReq {env : Surroundings} {h : CmdHandler} (hsocket : h.socket = some true)
    (hsend : env.send 0 16 = 16) (ev : DisplayEvent) (more : List Struct) :
    dataExchange env (.displayEvent ev :: more) ⟨evDispInfoReq, .send⟩ h =
      .ok () (h.put (plain (Layout.displayEvent.write (h.override ev)))) := by
  have hlength : (Layout.displayEvent.write (h.override ev)).length = 16 := Layout.displayEvent.length_write _
  exact writeIntoSocket_of_send hsocket (hlength ▸ hsend)

end CmdHandler

/-- **The two programs agree about the device.** For all node numbers that fit an `int` and all session ids: the
receiver's `init` succeeds, and it accepts the `DISPINFO_REQ` that the emulator sends exactly when it checks
nothing, or when the two were told the same node and the header has its id. -/
theorem checkDispConfig_device_iff (overlong : ℤ → Int32) (hn : n < 2 ^ 31) (hm : m < 2 ^ 31)
    {info : ConfigInfo} (hwidth : 0 < info.videoResWidth) (hheight : 0 < info.videoResHeight)
    (hdevice : info.videoDevice = deviceOf m) {env : Surroundings} {g : GfxHandler} {h : CmdHandler}
    (hgfx : h.gfx.renderNode = (g.gfxInit overlong (deviceOf n)).renderNode)
    (hsocket : h.socket = some true) (hsend : env.send 0 16 = 16) (ev : DisplayEvent) (more : List Struct) :
    ∃ renderNode h' bytes,
      info.init = .ok renderNode ∧
      CmdHandler.dataExchange env (.displayEvent ev :: more) ⟨evDispInfoReq, .send⟩ h = .ok () h' ∧
      h'.outgoing = h.outgoing ++ plain bytes ∧
      (checkDispConfig (info.config renderNode) (Layout.displayEvent.read bytes).id.toInt32
          (Layout.displayEvent.read bytes).renderNode.toInt32 = 0 ↔
        info.androidInstanceId < 0 ∨ n = m ∧ ev.id.toInt32 = info.androidInstanceId) := by
  have hnode : h.gfx.renderNode = Int32.ofNat n - 128 := by
    rw [hgfx, GfxHandler.gfxInit, if_neg (deviceOf_ne_nil n)]
    exact determineRenderNode_deviceOf overlong hn
  refine ⟨Int32.ofNat m, _, Layout.displayEvent.write (h.override ev),
    init_deviceOf hwidth hheight hdevice hm, CmdHandler.dataExchange_dispInfoReq hsocket hsend ev more, rfl, ?_⟩
  rw [Layout.displayEvent.read_write, CmdHandler.override, GfxHandler.getRenderNode, hnode]
  exact checkDispConfig_node_iff info hn hm ev.id.toInt32

/-- An emulator with a device, whose sends take all. -/
def emulatorOn (device : List UInt8) : CmdHandler :=
  ⟨some true, [], [], [], GfxHandler.gfxInit (fun _ => 0) device ⟨true, .empty, 0, []⟩, ⟨[], 0, false, false⟩, 0, 0⟩

def takingAll : Surroundings := ⟨⟨none, none, false, false, none, false, false⟩, fun _ n => n, id, fun _ => 0⟩

/-- A receiver for session 5. -/
def receiverOn (device : List UInt8) : ConfigInfo := ⟨5, 1280, 720, device, 0⟩

/-- Node 100 goes over the wire as 2^32 - 28, and is accepted. -/
theorem checkDispConfig_device_iff_node100 :
    ∃ renderNode h' bytes,
      (receiverOn (deviceOf 100)).init = .ok renderNode ∧
      CmdHandler.dataExchange takingAll [.displayEvent ⟨evDispInfoReq, 16, 5, 0⟩] ⟨evDispInfoReq, .send⟩
        (emulatorOn (deviceOf 100)) = .ok () h' ∧
      h'.outgoing = (emulatorOn (deviceOf 100)).outgoing ++ plain bytes ∧
      (checkDispConfig ((receiverOn (deviceOf 100)).config renderNode)
          (Layout.displayEvent.read bytes).id.toInt32 (Layout.displayEvent.read bytes).renderNode.toInt32 = 0 ↔
        (receiverOn (deviceOf 100)).androidInstanceId < 0 ∨
          100 = 100 ∧ (5 : UInt32).toInt32 = (receiverOn (deviceOf 100)).androidInstanceId) :=
  checkDispConfig_device_iff (fun _ => 0) (by decide) (by decide) (by decide) (by decide) rfl
    (g := ⟨true, .empty, 0, []⟩) rfl rfl rfl ⟨evDispInfoReq, 16, 5, 0⟩ []

end VhalClient.Emulator
