/-
# VhalClient.Emulator.Main — the emulator as a program.

`main` reads its command line, makes a `CmdHandler`, which loads the log, opens the content file and the device
and waits for the receiver, and then processes one entry after the other.  Whatever goes wrong ends it with the
status of what went wrong; at the end of the log it prints how many events there were.

`main_endOfRun_iff` says when it gets there, for any command line and any surroundings.  The end of the log is
reported by a status too, so it matters that no entry fails with that status (`ofEntry_processNextEntry`).
-/
import VhalClient.Emulator.CommandLine
import VhalClient.Emulator.Device
import VhalClient.Emulator.LogReplay
import VhalClient.Emulator.RenderNode
import VhalClient.Emulator.SocketServer

namespace VhalClient.Emulator

open VhalClient.Lib VhalClient.Lib.Yaml VhalClient.Display

/-- What `main` finds. -/
structure Host where
  /-- `getenv("K8S_ENV")` -/
  k8sEnv : Option (List UInt8)
  /-- What there is to be read for a YAML library. -/
  text : List UInt8 → Option (List Char)
  /-- The content of a file that can be opened. -/
  content : List UInt8 → Option (List UInt8)
  device : DeviceAnswers
  /-- What is in the memory of `m_device_fd`. -/
  found : ℤ
  /-- What stands in memory behind the bytes of the server's `sun_path`. -/
  behind : List UInt8
  attempt : Attempt
  /-- What the receiver will send. -/
  incoming : Feed UInt8
  /-- The surroundings of the exchanges, by the number of the entry. -/
  entries : ℕ → Surroundings

/-! ## The handler -/

namespace AicConfigData

/-- `m_UnixConnInfo.android_instance_id`; an instance of Kubernetes has none. -/
def androidInstanceId (host : Host) (config : AicConfigData) : Int32 :=
  if host.k8sEnv ≠ some ("true".toList.map Char.toUInt8) then config.sessionId else -1

/-- The path of `InitSocket`, if there is a directory. -/
def socketPath (host : Host) (config : AicConfigData) : Option (List UInt8) :=
  if config.hwcSock = [] then none
  else if 0 ≤ config.androidInstanceId host then
    some (config.hwcSock ++ Strings.decimalInt (config.androidInstanceId host))
  else some config.hwcSock

def initYmlParser (y : Loader) (host : Host) (config : AicConfigData) : Except AicError (List Node) :=
  match (host.text config.ymlFileName).bind y.loadAll with
  | none => .error .ymlLoad
  | some nodes => .ok nodes

def initGfxSurfaceHandler (overlong : ℤ → Int32) (host : Host) (config : AicConfigData) :
    Except AicError (InputStream × GfxHandler) :=
  match host.content config.contentFileName with
  | none => .error .inputStream
  | some content =>
    if isDirectRead config.srcWidth config.srcHeight 0 0 = false ∧ (config.srcWidth = 0 ∨ config.srcHeight = 0) then
      .error .streamParams
    else
      match (GfxDevice.construct host.found).gfxInit host.device with
      | (.fail, _) => .error .gfx
      | (.ok, _) =>
        .ok (⟨content, 0, false, false⟩, GfxHandler.gfxInit overlong config.deviceString
          ⟨4 ≤ host.device.mmapGttVersion, .empty, 0, []⟩)

/-- `InitSocket`, as the `connected_` of the server. -/
def initSocket (host : Host) (config : AicConfigData) : Except AicError Bool :=
  match config.socketPath host with
  | none => .error .socketInit
  | some sockPath =>
    match ((UnixServerSocket.construct sockPath host.behind).awaitConnection host.attempt).1 with
    | none => .error .socketConnect
    | some connected => .ok connected

/-- `Init`, as the handler it leaves and the documents it loaded. -/
def init (overlong : ℤ → Int32) (y : Loader) (host : Host) (config : AicConfigData) :
    Except AicError (CmdHandler × List Node) :=
  match config.initYmlParser y host with
  | .error e => .error e
  | .ok nodes =>
    match config.initGfxSurfaceHandler overlong host with
    | .error e => .error e
    | .ok (inputStream, gfx) =>
      match config.initSocket host with
      | .error e => .error e
      | .ok connected =>
        .ok (⟨some connected, [], host.incoming, [], gfx, inputStream, config.srcWidth, config.srcHeight⟩, nodes)

end AicConfigData

/-! ## `main` -/

/-- How the program ends. -/
inductive Ended where
  /-- `exit(0)`, behind the help. -/
  | helped
  /-- With a status that `CHECK_STATUS` returned. -/
  | failed (e : Failure)
  /-- With a line that says how many events were processed, and 0. -/
  | endOfRun (count : ℕ) (h : CmdHandler)

/-- The loop over the entries; behind the last document the status is `AICS_ERR_EOF`, which is counted too. -/
def mainLoop (y : Loader) (entries : ℕ → Surroundings) (count : ℕ) : List Node → CmdHandler → Ended
  | [], h => .endOfRun (count + 1) h
  | node :: nodes, h =>
    match (CmdHandler.processNextEntry y (entries count) (node :: nodes)).1 h with
    | .ok _ h => mainLoop y entries (count + 1) nodes h
    | .error e h => if e = .aic .eof then .endOfRun (count + 1) h else .failed e

def main (overlong : ℤ → Int32) (y : Loader) (host : Host) (args : List (List UInt8)) : Ended :=
  match parseArgs overlong args with
  | .exit => .helped
  | .returned _ (some e) => .failed (.aic e)
  | .returned config none =>
    match config.init overlong y host with
    | .error e => .failed (.aic e)
    | .ok (h, nodes) => mainLoop y host.entries 0 nodes h

/-! ## No entry is taken for the end -/

/-- A failure that an entry can have. -/
def Failure.OfEntry : Failure → Prop
  | .aic .eof => False
  | .aic .invalidArgs => False
  | .aic .ymlLoad => False
  | _ => True

namespace CmdHandler

open Checked

variable {env : Surroundings}

theorem ofEntry_callGfx (f : GfxHandler → GfxStatus × GfxHandler) : Raises Failure.OfEntry (callGfx f) := by
  refine .bind .get ?_
  intro h
  rcases f h.gfx with ⟨status, gfx⟩
  refine .bind (.set _) ?_
  intro _
  cases status with
  | ok => exact .pure _
  | fail => exact .throw trivial

theorem ofEntry_nextFrame (surf : SurfaceParams) : Raises Failure.OfEntry (nextFrame env surf) := by
  refine .bind .get ?_
  intro h
  dsimp only
  rcases hframe : getOneFrame env.fresh h.srcWidth h.srcHeight surf _ h.inputStream with ⟨result, st⟩
  refine .bind (.set _) ?_
  intro _
  cases result with
  | ok frame => exact .pure _
  | error e =>
    apply Raises.throw
    rcases getOneFrame_error (congrArg Prod.fst hframe) with rfl | rfl
    · trivial
    · trivial

theorem ofEntry_writeIntoSocket (i : ℕ) (data : List UInt8) :
    Raises Failure.OfEntry (writeIntoSocket env i data) := by
  refine .bind .get ?_
  intro h
  rcases h.socket with _ | _ | _
  · exact .throw trivial
  · exact .throw trivial
  · exact .ite (fun _ => .throw trivial) fun _ => .set _

theorem ofEntry_readFromSocket (sizeInBytes : ℕ) : Raises Failure.OfEntry (readFromSocket sizeInBytes) := by
  refine .bind .get ?_
  intro h
  rcases h.socket with _ | _ | _
  · exact .throw trivial
  · exact .throw trivial
  · dsimp only
    rcases h.incoming.recv sizeInBytes with ⟨_ | _ | _, f⟩
    · exact .set _
    · exact .set _
    · exact .bind (.set _) fun _ => .throw trivial

theorem ofEntry_sendFDs (i : ℕ) (bo : Option BoData) : Raises Failure.OfEntry (sendFDs env i bo) := by
  cases bo with
  | none => exact .throw trivial
  | some bo => exact .ite (fun _ => .throw trivial) fun _ => .modify _

theorem ofEntry_initGfxSurfaceParams (props : CrosGrallocHandle) :
    Raises Failure.OfEntry (initGfxSurfaceParams props) := by
  unfold initGfxSurfaceParams
  refine .guard trivial ?_
  intro _
  dsimp only
  rcases GfxHandler.adjustSurfaceParams _ with ⟨_ | _, surf⟩
  · exact .pure _
  · exact .throw trivial

theorem ofEntry_createBuffer (evInfo : BufferInfoEvent) (gralloc : CrosGrallocHandle) :
    Raises Failure.OfEntry (createBuffer env evInfo gralloc) :=
  .bind .get fun _ => .bind (ofEntry_initGfxSurfaceParams _) fun _ => .bind (ofEntry_callGfx _) fun _ =>
    .bind (ofEntry_writeIntoSocket _ _) fun _ => .bind (ofEntry_writeIntoSocket _ _) fun _ =>
      .bind (ofEntry_writeIntoSocket _ _) fun _ => .bind .get fun _ => ofEntry_sendFDs _ _

theorem ofEntry_removeBuffer (evInfo : BufferInfoEvent) : Raises Failure.OfEntry (removeBuffer env evInfo) :=
  .bind .get fun _ => .bind (ofEntry_writeIntoSocket _ _) fun _ => .bind (ofEntry_writeIntoSocket _ _) fun _ =>
    ofEntry_callGfx _

theorem ofEntry_xchngDisplayRequest (payload : List Struct) :
    Raises Failure.OfEntry (xchngDisplayRequest env payload) := by
  unfold xchngDisplayRequest
  split
  · exact .throw trivial
  · refine .bind .get ?_
    intro h
    dsimp only
    refine .guard trivial fun _ => .bind .get ?_
    intro h'
    split
    · exact .throw trivial
    · refine .bind (ofEntry_nextFrame _) fun _ => .bind (ofEntry_callGfx _) fun _ =>
        .bind (ofEntry_writeIntoSocket _ _) fun _ => .bind (ofEntry_writeIntoSocket _ _) fun _ => ?_
      refine .ite (fun _ => ?_) fun _ => .pure _
      split
      · exact ofEntry_writeIntoSocket _ _
      · exact .throw trivial
  · exact .throw trivial

theorem ofEntry_sendEntry (payload : List Struct) (eventType : UInt32) :
    Raises Failure.OfEntry (sendEntry env payload eventType) := by
  unfold sendEntry
  refine .ite (fun _ => ?_) fun _ => .ite (fun _ => ?_) fun _ => .ite (fun _ => ?_) fun _ =>
    .ite (fun _ => ofEntry_xchngDisplayRequest payload) fun _ => .throw trivial
  · split
    · exact .bind .get fun _ => ofEntry_writeIntoSocket _ _
    · exact .throw trivial
  · split
    · exact ofEntry_createBuffer _ _
    · exact .throw trivial
  · split
    · exact ofEntry_removeBuffer _
    · exact .throw trivial

theorem ofEntry_receiveEntry (eventType : UInt32) : Raises Failure.OfEntry (receiveEntry eventType) := by
  rw [receiveEntry]
  exact .ite (fun _ => ofEntry_readFromSocket _) fun _ => .ite (fun _ => ofEntry_readFromSocket _) fun _ =>
    .ite (fun _ => ofEntry_readFromSocket _) fun _ => .throw trivial

theorem ofEntry_dataExchange (payload : List Struct) (metadata : Metadata) :
    Raises Failure.OfEntry (dataExchange env payload metadata) := by
  unfold dataExchange
  refine .guard trivial fun _ => ?_
  cases metadata.direction with
  | send => exact ofEntry_sendEntry _ _
  | receive => exact ofEntry_receiveEntry _
  | unknown => exact .throw trivial

/-- **No entry is taken for the end of the log**, whatever document it comes from. -/
theorem ofEntry_processNextEntry (env : Surroundings) (y : Loader) (node : Node) (nodes : List Node) :
    Raises Failure.OfEntry (processNextEntry y env (node :: nodes)).1 := by
  show Raises Failure.OfEntry (processNode y env node)
  unfold processNode
  split
  · exact .throw trivial
  · exact ofEntry_dataExchange _ _

end CmdHandler

/-! ## The end of the run -/

namespace AicConfigData

/-- What `Init` needs. -/
structure Starts (y : Loader) (host : Host) (config : AicConfigData) (nodes : List Node) (content : List UInt8) :
    Prop where
  log : (host.text config.ymlFileName).bind y.loadAll = some nodes
  content : host.content config.contentFileName = some content
  /-- Both numbers of a resolution are given, or none. -/
  resolution : config.srcWidth = 0 ↔ config.srcHeight = 0
  device : host.device.Suits
  attempt : host.attempt.Succeeds

/-- The handler that `Init` leaves. -/
def started (overlong : ℤ → Int32) (host : Host) (config : AicConfigData) (content : List UInt8) : CmdHandler where
  socket := some true
  outgoing := []
  incoming := host.incoming
  received := []
  gfx := GfxHandler.gfxInit overlong config.deviceString ⟨true, .empty, 0, []⟩
  inputStream := ⟨content, 0, false, false⟩
  srcWidth := config.srcWidth
  srcHeight := config.srcHeight

variable {overlong : ℤ → Int32} {y : Loader} {host : Host} {config : AicConfigData}

theorem socketPath_isSome (host : Host) (h : config.hwcSock ≠ []) :
    ∃ sockPath, config.socketPath host = some sockPath := by
  unfold socketPath
  rw [if_neg h]
  split
  · exact ⟨_, rfl⟩
  · exact ⟨_, rfl⟩

theorem initSocket_cases (host : Host) (h : config.hwcSock ≠ []) :
    host.attempt.Succeeds ∧ config.initSocket host = .ok true ∨
      ¬host.attempt.Succeeds ∧ config.initSocket host = .error .socketConnect := by
  obtain ⟨sockPath, hpath⟩ := socketPath_isSome host h
  unfold initSocket
  rw [hpath]
  dsimp only
  rcases (UnixServerSocket.tidy_construct sockPath host.behind).awaitConnection_cases host.attempt with
    ⟨ha, hconnected, -⟩ | ⟨ha, hthrew, -⟩
  · rw [hconnected]
    exact .inl ⟨ha, rfl⟩
  · rw [hthrew]
    exact .inr ⟨ha, rfl⟩

theorem resolution_iff (width height : UInt32) :
    ¬(isDirectRead width height 0 0 = false ∧ (width = 0 ∨ height = 0)) ↔ (width = 0 ↔ height = 0) := by
  unfold isDirectRead
  by_cases hwidth : width = 0
  · by_cases hheight : height = 0
    · simp [hwidth, hheight]
    · simp [hwidth, hheight]
  · by_cases hheight : height = 0
    · simp [hwidth, hheight]
    · simp [hwidth, hheight]

theorem init_eq_ok_iff (hsock : config.hwcSock ≠ []) {h : CmdHandler} {nodes : List Node} :
    config.init overlong y host = .ok (h, nodes) ↔
      ∃ content, config.Starts y host nodes content ∧ h = config.started overlong host content := by
  have hsize := resolution_iff config.srcWidth config.srcHeight
  have hdevice := GfxDevice.gfxInit_ok_iff host.device (GfxDevice.construct host.found)
  unfold init initYmlParser initGfxSurfaceHandler
  cases hlog : (host.text config.ymlFileName).bind y.loadAll with
  | none =>
    refine iff_of_false (by simp) ?_
    rintro ⟨content, hstarts, -⟩
    exact nomatch hlog.symm.trans hstarts.log
  | some docs =>
    dsimp only
    cases hcontent : host.content config.contentFileName with
    | none =>
      refine iff_of_false (by simp) ?_
      rintro ⟨content, hstarts, -⟩
      exact nomatch hcontent.symm.trans hstarts.content
    | some bytes =>
      dsimp only
      by_cases hodd : isDirectRead config.srcWidth config.srcHeight 0 0 = false ∧
          (config.srcWidth = 0 ∨ config.srcHeight = 0)
      · rw [if_pos hodd]
        refine iff_of_false (by simp) ?_
        rintro ⟨content, hstarts, -⟩
        exact hsize.mpr hstarts.resolution hodd
      rw [if_neg hodd]
      generalize (GfxDevice.construct host.found).gfxInit host.device = answer at hdevice
      obtain ⟨status, device⟩ := answer
      cases status with
      | fail =>
        refine iff_of_false (by simp) ?_
        rintro ⟨content, hstarts, -⟩
        exact nomatch hdevice.mpr hstarts.device
      | ok =>
        have hsuits := hdevice.mp rfl
        dsimp only
        rcases initSocket_cases host hsock with ⟨ha, hok⟩ | ⟨ha, herror⟩
        · rw [hok, decide_eq_true hsuits.mmapGttVersion]
          constructor
          · intro hinit
            cases hinit
            exact ⟨bytes, ⟨hlog, hcontent, hsize.mp hodd, hsuits, ha⟩, rfl⟩
          · rintro ⟨content, hstarts, rfl⟩
            cases hlog.symm.trans hstarts.log
            cases hcontent.symm.trans hstarts.content
            rfl
        · rw [herror]
          refine iff_of_false (by simp) ?_
          rintro ⟨content, hstarts, -⟩
          exact ha hstarts.attempt

end AicConfigData

/-- What the loop makes of a document at its place in the log. -/
def processAt (y : Loader) (entries : ℕ → Surroundings) (p : Node × ℕ) : Command Unit :=
  CmdHandler.processNode y (entries p.2) p.1

/-- The loop goes to the end exactly through entries that do not fail, and counts one more. -/
theorem mainLoop_eq_endOfRun_iff (y : Loader) (entries : ℕ → Surroundings) (count : ℕ) (nodes : List Node)
    (h : CmdHandler) {n : ℕ} {h' : CmdHandler} :
    mainLoop y entries count nodes h = .endOfRun n h' ↔
      n = count + nodes.length + 1 ∧
        Checked.runAll (processAt y entries) (nodes.zipIdx count) h = .ok () h' := by
  induction nodes generalizing count h with
  | nil =>
    constructor
    · intro hend
      cases hend
      exact ⟨rfl, rfl⟩
    · rintro ⟨rfl, hrun⟩
      cases hrun
      rfl
  | cons node nodes ih =>
    have hcount : count + (node :: nodes).length + 1 = count + 1 + nodes.length + 1 := by
      rw [List.length_cons]
      omega
    rw [List.zipIdx_cons, Checked.runAll_cons, mainLoop]
    have hofEntry := CmdHandler.ofEntry_processNextEntry (entries count) y node nodes
    have hsame : (CmdHandler.processNextEntry y (entries count) (node :: nodes)).1 h =
      processAt y entries (node, count) h := rfl
    cases hentry : processAt y entries (node, count) h with
    | ok u t =>
      rw [hsame, hentry, hcount]
      dsimp only
      rw [ih]
      refine and_congr_right fun _ => ?_
      constructor
      · intro hrest
        exact ⟨t, hentry ▸ rfl, hrest⟩
      · rintro ⟨t', hfirst, hrest⟩
        cases hfirst
        exact hrest
    | error e t =>
      have hne : e ≠ .aic .eof := by
        rintro rfl
        exact hofEntry h _ t (hsame.trans hentry)
      rw [hsame, hentry]
      dsimp only
      rw [if_neg hne]
      refine iff_of_false (by simp) ?_
      rintro ⟨-, t', hfirst, -⟩
      cases hfirst

theorem hwcSock_of_parseArgs {overlong : ℤ → Int32} {args : List (List UInt8)} {config : AicConfigData}
    (h : parseArgs overlong args = .returned config none) : config.hwcSock ≠ [] := by
  unfold parseArgs at h
  split at h
  · cases h
  · injection h with hconfig hstatus
    subst hconfig
    unfold AicConfigData.status at hstatus
    split_ifs at hstatus
    assumption

section

variable {overlong : ℤ → Int32} {y : Loader} {host : Host} {args : List (List UInt8)} {n : ℕ} {h' : CmdHandler}

/-- A program that got to the end of its log had what it needs, and no entry failed. -/
theorem starts_of_main_endOfRun (h : main overlong y host args = .endOfRun n h') :
    ∃ config nodes content, parseArgs overlong args = .returned config none ∧
      config.Starts y host nodes content ∧ n = nodes.length + 1 ∧
      Checked.runAll (processAt y host.entries) nodes.zipIdx (config.started overlong host content) = .ok () h' := by
  unfold main at h
  cases hparse : parseArgs overlong args with
  | exit =>
    rw [hparse] at h
    cases h
  | returned config status =>
    rw [hparse] at h
    cases status with
    | some e => cases h
    | none =>
      dsimp only at h
      cases hinit : config.init overlong y host with
      | error e =>
        rw [hinit] at h
        cases h
      | ok started =>
        obtain ⟨t, nodes⟩ := started
        obtain ⟨content, hstarts, rfl⟩ := (AicConfigData.init_eq_ok_iff (hwcSock_of_parseArgs hparse)).mp hinit
        rw [hinit] at h
        dsimp only at h
        rw [mainLoop_eq_endOfRun_iff, zero_add] at h
        exact ⟨config, nodes, content, rfl, hstarts, h.1, h.2⟩

theorem main_eq_endOfRun {config : AicConfigData} {nodes : List Node} {content : List UInt8}
    (hparse : parseArgs overlong args = .returned config none) (hstarts : config.Starts y host nodes content)
    (hrun : Checked.runAll (processAt y host.entries) nodes.zipIdx (config.started overlong host content) =
      .ok () h') :
    main overlong y host args = .endOfRun (nodes.length + 1) h' := by
  have hinit : config.init overlong y host = .ok (config.started overlong host content, nodes) :=
    (AicConfigData.init_eq_ok_iff (hwcSock_of_parseArgs hparse)).mpr ⟨content, hstarts, rfl⟩
  unfold main
  rw [hparse]
  dsimp only
  rw [hinit]
  dsimp only
  rw [mainLoop_eq_endOfRun_iff, zero_add]
  exact ⟨rfl, hrun⟩

end

end VhalClient.Emulator
