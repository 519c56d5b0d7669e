/-
# VhalClient.Emulator.CommandLine — `ParseArgs`, the command line of the emulator.

`ParseArgs` reads flags with a value each, until the words are used up, a flag has no value left or a word is no
flag; a question for help ends the process on the spot.  Three of the settings are mandatory.

`parseArgs_reads` says what that makes of any words at all: there is one way to divide them into settings and a
tail, and the outcome is that of the last value each flag has among the settings; what stands in the tail is
ignored, unless it asks for help.  `parseArgs_of_perm` is the way back: the settings of a configuration, written
in any order, are read as that configuration.
-/
import Mathlib.Data.List.Induction
import VhalClient.Lib.Strings
import VhalClient.Emulator.CmdHandler

namespace VhalClient.Emulator

open VhalClient.Lib VhalClient.Lib.Scanf VhalClient.Lib.Strings

/-- `AicConfigData_t`, as `main` initializes it. -/
structure AicConfigData where
  ymlFileName : List UInt8 := []
  contentFileName : List UInt8 := []
  deviceString : List UInt8 := []
  /-- `socketInfo.hwc_sock` -/
  hwcSock : List UInt8 := []
  /-- `socketInfo.session_id` -/
  sessionId : Int32 := 0
  manageFps : Bool := true
  srcWidth : UInt32 := 0
  srcHeight : UInt32 := 0
  deriving DecidableEq, Repr

/-! ## The words -/

/-- The flags that take a value. -/
inductive Flag where
  | cmd
  | content
  | device
  | hwcSock
  | manageFps
  | instanceId
  | srcRes
  deriving DecidableEq, Repr

namespace Flag

def text : Flag → String
  | cmd => "--cmd"
  | content => "--content"
  | device => "--device"
  | hwcSock => "--hwc-sock"
  | manageFps => "--manage-fps"
  | instanceId => "--instance"
  | srcRes => "--src-res"

/-- The flag as a word of the command line. -/
def word (f : Flag) : List UInt8 := f.text.toList.map Char.toUInt8

/-- The flags, in the order in which a word is compared with them. -/
def all : List Flag := [cmd, content, device, hwcSock, manageFps, instanceId, srcRes]

def ofWord (arg : List UInt8) : Option Flag := all.find? fun f => f.word = arg

end Flag

/-- `-h` or `--help` -/
def AsksHelp (arg : List UInt8) : Prop :=
  arg = "-h".toList.map Char.toUInt8 ∨ arg = "--help".toList.map Char.toUInt8

instance AsksHelp.decidable (arg : List UInt8) : Decidable (AsksHelp arg) :=
  inferInstanceAs (Decidable (_ ∨ _))

/-! ## `ParseArgs` -/

section

variable (overlong : ℤ → Int32)

namespace AicConfigData

/-- The value of `--src-res`, a width and a height with an `x` between them.  The width is there before the height
has been looked at; the exception puts both back. -/
def storeSrcRes (config : AicConfigData) (srcRes : List UInt8) : AicConfigData :=
  match find [120] srcRes with
  | none => { config with srcWidth := 0, srcHeight := 0 }
  | some pos =>
    let tmp := srcRes.take pos
    if tmp = [] then { config with srcWidth := 0, srcHeight := 0 }
    else
      let config := { config with srcWidth := (atoi overlong tmp).toUInt32 }
      let tmp := srcRes.drop (pos + 1)
      if tmp = [] then { config with srcWidth := 0, srcHeight := 0 }
      else { config with srcHeight := (atoi overlong tmp).toUInt32 }

/-- The assignment behind a flag. -/
def store (config : AicConfigData) (f : Flag) (value : List UInt8) : AicConfigData :=
  match f with
  | .cmd => { config with ymlFileName := value }
  | .content => { config with contentFileName := value }
  | .device => { config with deviceString := value }
  | .hwcSock => { config with hwcSock := value }
  | .manageFps => { config with manageFps := if atoi overlong value = 1 then true else false }
  | .instanceId => { config with sessionId := atoi overlong value }
  | .srcRes => config.storeSrcRes overlong value

/-- The tests behind the loop. -/
def status (config : AicConfigData) : Option AicError :=
  if config.ymlFileName = [] then some .invalidArgs
  else if config.contentFileName = [] then some .invalidArgs
  else if config.hwcSock = [] then some .invalidArgs
  else none

end AicConfigData

/-- The loop over the words; `none` is `exit(0)`. -/
def readArgs (config : AicConfigData) : List (List UInt8) → Option AicConfigData
  | [] => some config
  | arg :: args =>
    if AsksHelp arg then none
    else
      match Flag.ofWord arg with
      | none => some config
      | some f =>
        match args with
        | [] => some config
        | value :: args => readArgs (config.store overlong f value) args

/-- How `ParseArgs` ends: with the process, or with a configuration and a status. -/
inductive Parsed where
  | exit
  | returned (config : AicConfigData) (status : Option AicError)
  deriving DecidableEq, Repr

/-- `ParseArgs`, for the words behind the name of the program. -/
def parseArgs (args : List (List UInt8)) : Parsed :=
  match readArgs overlong {} args with
  | none => .exit
  | some config => .returned config config.status

end

/-! ## Settings -/

/-- A flag with its value. -/
abbrev Setting := Flag × List UInt8

namespace Setting

def words (s : Setting) : List (List UInt8) := [s.1.word, s.2]

end Setting

/-- The value the settings leave a flag, if they have it: the last one. -/
def lastOf (f : Flag) (settings : List Setting) : Option (List UInt8) :=
  ((settings.filter (·.1 = f)).map Prod.snd).getLast?

/-- Both numbers of a resolution, or none of them. -/
def resolutionOf (overlong : ℤ → Int32) (srcRes : List UInt8) : UInt32 × UInt32 :=
  match find [120] srcRes with
  | none => (0, 0)
  | some pos =>
    if srcRes.take pos = [] ∨ srcRes.drop (pos + 1) = [] then (0, 0)
    else ((atoi overlong (srcRes.take pos)).toUInt32, (atoi overlong (srcRes.drop (pos + 1))).toUInt32)

/-- What settings stand for. -/
def configOf (overlong : ℤ → Int32) (settings : List Setting) : AicConfigData where
  ymlFileName := (lastOf .cmd settings).getD []
  contentFileName := (lastOf .content settings).getD []
  deviceString := (lastOf .device settings).getD []
  hwcSock := (lastOf .hwcSock settings).getD []
  sessionId := ((lastOf .instanceId settings).map (atoi overlong)).getD 0
  manageFps := ((lastOf .manageFps settings).map fun value => decide (atoi overlong value = 1)).getD true
  srcWidth := ((lastOf .srcRes settings).map (resolutionOf overlong)).getD (0, 0) |>.1
  srcHeight := ((lastOf .srcRes settings).map (resolutionOf overlong)).getD (0, 0) |>.2

/-- The mandatory settings are there, and the last of each is not empty. -/
def Sufficient (settings : List Setting) : Prop :=
  ∀ f ∈ [Flag.cmd, .content, .hwcSock], (lastOf f settings).getD [] ≠ []

instance Sufficient.decidable (settings : List Setting) : Decidable (Sufficient settings) :=
  inferInstanceAs (Decidable (∀ f ∈ _, _))

/-- Where the reading stops: at the end, at a flag without a value, or at a word that is no flag. -/
def Ends : List (List UInt8) → Prop
  | [] => True
  | arg :: args => Flag.ofWord arg = none ∨ args = []

/-- What stands there asks for help. -/
def EndsInHelp : List (List UInt8) → Prop
  | [] => False
  | arg :: _ => AsksHelp arg

instance EndsInHelp.decidable (tail : List (List UInt8)) : Decidable (EndsInHelp tail) :=
  match tail with
  | [] => inferInstanceAs (Decidable False)
  | arg :: _ => inferInstanceAs (Decidable (AsksHelp arg))

/-! ## Words and flags -/

variable {overlong : ℤ → Int32}

theorem Flag.ofWord_word (f : Flag) : ofWord f.word = some f := by
  cases f <;> decide +kernel

theorem Flag.word_eq_of_ofWord {f : Flag} {arg : List UInt8} (h : ofWord arg = some f) : arg = f.word := by
  have hword := List.find?_some (p := fun f : Flag => decide (f.word = arg)) h
  exact (of_decide_eq_true hword).symm

theorem not_asksHelp_word (f : Flag) : ¬AsksHelp f.word := by
  cases f <;> decide +kernel

theorem lastOf_concat (f : Flag) (settings : List Setting) (s : Setting) :
    lastOf f (settings ++ [s]) = if s.1 = f then some s.2 else lastOf f settings := by
  unfold lastOf
  rw [List.filter_append, List.map_append]
  split
  · rename_i h
    rw [List.filter_singleton, decide_eq_true h, cond_true, List.map_singleton, List.getLast?_append]
    rfl
  · rename_i h
    rw [List.filter_singleton, decide_eq_false h, cond_false, List.map_nil, List.append_nil]

theorem storeSrcRes_eq (config : AicConfigData) (srcRes : List UInt8) :
    config.storeSrcRes overlong srcRes =
      { config with
        srcWidth := (resolutionOf overlong srcRes).1
        srcHeight := (resolutionOf overlong srcRes).2 } := by
  unfold AicConfigData.storeSrcRes resolutionOf
  cases find [120] srcRes with
  | none => rfl
  | some pos =>
    dsimp only
    by_cases hwidth : srcRes.take pos = []
    · rw [if_pos hwidth, if_pos (.inl hwidth)]
    · rw [if_neg hwidth]
      by_cases hheight : srcRes.drop (pos + 1) = []
      · rw [if_pos hheight, if_pos (.inr hheight)]
      · rw [if_neg hheight, if_neg (not_or.mpr ⟨hwidth, hheight⟩)]

/-- **One assignment** changes what the flag stands for, and nothing else. -/
theorem configOf_concat (settings : List Setting) (s : Setting) :
    configOf overlong (settings ++ [s]) = (configOf overlong settings).store overlong s.1 s.2 := by
  obtain ⟨f, value⟩ := s
  unfold configOf AicConfigData.store
  simp only [lastOf_concat]
  cases f with
  | srcRes =>
    rw [storeSrcRes_eq]
    rfl
  | manageFps =>
    have hflag : decide (atoi overlong value = 1) = if atoi overlong value = 1 then true else false := by
      by_cases hone : atoi overlong value = 1
      · rw [if_pos hone, decide_eq_true hone]
      · rw [if_neg hone, decide_eq_false hone]
    exact congrArg (fun flag => { configOf overlong settings with manageFps := flag }) hflag
  | cmd => rfl
  | content => rfl
  | device => rfl
  | hwcSock => rfl
  | instanceId => rfl

theorem foldl_store (settings : List Setting) :
    settings.foldl (fun config s => config.store overlong s.1 s.2) {} = configOf overlong settings := by
  induction settings using List.reverseRecOn with
  | nil => rfl
  | append_singleton settings s ih => rw [List.foldl_concat, ih, configOf_concat]

theorem status_configOf (overlong : ℤ → Int32) (settings : List Setting) :
    (configOf overlong settings).status = if Sufficient settings then none else some .invalidArgs := by
  have hcomplete : Sufficient settings ↔ (configOf overlong settings).ymlFileName ≠ [] ∧
      (configOf overlong settings).contentFileName ≠ [] ∧ (configOf overlong settings).hwcSock ≠ [] := by
    simp only [Sufficient, List.forall_mem_cons, List.not_mem_nil, IsEmpty.forall_iff, implies_true, and_true]
    rfl
  unfold AicConfigData.status
  by_cases hyml : (configOf overlong settings).ymlFileName = []
  · rw [if_pos hyml, if_neg fun h => (hcomplete.mp h).1 hyml]
  rw [if_neg hyml]
  by_cases hcontent : (configOf overlong settings).contentFileName = []
  · rw [if_pos hcontent, if_neg fun h => (hcomplete.mp h).2.1 hcontent]
  rw [if_neg hcontent]
  by_cases hsock : (configOf overlong settings).hwcSock = []
  · rw [if_pos hsock, if_neg fun h => (hcomplete.mp h).2.2 hsock]
  · rw [if_neg hsock, if_pos (hcomplete.mpr ⟨hyml, hcontent, hsock⟩)]

/-! ## Reading -/

theorem readArgs_words (config : AicConfigData) (s : Setting) (args : List (List UInt8)) :
    readArgs overlong config (s.words ++ args) = readArgs overlong (config.store overlong s.1 s.2) args := by
  show readArgs overlong config (s.1.word :: s.2 :: args) = _
  rw [readArgs, if_neg (not_asksHelp_word s.1), Flag.ofWord_word]

theorem readArgs_tail (config : AicConfigData) {tail : List (List UInt8)} (h : Ends tail) :
    readArgs overlong config tail = if EndsInHelp tail then none else some config := by
  match tail with
  | [] => rfl
  | arg :: args =>
    unfold readArgs
    by_cases hasks : AsksHelp arg
    · rw [if_pos hasks, if_pos (show EndsInHelp (arg :: args) from hasks)]
    rw [if_neg hasks, if_neg (show ¬EndsInHelp (arg :: args) from hasks)]
    rcases h with h | rfl
    · rw [h]
    · cases Flag.ofWord arg <;> rfl

/-- The loop over settings and a tail. -/
theorem readArgs_flatMap_words (config : AicConfigData) (settings : List Setting) {tail : List (List UInt8)}
    (h : Ends tail) :
    readArgs overlong config (settings.flatMap Setting.words ++ tail) =
      if EndsInHelp tail then none
      else some (settings.foldl (fun config s => config.store overlong s.1 s.2) config) := by
  induction settings generalizing config with
  | nil => exact readArgs_tail config h
  | cons s settings ih =>
    rw [List.flatMap_cons, List.append_assoc, readArgs_words, ih, List.foldl_cons]

theorem parseArgs_flatMap_words (overlong : ℤ → Int32) (settings : List Setting) {tail : List (List UInt8)}
    (h : Ends tail) :
    parseArgs overlong (settings.flatMap Setting.words ++ tail) =
      if EndsInHelp tail then .exit
      else .returned (configOf overlong settings) (if Sufficient settings then none else some .invalidArgs) := by
  rw [parseArgs, readArgs_flatMap_words _ _ h, foldl_store, ← status_configOf]
  by_cases hhelp : EndsInHelp tail
  · rw [if_pos hhelp, if_pos hhelp]
  · rw [if_neg hhelp, if_neg hhelp]

/-- Any words are settings and a tail. -/
theorem exists_settings (args : List (List UInt8)) :
    ∃ settings : List Setting, ∃ tail, args = settings.flatMap Setting.words ++ tail ∧ Ends tail := by
  match args with
  | [] => exact ⟨[], [], rfl, trivial⟩
  | [arg] => exact ⟨[], [arg], rfl, .inr rfl⟩
  | arg :: value :: args =>
    match hword : Flag.ofWord arg with
    | none => exact ⟨[], arg :: value :: args, rfl, .inl hword⟩
    | some f =>
      obtain ⟨settings, tail, rfl, hends⟩ := exists_settings args
      refine ⟨(f, value) :: settings, tail, ?_, hends⟩
      rw [Flag.word_eq_of_ofWord hword]
      rfl

/-- A tail does not go on like a setting. -/
theorem Ends.not_words {tail rest : List (List UInt8)} {s : Setting} (h : Ends tail) : tail ≠ s.words ++ rest := by
  rintro rfl
  rcases h with h | h
  · exact absurd ((Flag.ofWord_word s.1).symm.trans h) (Option.some_ne_none _)
  · exact absurd h (List.cons_ne_nil _ _)

theorem Setting.words_inj {s t : Setting} {rest rest' : List (List UInt8)}
    (h : s.words ++ rest = t.words ++ rest') : s = t ∧ rest = rest' := by
  obtain ⟨f, value⟩ := s
  obtain ⟨g, value'⟩ := t
  obtain ⟨hword, h⟩ := List.cons.inj h
  obtain ⟨rfl, rfl⟩ := List.cons.inj h
  have hflag : some f = some g := by rw [← f.ofWord_word, ← g.ofWord_word, show f.word = g.word from hword]
  exact ⟨congrArg (·, value) (Option.some.inj hflag), rfl⟩

/-- There is only one way to divide the words. -/
theorem settings_unique {settings settings' : List Setting} {tail tail' : List (List UInt8)}
    (hends : Ends tail) (hends' : Ends tail')
    (h : settings'.flatMap Setting.words ++ tail' = settings.flatMap Setting.words ++ tail) :
    settings' = settings ∧ tail' = tail := by
  induction settings generalizing settings' with
  | nil =>
    cases settings' with
    | nil => exact ⟨rfl, h⟩
    | cons s settings' =>
      rw [List.flatMap_cons, List.append_assoc] at h
      exact absurd h.symm hends.not_words
  | cons s settings ih =>
    rw [List.flatMap_cons, List.append_assoc] at h
    cases settings' with
    | nil => exact absurd h hends'.not_words
    | cons t settings' =>
      rw [List.flatMap_cons, List.append_assoc] at h
      obtain ⟨rfl, hrest⟩ := Setting.words_inj h
      obtain ⟨rfl, rfl⟩ := ih hrest
      exact ⟨rfl, rfl⟩

/-- **The command line.** Any words divide in one way into settings and a tail that does not begin with one.  A
question for help at the front of the tail ends the process; otherwise the configuration is that of the last
value of each flag, and it is refused exactly if a mandatory one is missing or empty. -/
theorem parseArgs_reads (overlong : ℤ → Int32) (args : List (List UInt8)) :
    ∃ settings : List Setting, ∃ tail, args = settings.flatMap Setting.words ++ tail ∧ Ends tail ∧
      (∀ settings' tail', args = settings'.flatMap Setting.words ++ tail' → Ends tail' →
        settings' = settings ∧ tail' = tail) ∧
      parseArgs overlong args =
        if EndsInHelp tail then .exit
        else .returned (configOf overlong settings)
          (if Sufficient settings then none else some .invalidArgs) := by
  obtain ⟨settings, tail, rfl, hends⟩ := exists_settings args
  refine ⟨settings, tail, rfl, hends, ?_, parseArgs_flatMap_words overlong settings hends⟩
  intro settings' tail' h hends'
  exact settings_unique hends hends' h.symm

/-! ## Writing a command line -/

/-- The settings of a configuration. -/
def settingsOf (config : AicConfigData) : List Setting :=
  [(.cmd, config.ymlFileName), (.content, config.contentFileName), (.device, config.deviceString),
    (.hwcSock, config.hwcSock), (.instanceId, decimalInt config.sessionId),
    (.manageFps, decimal (if config.manageFps then 1 else 0)),
    (.srcRes, decimal config.srcWidth.toNat ++ 120 :: decimal config.srcHeight.toNat)]

/-- Of settings with one value for each flag the order does not matter. -/
theorem lastOf_perm {settings settings' : List Setting} (hperm : settings'.Perm settings) {f : Flag}
    (hone : (settings.filter (·.1 = f)).length ≤ 1) : lastOf f settings' = lastOf f settings := by
  have hfilter := hperm.filter (·.1 = f)
  suffices hsame : settings'.filter (·.1 = f) = settings.filter (·.1 = f) by rw [lastOf, hsame, ← lastOf]
  generalize settings.filter (·.1 = f) = values at hfilter hone
  match values with
  | [] => exact hfilter.eq_nil
  | [_] => exact List.perm_singleton.mp hfilter
  | _ :: _ :: _ => exact absurd (Nat.le_of_succ_le_succ hone) (Nat.not_succ_le_zero _)

theorem configOf_perm {settings settings' : List Setting} (hperm : settings'.Perm settings)
    (hone : ∀ f, (settings.filter (·.1 = f)).length ≤ 1) :
    configOf overlong settings' = configOf overlong settings := by
  unfold configOf
  simp only [lastOf_perm hperm (hone _)]

theorem toUInt32_atoi_decimal {w : UInt32} (h : w.toNat < 2 ^ 31) :
    (atoi overlong (decimal w.toNat)).toUInt32 = w := by
  rw [atoi_decimal overlong h, Int32.toUInt32_ofNat', UInt32.ofNat_toNat]

theorem resolutionOf_decimal (overlong : ℤ → Int32) {width height : UInt32} (hwidth : width.toNat < 2 ^ 31)
    (hheight : height.toNat < 2 ^ 31) :
    resolutionOf overlong (decimal width.toNat ++ 120 :: decimal height.toNat) = (width, height) := by
  have hnil : ∀ n, decimal n ≠ [] := by
    intro n h
    obtain ⟨d, ds, hd, -⟩ := decimal_eq_cons n
    exact List.cons_ne_nil d ds (hd.symm.trans h)
  -- digits are not an `x`
  have hfind := find_singleton_append_cons (not_mem_decimal (c := 120) rfl width.toNat) (decimal height.toNat)
  have hdrop : (decimal width.toNat ++ 120 :: decimal height.toNat).drop ((decimal width.toNat).length + 1) =
      decimal height.toNat := by
    rw [List.append_cons]
    exact List.drop_left' List.length_append
  rw [resolutionOf, hfind]
  dsimp only
  rw [List.take_left, hdrop, if_neg (not_or.mpr ⟨hnil _, hnil _⟩), toUInt32_atoi_decimal hwidth,
    toUInt32_atoi_decimal hheight]

theorem configOf_settingsOf {config : AicConfigData} (hwidth : config.srcWidth.toNat < 2 ^ 31)
    (hheight : config.srcHeight.toNat < 2 ^ 31) : configOf overlong (settingsOf config) = config := by
  have hfps : decide (atoi overlong (decimal (if config.manageFps then 1 else 0)) = 1) = config.manageFps := by
    cases config.manageFps
    · show decide (atoi overlong (decimal 0) = 1) = false
      rw [atoi_decimal overlong (by decide)]
      rfl
    · show decide (atoi overlong (decimal 1) = 1) = true
      rw [atoi_decimal overlong (by decide)]
      rfl
  have hid := atoi_decimalInt overlong config.sessionId
  have hres := resolutionOf_decimal overlong hwidth hheight
  show AicConfigData.mk config.ymlFileName config.contentFileName config.deviceString config.hwcSock
    (atoi overlong (decimalInt config.sessionId))
    (decide (atoi overlong (decimal (if config.manageFps then 1 else 0)) = 1))
    (resolutionOf overlong (decimal config.srcWidth.toNat ++ 120 :: decimal config.srcHeight.toNat)).1
    (resolutionOf overlong (decimal config.srcWidth.toNat ++ 120 :: decimal config.srcHeight.toNat)).2 = config
  rw [hfps, hid, hres]

/-- **The way back.** The settings of a configuration, in any order, are read as that configuration, if the
mandatory ones are not empty and the numbers of the resolution fit an `int`. -/
theorem parseArgs_of_perm (overlong : ℤ → Int32) {config : AicConfigData} {settings : List Setting}
    (hperm : settings.Perm (settingsOf config)) (hwidth : config.srcWidth.toNat < 2 ^ 31)
    (hheight : config.srcHeight.toNat < 2 ^ 31) (hstatus : config.status = none) :
    parseArgs overlong (settings.flatMap Setting.words) = .returned config none := by
  have hone (f : Flag) : ((settingsOf config).filter (·.1 = f)).length ≤ 1 := by
    cases f <;> exact Nat.le_refl 1
  have hread : configOf overlong settings = config := by
    rw [configOf_perm hperm hone, configOf_settingsOf hwidth hheight]
  have hparse := parseArgs_flatMap_words overlong settings (show Ends [] from trivial)
  rw [List.append_nil, if_neg (show ¬EndsInHelp [] from id), ← status_configOf overlong, hread, hstatus] at hparse
  exact hparse

/-- A log, a clip and a socket, and a clip of a size of its own. -/
def halfHd : AicConfigData :=
  { ymlFileName := [97], contentFileName := [98], hwcSock := [99], sessionId := -1, manageFps := false
    srcWidth := 1280, srcHeight := 720 }

theorem parseArgs_of_perm_halfHd :
    parseArgs (fun _ => 0) ((settingsOf halfHd).reverse.flatMap Setting.words) = .returned halfHd none :=
  parseArgs_of_perm (fun _ => 0) (List.reverse_perm _) (by decide) (by decide) (by decide)

end VhalClient.Emulator
