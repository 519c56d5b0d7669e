/-
# VhalClient.Display.Counters — what the counters in the log count.

Each document of the log carries its number and seven counters.  `headers` is the logger as it stands when
the metadata of each document is written (`trees_eq_headers`), so that a statement about it is one about the
file of the session (`ymlLog_session`).

The counters are advanced by `UpdateEventCount`, by kind of event, and `EVENT_DISPPORT_REQ` is counted where
`EVENT_DISPINFO_REQ` is.  `logTrue_iff_countable` says when a whole log is right: no `DISPPORT_REQ` was handled, and no
`int` went over.
-/
import VhalClient.Display.SessionLog
import VhalClient.Display.Messages

namespace VhalClient.Display

open VhalClient.Lib VhalClient.Lib.Yaml

/-! ## The counters -/

/-- What an `int` holds that was incremented `n` times from zero. -/
def asInt (n : ℕ) : ℤ := (Int32.ofNat n).toInt

theorem asInt_eq_iff (n : ℕ) : asInt n = n ↔ n < 2 ^ 31 := toInt_int32_ofNat_eq_iff n

/-- The events that have a counter. -/
def LogEvent.hasCounter : LogEvent → Bool
  | .createBuffer => true
  | .removeBuffer => true
  | .displayReq => true
  | .changeResolution => true
  | .dispInfoReq => true
  | .dispPortReq => true
  | .setAlpha => true
  | _ => false

/-- The counter that a document prints for an event. -/
def ProfileLogger.counter (l : ProfileLogger) : LogEvent → ℕ
  | .createBuffer => l.createBufEventCnt
  | .removeBuffer => l.removeBufEventCnt
  | .displayReq => l.displayReqEventCnt
  | .changeResolution => l.changeResolutionCnt
  | .dispInfoReq => l.dispInfoReqEventCnt
  | .dispPortReq => l.dispPortReqEventCnt
  | .setAlpha => l.setAlphaCnt
  | _ => 0

namespace Record

/-- The event a record is about: what was received, or what a call of the client sent.  Acknowledgements
are about no event of their own. -/
def handled : Record → Option LogEvent
  | received ev _ => some (translateEvType ev.type)
  | replied (.setupResolution _ _) _ => some .changeResolution
  | replied (.setVideoAlpha _) _ => some .setAlpha
  | replied _ _ => none

/-- The counter a record advances. -/
def tallied (r : Record) : Option LogEvent :=
  r.handled.map fun event => if event = .dispPortReq then .dispInfoReq else event

end Record

/-- The logger as the metadata of each document is written. -/
def headers (clock : ℕ → Fin (2 ^ 63)) : ProfileLogger → List Record → List ProfileLogger
  | _, [] => []
  | l, r :: rs => r.counted l :: headers clock (l.calls clock r.calls) rs

/-- The documents of the log have these headers. -/
theorem trees_eq_headers (clock : ℕ → Fin (2 ^ 63)) (l : ProfileLogger) (rs : List Record) :
    trees clock l rs =
      List.zipWith (fun m r => .map "event" (Tree.metadata m (clock m.reportId) r.event r.body) .nil)
        (headers clock l rs) rs := by
  induction rs generalizing l with
  | nil => rfl
  | cons r rs ih => rw [trees, headers, List.zipWith_cons_cons, ih, Record.tree, ProfileLogger.counted_reportId]

/-- The number of events of a kind among the records. -/
def handledCount (event : LogEvent) (rs : List Record) : ℕ := rs.countP fun r => r.handled = some event

/-- What the header of the document number `n` should say: its number, and how many events of each kind
were handled up to this one. -/
def HeaderTrue (rs : List Record) (n : ℕ) (m : ProfileLogger) : Prop :=
  asInt m.reportId = n ∧
    ∀ event : LogEvent, event.hasCounter → asInt (m.counter event) = handledCount event (rs.take (n + 1))

/-! ## The counters in closed form -/

theorem counter_updateEventCount (l : ProfileLogger) (e event : LogEvent) (h : event.hasCounter) :
    (l.updateEventCount e).counter event =
      l.counter event + if (if e = .dispPortReq then .dispInfoReq else e) = event then 1 else 0 := by
  cases e <;> cases event <;> first | rfl | cases h

theorem counter_counted (l : ProfileLogger) (r : Record) (event : LogEvent) (h : event.hasCounter) :
    (r.counted l).counter event = l.counter event + if r.tallied = some event then 1 else 0 := by
  cases r with
  | received ev parts =>
    rw [Record.counted, counter_updateEventCount l _ event h]
    simp [Record.tallied, Record.handled]
  | replied reply count =>
    cases reply with
    | setupResolution width height =>
      rw [Record.counted, counter_updateEventCount l _ event h]
      simp [Record.tallied, Record.handled]
    | setVideoAlpha action =>
      rw [Record.counted, counter_updateEventCount l _ event h]
      simp [Record.tallied, Record.handled]
    | dispInfoAck cfg => simp [Record.counted, Record.tallied, Record.handled]
    | dispPortAck cfg => simp [Record.counted, Record.tallied, Record.handled]
    | displayAck info => simp [Record.counted, Record.tallied, Record.handled]

/-- The number and the counters in the header of each document. -/
theorem headers_get (clock : ℕ → Fin (2 ^ 63)) {rs : List Record} (hproper : ∀ r ∈ rs, r.Proper)
    {l : ProfileLogger} {n : ℕ} {m : ProfileLogger} (hm : (headers clock l rs)[n]? = some m) :
    m.reportId = l.reportId + n ∧
      ∀ event : LogEvent, event.hasCounter → m.counter event =
        l.counter event + (rs.take (n + 1)).countP fun r => r.tallied = some event := by
  induction rs generalizing l n with
  | nil => cases hm
  | cons r rs ih =>
    cases n with
    | zero =>
      obtain rfl : r.counted l = m := Option.some.inj hm
      refine ⟨ProfileLogger.counted_reportId l r, ?_⟩
      intro event hevent
      rw [counter_counted l r event hevent, List.take_succ_cons, List.take_zero, List.countP_singleton]
      simp
    | succ n =>
      have hdoc := ProfileLogger.calls_record clock l (hproper r (List.mem_cons_self ..))
      have hnext : (headers clock (l.documented clock r) rs)[n]? = some m := by
        rw [← hdoc]
        exact hm
      obtain ⟨hid, hcounters⟩ := ih (fun r hr => hproper r (List.mem_cons_of_mem _ hr)) hnext
      refine ⟨?_, fun event hevent => ?_⟩
      · rw [hid]
        show l.reportId + 1 + n = _
        omega
      · have hcount : (l.documented clock r).counter event = (r.counted l).counter event := by
          cases event <;> rfl
        rw [hcounters event hevent, hcount, counter_counted l r event hevent, List.take_succ_cons,
          List.countP_cons]
        simp only [decide_eq_true_eq]
        omega

theorem length_headers (clock : ℕ → Fin (2 ^ 63)) (l : ProfileLogger) (rs : List Record) :
    (headers clock l rs).length = rs.length := by
  induction rs generalizing l with
  | nil => rfl
  | cons r rs ih => rw [headers, List.length_cons, ih, List.length_cons]

/-! ## When a whole log is right -/

theorem tallied_eq_handled {rs : List Record} (h : ∀ r ∈ rs, r.handled ≠ some .dispPortReq)
    (event : LogEvent) (n : ℕ) :
    ((rs.take n).countP fun r => r.tallied = some event) = handledCount event (rs.take n) := by
  refine List.countP_congr ?_
  intro r hr
  have hport := h r (List.mem_of_mem_take hr)
  have hsame : r.tallied = r.handled := by
    rw [Record.tallied]
    cases hkind : r.handled with
    | none => rfl
    | some kind => simp [show kind ≠ .dispPortReq from fun heq => hport (heq ▸ hkind)]
  rw [hsame]

/-- No record advances the counter of `DISPPORT_REQ`. -/
theorem tallied_ne_dispPortReq (r : Record) : r.tallied ≠ some .dispPortReq := by
  rw [Record.tallied]
  cases r.handled with
  | none => simp
  | some kind =>
    by_cases hkind : kind = .dispPortReq
    · simp [hkind]
    · simp [hkind]

/-- Every header of the log is right. -/
def LogTrue (clock : ℕ → Fin (2 ^ 63)) (rs : List Record) : Prop :=
  ∀ n m, (headers clock .initial rs)[n]? = some m → HeaderTrue rs n m

/-- No `DISPPORT_REQ` was handled and no `int` went over: the documents are numbered below 2^31, and so are
the events of each kind. -/
structure Countable (rs : List Record) : Prop where
  port : ∀ r ∈ rs, r.handled ≠ some .dispPortReq
  documents : rs.length ≤ 2 ^ 31
  events : ∀ event : LogEvent, event.hasCounter → handledCount event rs < 2 ^ 31

theorem handledCount_take_le (event : LogEvent) (rs : List Record) (n : ℕ) :
    handledCount event (rs.take n) ≤ handledCount event rs :=
  (List.take_sublist n rs).countP_le

theorem logTrue_of_countable (clock : ℕ → Fin (2 ^ 63)) {rs : List Record} (hproper : ∀ r ∈ rs, r.Proper)
    (h : Countable rs) : LogTrue clock rs := by
  intro n m hm
  have hn : n < rs.length := by
    rw [← length_headers clock .initial rs]
    exact (List.getElem?_eq_some_iff.mp hm).1
  obtain ⟨hid, hcounters⟩ := headers_get clock hproper hm
  refine ⟨?_, fun event hevent => ?_⟩
  · rw [hid]
    show asInt (0 + n) = n
    rw [Nat.zero_add, asInt_eq_iff]
    have := h.documents
    omega
  · have hzero : ProfileLogger.initial.counter event = 0 := by
      cases event <;> rfl
    rw [hcounters event hevent, hzero, Nat.zero_add, tallied_eq_handled h.port, asInt_eq_iff]
    exact lt_of_le_of_lt (handledCount_take_le event rs (n + 1)) (h.events event hevent)

theorem countable_of_logTrue (clock : ℕ → Fin (2 ^ 63)) {rs : List Record} (hproper : ∀ r ∈ rs, r.Proper)
    (h : LogTrue clock rs) : Countable rs := by
  -- The document number `n` has a header, and it is right.
  have hget : ∀ n, n < rs.length → ∃ m, HeaderTrue rs n m ∧ m.reportId = n ∧
      ∀ event : LogEvent, event.hasCounter → m.counter event =
        (rs.take (n + 1)).countP fun r => r.tallied = some event := by
    intro n hn
    rw [← length_headers clock .initial rs] at hn
    have hm := List.getElem?_eq_getElem hn
    obtain ⟨hid, hcounters⟩ := headers_get clock hproper hm
    refine ⟨_, h n _ hm, ?_, fun event hevent => ?_⟩
    · rw [hid]
      exact Nat.zero_add n
    · have hzero : ProfileLogger.initial.counter event = 0 := by
        cases event <;> rfl
      rw [hcounters event hevent, hzero, Nat.zero_add]
  have hport : ∀ r ∈ rs, r.handled ≠ some .dispPortReq := by
    intro r hr hkind
    obtain ⟨n, hn, rfl⟩ := List.getElem_of_mem hr
    obtain ⟨m, htrue, -, hcounters⟩ := hget n hn
    -- The counter still stands at zero.
    have hzero : m.counter .dispPortReq = 0 := by
      rw [hcounters .dispPortReq rfl, List.countP_eq_zero]
      intro r _
      simpa using tallied_ne_dispPortReq r
    have hcount := htrue.2 .dispPortReq rfl
    rw [hzero, show asInt 0 = 0 from rfl] at hcount
    have hpos : 0 < handledCount .dispPortReq (rs.take (n + 1)) := by
      refine List.countP_pos_iff.mpr ⟨rs[n], ?_, by simpa using hkind⟩
      rw [List.take_succ_eq_append_getElem hn]
      exact List.mem_append_right _ (List.mem_singleton_self _)
    omega
  refine ⟨hport, ?_, ?_⟩
  · by_contra hlong
    obtain ⟨m, htrue, hid, -⟩ := hget (2 ^ 31) (by omega)
    have hnumber := htrue.1
    rw [hid, asInt_eq_iff] at hnumber
    omega
  · intro event hevent
    rcases Nat.eq_zero_or_pos rs.length with hnil | hpos
    · rw [List.length_eq_zero_iff.mp hnil]
      exact Nat.zero_lt_succ _
    · -- The last document counts all of them.
      obtain ⟨m, htrue, -, hcounters⟩ := hget (rs.length - 1) (by omega)
      have hcount := htrue.2 event hevent
      have hall : rs.take (rs.length - 1 + 1) = rs := List.take_of_length_le (by omega)
      rw [hcounters event hevent, tallied_eq_handled hport, hall, asInt_eq_iff] at hcount
      exact hcount

/-- **The counters of a session.** For every sequence of messages and client calls, the number and the seven
counters in every document of the log are right exactly when no `DISPPORT_REQ` was handled and the `int`s
were large enough. -/
theorem logTrue_iff_countable (clock : ℕ → Fin (2 ^ 63)) (cfg : Config) (is : List Input) :
    LogTrue clock (Impl.session cfg .initial is) ↔ Countable (Impl.session cfg .initial is) :=
  ⟨countable_of_logTrue clock (Impl.proper_session cfg .initial is),
    logTrue_of_countable clock (Impl.proper_session cfg .initial is)⟩

/-- One `DISPPORT_REQ`. -/
def askPort : List Input :=
  [.start, .connect (some (Feed.whole ((Layout.displayEvent.write ⟨evDispPortReq, 16, 0, 0⟩).map (⟨·, []⟩)))),
    .poll (.ready calmEnv)]

/-- Its document says that no such event was handled. -/
theorem not_logTrue_askPort :
    ¬ ∀ (clock : ℕ → Fin (2 ^ 63)) (cfg : Config) (is : List Input),
      LogTrue clock (Impl.session cfg .initial is) := by
  intro h
  have hport : (.received ⟨evDispPortReq, 16, 0, 0⟩ .nothing : Record) ∈
      Impl.session anySession .initial askPort := by
    decide +kernel
  have hcount := countable_of_logTrue (fun _ => 0) (Impl.proper_session anySession .initial askPort)
    (h (fun _ => 0) anySession askPort)
  exact hcount.port _ hport (by decide)

end VhalClient.Display
