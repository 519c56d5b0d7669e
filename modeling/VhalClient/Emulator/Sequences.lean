/-
# VhalClient.Emulator.Sequences — sequences of the log and the arrays they are decoded to.

`GetSequence` stores as many elements as the sequence of the document has; the length of the array it fills is
not known to it.  `YmlParser` keeps to sequences that fit.  Here the two functions that call it,
`convert<CrosGrallocHandlePtr>::decode` and `convert<SetAlphaPtr>::decode`, work on the memory of their structs
(`Lib.Members`), where an element behind the end of an array is the first of the next member.

What the YAML library says of a node is a parameter (`NodeApi`), so a node is whatever the library takes for one.
Both functions turn out to fill one member after the other with what its own node converts to
(`decodeGrallocHandle_eq`, `decodeSetAlpha_eq`), which leaves the question of how long the sequences are.
-/
import VhalClient.Lib.Members
import VhalClient.Lib.YamlLoader
import VhalClient.Display.Documents
import VhalClient.Emulator.YmlParser

namespace VhalClient.Emulator.Sequences

open VhalClient.Lib VhalClient.Lib.Yaml VhalClient.Display

/-! ## The structs -/

def drvMaxPlanes : ℕ := 4

/-- The members of `cros_gralloc_handle`; the first three are those of its `base`. -/
inductive GrallocMember where
  | version | numFds | numInts
  | fds | strides | offsets | sizes | formatModifiers
  | width | height | format | tilingMode | useFlags
  | magic | pixelStride | droidFormat | usage | consumerUsage | producerUsage | yuvColorRange
  | isUpdated | isEncoded | isEncrypted | isKeyFrame | isInterlaced | isMmcCapable
  | compressionMode | compressionHint | codec | alignedWidth | alignedHeight
  deriving DecidableEq, Repr

open GrallocMember in
def crosGrallocHandle : Shape GrallocMember where
  members :=
    [version, numFds, numInts, fds, strides, offsets, sizes, formatModifiers, width, height, format, tilingMode,
      useFlags, magic, pixelStride, droidFormat, usage, consumerUsage, producerUsage, yuvColorRange, isUpdated,
      isEncoded, isEncrypted, isKeyFrame, isInterlaced, isMmcCapable, compressionMode, compressionHint, codec,
      alignedWidth, alignedHeight]
  complete m := by cases m <;> decide
  length
    | fds | strides | offsets | sizes => drvMaxPlanes
    | formatModifiers => 2 * drvMaxPlanes
    | useFlags => 2
    | _ => 1

/-- The members of `set_video_alpha_t`. -/
inductive AlphaMember where
  | enable | reserved
  deriving DecidableEq, Repr

def setVideoAlpha : Shape AlphaMember where
  members := [.enable, .reserved]
  complete m := by cases m <;> decide
  length
    | .enable => 1
    | .reserved => 3

/-! ## The functions -/

/-- What the parser asks of a node.  `none` is an exception; an element or an entry is asked for only of a node
that has such. -/
structure NodeApi (ν : Type) where
  isDefined : ν → Bool
  isMap : ν → Option Bool
  isSequence : ν → Option Bool
  get : ν → String → ν
  elements : ν → List ν
  asInt : ν → Option Int32
  asUnsigned : ν → Option UInt32

section Decode

variable {ν : Type} (a : NodeApi ν) {μ : Type} [DecidableEq μ] (s : Shape μ)

/-- `as<int>`, as the word that is stored. -/
def NodeApi.intWord (node : ν) : Option UInt32 := (a.asInt node).map Int32.toUInt32

/-- `mptr->m = node.as<T>()` -/
def assign (m : μ) (as : ν → Option UInt32) (node : ν) : Filling μ UInt32 Unit := do
  store s m 0 (← orThrow (as node))

/-- The loop of `GetSequence`, from an index on.  The index is an `unsigned int`; it would wrap long after
the end of every array. -/
def getElements (m : μ) (as : ν → Option UInt32) : ℕ → List ν → Filling μ UInt32 Unit
  | _, [] => pure ()
  | i, node :: nodes => do
    store s m i (← orThrow (as node))
    getElements m as (i + 1) nodes

/-- `GetSequence`; the destination is never null. -/
def getSequence (m : μ) (as : ν → Option UInt32) (node : ν) : Filling μ UInt32 Bool := do
  if ← orThrow (a.isSequence node) then
    getElements s m as 0 (a.elements node)
    pure true
  else pure false

/-- `node && node.IsMap()` -/
def isDefinedMap (node : ν) : Filling μ UInt32 Bool :=
  if a.isDefined node then orThrow (a.isMap node) else pure false

open GrallocMember in
def decodeGrallocHandle (node : ν) : Filling GrallocMember UInt32 Bool := do
  let s := crosGrallocHandle
  if !(← orThrow (a.isMap node)) then pure false
  else if ← isDefinedMap a (a.get node "native_handle_t") then
    let nhNode := a.get node "native_handle_t"
    assign s version a.intWord (a.get nhNode "version")
    assign s numFds a.intWord (a.get nhNode "numFds")
    assign s numInts a.intWord (a.get nhNode "numInts")
    let _ ← getSequence a s fds a.intWord (a.get node "fds")
    let _ ← getSequence a s strides a.asUnsigned (a.get node "strides")
    let _ ← getSequence a s offsets a.asUnsigned (a.get node "offsets")
    let _ ← getSequence a s sizes a.asUnsigned (a.get node "sizes")
    let _ ← getSequence a s formatModifiers a.asUnsigned (a.get node "format_modifiers")
    assign s width a.asUnsigned (a.get node "width")
    assign s height a.asUnsigned (a.get node "height")
    assign s format a.asUnsigned (a.get node "format")
    assign s tilingMode a.asUnsigned (a.get node "tiling_mode")
    let _ ← getSequence a s useFlags a.asUnsigned (a.get node "use_flags")
    assign s magic a.asUnsigned (a.get node "magic")
    assign s pixelStride a.asUnsigned (a.get node "pixel_stride")
    assign s droidFormat a.intWord (a.get node "droid_format")
    assign s usage a.intWord (a.get node "usage")
    assign s consumerUsage a.asUnsigned (a.get node "consumer_usage")
    assign s producerUsage a.asUnsigned (a.get node "producer_usage")
    assign s yuvColorRange a.asUnsigned (a.get node "yuv_color_range")
    assign s isUpdated a.asUnsigned (a.get node "is_updated")
    assign s isEncoded a.asUnsigned (a.get node "is_encoded")
    assign s isEncrypted a.asUnsigned (a.get node "is_encrypted")
    assign s isKeyFrame a.asUnsigned (a.get node "is_key_frame")
    assign s isInterlaced a.asUnsigned (a.get node "is_interlaced")
    assign s isMmcCapable a.asUnsigned (a.get node "is_mmc_capable")
    assign s compressionMode a.asUnsigned (a.get node "compression_mode")
    assign s compressionHint a.asUnsigned (a.get node "compression_hint")
    assign s codec a.asUnsigned (a.get node "codec")
    assign s alignedWidth a.asUnsigned (a.get node "aligned_width")
    assign s alignedHeight a.asUnsigned (a.get node "aligned_height")
    pure true
  else pure false

def decodeSetAlpha (node : ν) : Filling AlphaMember UInt32 Bool := do
  let s := setVideoAlpha
  if !(← orThrow (a.isMap node)) then pure false
  else
    assign s .enable a.asUnsigned (a.get node "enable")
    let _ ← getSequence a s .reserved a.asUnsigned (a.get node "reserved")
    pure true

end Decode

/-! ## Members and their nodes -/

/-- A member, the way to its node, and how that is read. -/
structure Field (μ : Type) where
  member : μ
  path : List String
  signed : Bool
  sequence : Bool
  deriving DecidableEq

open GrallocMember in
/-- In the order in which they are decoded. -/
def grallocFields : List (Field GrallocMember) :=
  [⟨version, ["native_handle_t", "version"], true, false⟩, ⟨numFds, ["native_handle_t", "numFds"], true, false⟩,
    ⟨numInts, ["native_handle_t", "numInts"], true, false⟩, ⟨fds, ["fds"], true, true⟩,
    ⟨strides, ["strides"], false, true⟩, ⟨offsets, ["offsets"], false, true⟩, ⟨sizes, ["sizes"], false, true⟩,
    ⟨formatModifiers, ["format_modifiers"], false, true⟩, ⟨width, ["width"], false, false⟩,
    ⟨height, ["height"], false, false⟩, ⟨format, ["format"], false, false⟩,
    ⟨tilingMode, ["tiling_mode"], false, false⟩, ⟨useFlags, ["use_flags"], false, true⟩,
    ⟨magic, ["magic"], false, false⟩, ⟨pixelStride, ["pixel_stride"], false, false⟩,
    ⟨droidFormat, ["droid_format"], true, false⟩, ⟨usage, ["usage"], true, false⟩,
    ⟨consumerUsage, ["consumer_usage"], false, false⟩, ⟨producerUsage, ["producer_usage"], false, false⟩,
    ⟨yuvColorRange, ["yuv_color_range"], false, false⟩, ⟨isUpdated, ["is_updated"], false, false⟩,
    ⟨isEncoded, ["is_encoded"], false, false⟩, ⟨isEncrypted, ["is_encrypted"], false, false⟩,
    ⟨isKeyFrame, ["is_key_frame"], false, false⟩, ⟨isInterlaced, ["is_interlaced"], false, false⟩,
    ⟨isMmcCapable, ["is_mmc_capable"], false, false⟩, ⟨compressionMode, ["compression_mode"], false, false⟩,
    ⟨compressionHint, ["compression_hint"], false, false⟩, ⟨codec, ["codec"], false, false⟩,
    ⟨alignedWidth, ["aligned_width"], false, false⟩, ⟨alignedHeight, ["aligned_height"], false, false⟩]

def alphaFields : List (Field AlphaMember) :=
  [⟨.enable, ["enable"], false, false⟩, ⟨.reserved, ["reserved"], false, true⟩]

section Fields

variable {ν : Type} (a : NodeApi ν) {μ : Type} [DecidableEq μ]

/-- What a sequence converts to, element by element. -/
def sequenceValues (as : ν → Option UInt32) (node : ν) : List (Option UInt32) :=
  match a.isSequence node with
  | none => [none]
  | some false => []
  | some true => (a.elements node).map as

namespace Field

/-- The node of a member's own name. -/
def own (f : Field μ) (root : ν) : ν := f.path.foldl a.get root

/-- How a scalar or an element is converted. -/
def as (f : Field μ) : ν → Option UInt32 := if f.signed then a.intWord else a.asUnsigned

/-- What the node of a member converts to. -/
def values (f : Field μ) (node : ν) : List (Option UInt32) :=
  if f.sequence then sequenceValues a (f.as a) node else [f.as a node]

end Field

/-- Each member with what its own node converts to. -/
def entries (fields : List (Field μ)) (root : ν) : List (μ × List (Option UInt32)) :=
  fields.map fun f => (f.member, f.values a (f.own a root))

variable {a} {s : Shape μ} {m : μ} {as : ν → Option UInt32} {node : ν}

theorem assign_eq : assign s m as node = fill s m 0 [as node] := by
  funext o
  cases h : as node <;> simp only [assign, fill, h] <;> rfl

theorem getElements_eq (i : ℕ) (nodes : List ν) : getElements s m as i nodes = fill s m i (nodes.map as) := by
  induction nodes generalizing i with
  | nil => rfl
  | cons node nodes ih => simp only [getElements, List.map_cons, fill, ih]

/-- The status of `GetSequence` is dropped. -/
theorem getSequence_bind {β : Type} (k : Filling μ UInt32 β) :
    (getSequence a s m as node >>= fun _ => k) = (fill s m 0 (sequenceValues a as node) >>= fun _ => k) := by
  unfold getSequence sequenceValues
  rcases a.isSequence node with _ | _ | _
  · rfl
  · rfl
  · rw [← getElements_eq]
    funext o
    show EStateM.bind (EStateM.bind (getElements s m as 0 (a.elements node)) _) _ o =
      EStateM.bind (getElements s m as 0 (a.elements node)) _ o
    unfold EStateM.bind
    cases getElements s m as 0 (a.elements node) o <;> rfl

theorem fillAll_cons_bind {β : Type} {vs : List (Option UInt32)} {more : List (μ × List (Option UInt32))}
    (k : Filling μ UInt32 β) :
    (fillAll s ((m, vs) :: more) >>= fun _ => k) = (fill s m 0 vs >>= fun _ => fillAll s more >>= fun _ => k) :=
  bind_assoc ..

end Fields

section Decoding

variable {ν : Type} {a : NodeApi ν} {node : ν}

variable (a node) in
/-- The node is a map with a `native_handle_t` that is a map. -/
def IsHandle : Prop :=
  a.isMap node = some true ∧ a.isDefined (a.get node "native_handle_t") = true ∧
    a.isMap (a.get node "native_handle_t") = some true

/-- A handle is decoded by filling each member with what its node converts to. -/
theorem decodeGrallocHandle_eq (h : IsHandle a node) :
    decodeGrallocHandle a node =
      (fillAll crosGrallocHandle (entries a grallocFields node) >>= fun _ => pure true) := by
  obtain ⟨hmap, hdefined, hnative⟩ := h
  unfold decodeGrallocHandle isDefinedMap
  simp only [hmap, hdefined, hnative, assign_eq, getSequence_bind, entries, grallocFields, List.map_cons,
    List.map_nil, fillAll_cons_bind]
  rfl

/-- Any other node is refused before anything is stored. -/
theorem decodeGrallocHandle_of_not (h : ¬ IsHandle a node) (o : Object GrallocMember UInt32) :
    decodeGrallocHandle a node o = .ok false o ∨ decodeGrallocHandle a node o = .error () o := by
  unfold decodeGrallocHandle isDefinedMap
  rcases hmap : a.isMap node with _ | _ | _
  · right
    rfl
  · left
    rfl
  · cases hdefined : a.isDefined (a.get node "native_handle_t") with
    | false =>
      left
      rfl
    | true =>
      rcases hnative : a.isMap (a.get node "native_handle_t") with _ | _ | _
      · right
        rfl
      · left
        rfl
      · exact absurd ⟨hmap, hdefined, hnative⟩ h

theorem decodeSetAlpha_eq (h : a.isMap node = some true) :
    decodeSetAlpha a node = (fillAll setVideoAlpha (entries a alphaFields node) >>= fun _ => pure true) := by
  unfold decodeSetAlpha
  simp only [h, assign_eq, getSequence_bind, entries, alphaFields, List.map_cons, List.map_nil,
    fillAll_cons_bind]
  rfl

theorem decodeSetAlpha_of_not (h : ¬ a.isMap node = some true) (o : Object AlphaMember UInt32) :
    decodeSetAlpha a node o = .ok false o ∨ decodeSetAlpha a node o = .error () o := by
  unfold decodeSetAlpha
  rcases hmap : a.isMap node with _ | _ | _
  · right
    rfl
  · left
    rfl
  · exact absurd hmap h

end Decoding

/-! ## Decoding apart -/

section Apart

variable {ν : Type} (a : NodeApi ν) {μ : Type} [DecidableEq μ] (s : Shape μ) (fields : List (Field μ))
  (decode : ν → Filling μ UInt32 Bool)

/-- In memory with the given words the node is decoded to elements of the arrays only, and each member of what
is decoded is the same for all nodes whose node of that name is the same. -/
structure Apart (words : ℕ → UInt32) (node : ν) : Prop where
  within : (left (decode node ⟨words, []⟩)).Within s
  own : ∀ node' o o', (left (decode node' ⟨words, []⟩)).Within s →
    decode node ⟨words, []⟩ = .ok true o → decode node' ⟨words, []⟩ = .ok true o' →
    ∀ f ∈ fields, f.own a node = f.own a node' →
      ∀ i < s.length f.member, o.words (s.offset f.member + i) = o'.words (s.offset f.member + i)

/-- The nodes with a property are decoded by filling the members, the others are refused. -/
structure Fills (P : ν → Prop) : Prop where
  fills : ∀ node, P node → decode node = (fillAll s (entries a fields node) >>= fun _ => pure true)
  refuses : ∀ node, ¬ P node → ∀ o, decode node o = .ok false o ∨ decode node o = .error () o

variable {a s fields decode} {P : ν → Prop}

omit [DecidableEq μ] in
theorem left_bind_pure (x : Filling μ UInt32 Unit) (o : Object μ UInt32) :
    left ((x >>= fun _ => (pure true : Filling μ UInt32 Bool)) o) = left (x o) := by
  show left (EStateM.bind x _ o) = left (x o)
  unfold EStateM.bind
  cases x o <;> rfl

/-- What is stored is within the arrays exactly when the sequences have room. -/
theorem Fills.within_iff (h : Fills a s fields decode P) (words : ℕ → UInt32) (node : ν) :
    (left (decode node ⟨words, []⟩)).Within s ↔ (P node → Room s (entries a fields node)) := by
  have hnone : (⟨words, []⟩ : Object μ UInt32).Within s := by
    intro e he
    cases he
  by_cases hP : P node
  · rw [h.fills node hP, left_bind_pure, within_fillAll_iff hnone, forall_prop_of_true hP]
  · rw [forall_prop_of_false hP, iff_true]
    rcases h.refuses node hP ⟨words, []⟩ with hrefuse | hrefuse
    · rw [hrefuse]
      exact hnone
    · rw [hrefuse]
      exact hnone

theorem Fills.of_ok (h : Fills a s fields decode P) {words : ℕ → UInt32} {node : ν} {o : Object μ UInt32}
    (hok : decode node ⟨words, []⟩ = .ok true o) :
    P node ∧ fillAll s (entries a fields node) ⟨words, []⟩ = .ok () o := by
  by_cases hP : P node
  · rw [h.fills node hP] at hok
    obtain ⟨u, o', hfill, hpure⟩ := Checked.bind_eq_ok.mp hok
    obtain ⟨-, rfl⟩ := Checked.pure_eq_ok.mp hpure
    exact ⟨hP, hfill⟩
  · rcases h.refuses node hP ⟨words, []⟩ with hrefuse | hrefuse
    · rw [hrefuse] at hok
      cases hok
    · rw [hrefuse] at hok
      cases hok

/-- A node that is not taken leaves the memory as it was. -/
theorem Fills.of_refused (h : Fills a s fields decode P) {node : ν} {o o' : Object μ UInt32}
    (hno : decode node o = .ok false o') : ¬ P node ∧ o' = o := by
  by_cases hP : P node
  · rw [h.fills node hP] at hno
    obtain ⟨u, o₁, -, hpure⟩ := Checked.bind_eq_ok.mp hno
    obtain ⟨htrue, -⟩ := Checked.pure_eq_ok.mp hpure
    cases htrue
  · refine ⟨hP, ?_⟩
    rcases h.refuses node hP o with hrefuse | hrefuse
    · rw [hrefuse] at hno
      cases hno
      rfl
    · rw [hrefuse] at hno
      cases hno

/-- A decoded member is what its own node converts to, over what was there. -/
theorem Fills.words_eq (h : Fills a s fields decode P) (hnodup : (fields.map Field.member).Nodup)
    {words : ℕ → UInt32} {node : ν} {o : Object μ UInt32} (hwithin : (left (decode node ⟨words, []⟩)).Within s)
    (hok : decode node ⟨words, []⟩ = .ok true o) {f : Field μ} (hf : f ∈ fields) {i : ℕ}
    (hi : i < s.length f.member) :
    o.words (s.offset f.member + i) =
      filledWith (f.values a (f.own a node)) i (words (s.offset f.member + i)) := by
  obtain ⟨hP, hfill⟩ := h.of_ok hok
  have hroom := (h.within_iff words node).mp hwithin hP
  have hmembers : ((entries a fields node).map Prod.fst).Nodup := by
    rw [entries, List.map_map]
    exact hnodup
  have hmem : (f.member, f.values a (f.own a node)) ∈ entries a fields node := List.mem_map_of_mem hf
  exact words_fillAll hmembers hroom hfill hmem hi

theorem Fills.apart_iff (h : Fills a s fields decode P) (hnodup : (fields.map Field.member).Nodup)
    (words : ℕ → UInt32) (node : ν) :
    Apart a s fields decode words node ↔ (P node → Room s (entries a fields node)) := by
  rw [← h.within_iff words node]
  constructor
  · exact fun hapart => hapart.within
  · intro hwithin
    refine ⟨hwithin, ?_⟩
    intro node' o o' hwithin' hok hok' f hf hsame i hi
    rw [h.words_eq hnodup hwithin hok hf hi, h.words_eq hnodup hwithin' hok' hf hi, hsame]

end Apart

variable {ν : Type} (a : NodeApi ν)

theorem fills_grallocHandle : Fills a crosGrallocHandle grallocFields (decodeGrallocHandle a) (IsHandle a) :=
  ⟨fun _ h => decodeGrallocHandle_eq h, fun _ h => decodeGrallocHandle_of_not h⟩

theorem fills_setAlpha :
    Fills a setVideoAlpha alphaFields (decodeSetAlpha a) (fun node => a.isMap node = some true) :=
  ⟨fun _ h => decodeSetAlpha_eq h, fun _ h => decodeSetAlpha_of_not h⟩

/-- **A handle and an alpha are decoded within their arrays, each member from the node of its own name, exactly
when of each sequence that is reached no more elements convert in a row than its array has.** -/
theorem decodes_apart_iff (words : ℕ → UInt32) (node : ν) :
    (Apart a crosGrallocHandle grallocFields (decodeGrallocHandle a) words node ↔
      (IsHandle a node → Room crosGrallocHandle (entries a grallocFields node))) ∧
    (Apart a setVideoAlpha alphaFields (decodeSetAlpha a) words node ↔
      (a.isMap node = some true → Room setVideoAlpha (entries a alphaFields node))) :=
  ⟨(fills_grallocHandle a).apart_iff (by decide) words node, (fills_setAlpha a).apart_iff (by decide) words node⟩

/-! ## The functions on whole structs -/

/-- The nodes of `Yaml`. -/
def nodeApi (y : Loader) : NodeApi Node where
  isDefined
    | .undefined => false
    | _ => true
  isMap node := some node.isMap
  isSequence
    | .undefined => none
    | .seq _ => some true
    | _ => some false
  get := Node.get
  elements
    | .seq items => items.map .scalar
    | _ => []
  asInt := int y
  asUnsigned := unsigned y

variable {y : Loader} {node : Node}

@[simp] theorem get_nodeApi (key : String) : (nodeApi y).get node key = node.get key := rfl

@[simp] theorem asUnsigned_nodeApi : (nodeApi y).asUnsigned node = unsigned y node := rfl

@[simp] theorem intWord_eq_some_iff {w : UInt32} :
    (nodeApi y).intWord node = some w ↔ int y node = some w.toInt32 := by
  show (int y node).map Int32.toUInt32 = some w ↔ _
  rw [Option.map_eq_some_iff]
  constructor
  · rintro ⟨i, hi, rfl⟩
    rw [hi, Int32.toInt32_toUInt32]
  · intro h
    exact ⟨w.toInt32, h, UInt32.toUInt32_toInt32 w⟩

theorem mapM_of_all {β : Type} {convert : String → Option β} {items : List String}
    (h : ∀ t ∈ items, (convert t).isSome = true) :
    ∃ vs, items.mapM convert = some vs ∧ items.map convert = vs.map some := by
  induction items with
  | nil => exact ⟨[], rfl, rfl⟩
  | cons t items ih =>
    obtain ⟨v, hv⟩ := Option.isSome_iff_exists.mp (h t List.mem_cons_self)
    obtain ⟨vs, hvs, hmap⟩ := ih fun t ht => h t (List.mem_cons_of_mem _ ht)
    refine ⟨v :: vs, ?_, ?_⟩
    · rw [List.mapM_cons, hv, hvs]
      rfl
    · rw [List.map_cons, List.map_cons, hv, hmap]

/-- An array of a struct in memory, whose elements are words or are made of them. -/
def arrayAt {μ β : Type} [DecidableEq μ] (s : Shape μ) (f : UInt32 → β) (words : ℕ → UInt32) (m : μ) :
    Vector β (s.length m) :=
  Vector.ofFn fun i => f (words (s.offset m + i))

/-- A sequence all of which converts: its elements go over those of the array, as far as there are any. -/
theorem getSequence_of_all {β : Type} {n : ℕ} {convert : String → Option β} {g : β → UInt32} {f : UInt32 → β}
    (hfg : ∀ b, f (g b) = b) {as : Node → Option UInt32}
    (has : ∀ node, as node = (Loader.scalarAs convert node).map g)
    (hall : (sequenceValues (nodeApi y) as node).all Option.isSome = true) (old : ℕ → UInt32) :
    Emulator.getSequence convert node (Vector.ofFn fun i : Fin n => f (old i)) =
      some (Vector.ofFn fun i : Fin n => f (filledWith (sequenceValues (nodeApi y) as node) i (old i))) := by
  cases node with
  | undefined => simp [sequenceValues, nodeApi] at hall
  | scalar text => rfl
  | map entries => rfl
  | seq items =>
    have hitems : sequenceValues (nodeApi y) as (.seq items) = (items.map convert).map (Option.map g) := by
      simp [sequenceValues, nodeApi, has, Loader.scalarAs]
    have hconvert : ∀ t ∈ items, (convert t).isSome = true := by
      simpa [hitems] using hall
    obtain ⟨values, hvalues, hmap⟩ := mapM_of_all hconvert
    rw [hitems, hmap, Emulator.getSequence, hvalues]
    show some _ = some _
    congr 1
    ext i hi
    have hold : (Vector.ofFn fun i : Fin n => f (old i)).get ⟨i, hi⟩ = f (old i) := Vector.getElem_ofFn hi
    simp only [Vector.getElem_ofFn, filledWith, List.getElem?_map, hold]
    cases values[i]? with
    | none => rfl
    | some b => simp [hfg]

section Decoded

variable {μ : Type} [DecidableEq μ] {s : Shape μ} {fields : List (Field μ)}
  {decode : Node → Filling μ UInt32 Bool} {P : Node → Prop} (h : Fills (nodeApi y) s fields decode P)
  (hnodup : (fields.map Field.member).Nodup) {words : ℕ → UInt32} {o : Object μ UInt32}
  (hwithin : (left (decode node ⟨words, []⟩)).Within s) (hok : decode node ⟨words, []⟩ = .ok true o)
include h hok

theorem Fills.all_of_ok {f : Field μ} (hf : f ∈ fields) :
    (f.values (nodeApi y) (f.own (nodeApi y) node)).all Option.isSome = true := by
  obtain ⟨-, hfill⟩ := h.of_ok hok
  exact fillAll_ok_iff.mp ⟨o, hfill⟩ (f.member, _) (List.mem_map_of_mem hf)

include hnodup hwithin

/-- The scalars of a struct that was decoded. -/
theorem Fills.scalar_of_ok (hpos : ∀ m, 0 < s.length m) (f : Field μ) (hf : f ∈ fields)
    (hscalar : f.sequence = false) :
    f.as (nodeApi y) (f.own (nodeApi y) node) = some (o.words (s.offset f.member)) := by
  have hall := h.all_of_ok hok hf
  have hfirst := h.words_eq hnodup hwithin hok hf (hpos f.member)
  rw [Field.values, hscalar, if_neg Bool.false_ne_true] at hall hfirst
  obtain ⟨w, hw⟩ : ∃ w, f.as (nodeApi y) (f.own (nodeApi y) node) = some w := by
    simpa [Option.isSome_iff_exists] using hall
  rw [hw, Nat.add_zero] at hfirst
  rw [hw, hfirst]
  rfl

/-- Its arrays. -/
theorem Fills.array_of_ok {β : Type} {convert : String → Option β} {g : β → UInt32} {f : UInt32 → β}
    (hfg : ∀ b, f (g b) = b) {k : Field μ} (hk : k ∈ fields) (hseq : k.sequence = true)
    (has : ∀ node, k.as (nodeApi y) node = (Loader.scalarAs convert node).map g) :
    Emulator.getSequence convert (k.own (nodeApi y) node) (arrayAt s f words k.member) =
      some (arrayAt s f o.words k.member) := by
  have hall := h.all_of_ok hok hk
  rw [Field.values, hseq, if_pos rfl] at hall
  refine (getSequence_of_all hfg has hall fun i => words (s.offset k.member + i)).trans ?_
  rw [arrayAt]
  congr 2
  funext i
  rw [h.words_eq hnodup hwithin hok hk i.isLt, Field.values, hseq, if_pos rfl]

theorem Fills.words_of_ok {k : Field μ} (hk : k ∈ fields) (hseq : k.sequence = true)
    (hunsigned : k.signed = false) :
    Emulator.getSequence y.asUnsigned (k.own (nodeApi y) node) (arrayAt s id words k.member) =
      some (arrayAt s id o.words k.member) := by
  apply h.array_of_ok hnodup hwithin hok (g := id) (fun _ => rfl) hk hseq
  intro node
  rw [Field.as, hunsigned, Option.map_id_fun]
  rfl

end Decoded

variable {words : ℕ → UInt32}

open GrallocMember in
/-- The handle in memory. -/
def handleAt (words : ℕ → UInt32) : CrosGrallocHandle :=
  let s := crosGrallocHandle
  let w (m : GrallocMember) := words (s.offset m)
  let i (m : GrallocMember) := (w m).toInt32
  ⟨i version, i numFds, i numInts, arrayAt s UInt32.toInt32 words fds, arrayAt s id words strides,
    arrayAt s id words offsets, arrayAt s id words sizes, arrayAt s id words formatModifiers, w width, w height,
    w format, w tilingMode, arrayAt s id words useFlags, w magic, w pixelStride, i droidFormat, i usage,
    w consumerUsage, w producerUsage, w yuvColorRange, w isUpdated, w isEncoded, w isEncrypted, w isKeyFrame,
    w isInterlaced, w isMmcCapable, w compressionMode, w compressionHint, w codec, w alignedWidth,
    w alignedHeight⟩

/-- **A handle that is decoded within its arrays is the one `YmlParser` has.** -/
theorem decodeGrallocHandle_words {o : Object GrallocMember UInt32}
    (hwithin : (left (decodeGrallocHandle (nodeApi y) node ⟨words, []⟩)).Within crosGrallocHandle)
    (hok : decodeGrallocHandle (nodeApi y) node ⟨words, []⟩ = .ok true o) :
    Emulator.decodeGrallocHandle y node (handleAt words) = some (true, handleAt o.words) := by
  have h := fills_grallocHandle (nodeApi y)
  have hnodup : (grallocFields.map Field.member).Nodup := by decide
  obtain ⟨⟨hmap, -, hnative⟩, -⟩ := h.of_ok hok
  have hmap : node.isMap = true := Option.some.inj hmap
  have hnative : (node.get "native_handle_t").isMap = true := Option.some.inj hnative
  have hscalars := h.scalar_of_ok hnodup hwithin hok fun m => by cases m <;> decide
  simp [grallocFields, Field.own, Field.as] at hscalars
  have hfds : Emulator.getSequence y.asInt (node.get "fds") (handleAt words).fds = some (handleAt o.words).fds :=
    h.array_of_ok hnodup hwithin hok Int32.toInt32_toUInt32 (k := ⟨.fds, ["fds"], true, true⟩) (by decide) rfl
      fun _ => rfl
  have hstrides : Emulator.getSequence y.asUnsigned (node.get "strides") (handleAt words).strides =
      some (handleAt o.words).strides :=
    h.words_of_ok hnodup hwithin hok (k := ⟨.strides, ["strides"], false, true⟩) (by decide) rfl rfl
  have hoffsets : Emulator.getSequence y.asUnsigned (node.get "offsets") (handleAt words).offsets =
      some (handleAt o.words).offsets :=
    h.words_of_ok hnodup hwithin hok (k := ⟨.offsets, ["offsets"], false, true⟩) (by decide) rfl rfl
  have hsizes : Emulator.getSequence y.asUnsigned (node.get "sizes") (handleAt words).sizes =
      some (handleAt o.words).sizes :=
    h.words_of_ok hnodup hwithin hok (k := ⟨.sizes, ["sizes"], false, true⟩) (by decide) rfl rfl
  have hmodifiers : Emulator.getSequence y.asUnsigned (node.get "format_modifiers")
      (handleAt words).formatModifiers = some (handleAt o.words).formatModifiers :=
    h.words_of_ok hnodup hwithin hok (k := ⟨.formatModifiers, ["format_modifiers"], false, true⟩) (by decide) rfl
      rfl
  have huseFlags : Emulator.getSequence y.asUnsigned (node.get "use_flags") (handleAt words).useFlags =
      some (handleAt o.words).useFlags :=
    h.words_of_ok hnodup hwithin hok (k := ⟨.useFlags, ["use_flags"], false, true⟩) (by decide) rfl rfl
  simp only [Emulator.decodeGrallocHandle, hmap, hnative, hscalars, hfds, hstrides, hoffsets, hsizes, hmodifiers,
    huseFlags]
  rfl

/-- **A node that is not taken for a handle is not taken by `YmlParser` either.** -/
theorem decodeGrallocHandle_of_refused {o o' : Object GrallocMember UInt32}
    (hno : decodeGrallocHandle (nodeApi y) node o = .ok false o') :
    o' = o ∧ ∀ h, Emulator.decodeGrallocHandle y node h = some (false, h) := by
  obtain ⟨hhandle, hsame⟩ := (fills_grallocHandle (nodeApi y)).of_refused hno
  refine ⟨hsame, fun h => ?_⟩
  unfold Emulator.decodeGrallocHandle
  cases hmap : node.isMap with
  | false => rfl
  | true =>
    cases hnative : (node.get "native_handle_t").isMap with
    | false => rfl
    | true =>
      refine absurd ⟨congrArg some hmap, ?_, congrArg some hnative⟩ hhandle
      rw [get_nodeApi]
      cases hnode : node.get "native_handle_t" with
      | undefined =>
        rw [hnode] at hnative
        cases hnative
      | _ => rfl

/-- The alpha in memory. -/
def alphaAt (words : ℕ → UInt32) : SetVideoAlpha :=
  ⟨words (setVideoAlpha.offset .enable), arrayAt setVideoAlpha id words .reserved⟩

/-- **So is an alpha.** -/
theorem decodeSetAlpha_words {o : Object AlphaMember UInt32}
    (hwithin : (left (decodeSetAlpha (nodeApi y) node ⟨words, []⟩)).Within setVideoAlpha)
    (hok : decodeSetAlpha (nodeApi y) node ⟨words, []⟩ = .ok true o) :
    Emulator.decodeSetAlpha y node (alphaAt words) = some (true, alphaAt o.words) := by
  have h := fills_setAlpha (nodeApi y)
  have hnodup : (alphaFields.map Field.member).Nodup := by decide
  obtain ⟨hmap, -⟩ := h.of_ok hok
  have hmap : node.isMap = true := Option.some.inj hmap
  have hscalars := h.scalar_of_ok hnodup hwithin hok fun m => by cases m <;> decide
  simp [alphaFields, Field.own, Field.as] at hscalars
  have hreserved : Emulator.getSequence y.asUnsigned (node.get "reserved") (alphaAt words).reserved =
      some (alphaAt o.words).reserved :=
    h.words_of_ok hnodup hwithin hok (k := ⟨.reserved, ["reserved"], false, true⟩) (by decide) rfl rfl
  simp only [Emulator.decodeSetAlpha, hmap, hscalars, hreserved]
  rfl

/-! ## A sequence that is too long -/

/-- A handle with all sequences but one empty, and zeros for the rest. -/
def handleWithFds (items : List String) : Node :=
  let zeros (keys : List String) := fields (keys.map fun key => (key, "0"))
  .map <| .map "native_handle_t" (zeros ["version", "numFds", "numInts"] .nil) <| .seq "fds" items <|
    .seq "strides" [] <| .seq "offsets" [] <| .seq "sizes" [] <| .seq "format_modifiers" [] <|
    zeros ["width", "height", "format", "tiling_mode"] <| .seq "use_flags" [] <|
    zeros ["magic", "pixel_stride", "droid_format", "usage", "consumer_usage", "producer_usage",
      "yuv_color_range", "is_updated", "is_encoded", "is_encrypted", "is_key_frame", "is_interlaced",
      "is_mmc_capable", "compression_mode", "compression_hint", "codec", "aligned_width", "aligned_height"] .nil

/-- The fifth of five descriptors goes to the first stride, and stays there if the log has no strides. -/
theorem not_apart_fiveFds :
    (¬ ∀ node, Apart (nodeApi Loader.lineByLine) crosGrallocHandle grallocFields
      (decodeGrallocHandle (nodeApi Loader.lineByLine)) (fun _ => 0) node) ∧
    (left (decodeGrallocHandle (nodeApi Loader.lineByLine) (handleWithFds ["3", "4", "5", "6", "7"])
      ⟨fun _ => 0, []⟩)).words (crosGrallocHandle.offset .strides) = 7 := by
  constructor
  · intro hall
    have hwithin := (hall (handleWithFds ["3", "4", "5", "6", "7"])).within
    have hstored : (GrallocMember.fds, 4) ∈ (left (decodeGrallocHandle (nodeApi Loader.lineByLine)
        (handleWithFds ["3", "4", "5", "6", "7"]) ⟨fun _ => 0, []⟩)).stored := by decide +kernel
    exact absurd (hwithin _ hstored) (by decide)
  · decide +kernel

end VhalClient.Emulator.Sequences
