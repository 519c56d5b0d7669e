/-
# VhalClient.Lib.YamlLoader — a loader that is as documented.

`Loader.Documented` is an assumption about a library; this is a loader that meets it, so the assumption can be
met.  It reads no more of YAML than what `Yaml.stream` prints: a stream is cut into lines, a line is an entry
at a level, and `nest` builds the blocks from the levels.  The proof follows the same stages: `splitOn_lines`,
`parseLine_entry`, `collect_streamLines`, `nest_entries`.
-/
import VhalClient.Lib.Yaml

namespace VhalClient.Lib.Yaml

/-- What one line of a block says. -/
inductive Entry where
  | scalar (key text : String)
  | seq (key : String) (items : List String)
  | head (key : String)
  deriving DecidableEq, Repr

inductive Line where
  | start
  | entry (level : ℕ) (e : Entry)
  | other
  deriving DecidableEq, Repr

/-- A line without its blanks: a key up to the colon, and what stands behind it. -/
def parseEntry (t : List Char) : Option Entry :=
  let key := String.ofList (t.takeWhile (· != ':'))
  match t.dropWhile (· != ':') with
  | [':'] => some (.head key)
  | ':' :: ' ' :: '[' :: cs =>
    some (.seq key (((cs.filter (· != ' ')).dropLast.splitOn ',').map String.ofList))
  | ':' :: ' ' :: cs => some (.scalar key (String.ofList cs))
  | _ => none

def parseLine (t : List Char) : Line :=
  if t = "---".toList then .start
  else if t.head? = some '#' then .other
  else
    match parseEntry (t.dropWhile (· == ' ')) with
    | some e => .entry ((t.takeWhile (· == ' ')).length / 4) e
    | none => .other

/-- The entries in front of the first mark, and those of each document. -/
def collect : List Line → List (ℕ × Entry) × List (List (ℕ × Entry))
  | [] => ([], [])
  | .start :: ls => ([], (collect ls).1 :: (collect ls).2)
  | .entry level e :: ls => ((level, e) :: (collect ls).1, (collect ls).2)
  | .other :: ls => collect ls

/-- The block at a level, and the entries behind it.  Every entry is read once, so `fuel` is their number. -/
def nest : ℕ → ℕ → List (ℕ × Entry) → Block × List (ℕ × Entry)
  | 0, _, es => (.nil, es)
  | _ + 1, _, [] => (.nil, [])
  | fuel + 1, level, (l, e) :: es =>
    if l ≠ level then (.nil, (l, e) :: es)
    else
      match e with
      | .scalar key text =>
        let r := nest fuel level es
        (.scalar key text r.1, r.2)
      | .seq key items =>
        let r := nest fuel level es
        (.seq key items r.1, r.2)
      | .head key =>
        let inner := nest fuel (level + 1) es
        let r := nest fuel level inner.2
        (.map key inner.1 r.1, r.2)

/-! ## Numbers -/

def hexDigit (c : Char) : ℕ := if c.isDigit then c.toNat - 48 else c.toNat - 55

def parseNat (t : List Char) : Option ℕ :=
  match t with
  | '0' :: 'x' :: cs => some (cs.foldl (fun n c => 16 * n + hexDigit c) 0)
  | cs => if cs ≠ [] ∧ cs.all Char.isDigit then some (Nat.ofDigitChars 10 cs 0) else none

def parseInt (t : List Char) : Option ℤ :=
  match t with
  | '-' :: cs => (parseNat cs).map fun n => -(n : ℤ)
  | cs => (parseNat cs).map fun n => (n : ℤ)

/-- The `float` nearest to a number of millionths. -/
def nearestFloat (n : ℕ) : UInt32 :=
  if n = 0 then 0
  else
    let exponent := Nat.log2 (n * 2 ^ 150 / 10 ^ 6)
    let mantissa := roundDiv (n * 2 ^ 173) (10 ^ 6 * 2 ^ exponent)
    UInt32.ofNat (min (mantissa + (exponent - 24) * 2 ^ 23) 0x7f800000)

/-- The millionths of a number with six digits behind its point. -/
def parseFixed (t : List Char) : Option ℕ :=
  if t.contains '.' then some (Nat.ofDigitChars 10 (t.filter (· != '.')) 0) else none

/-- A value that fits. -/
def within {α : Type} (n : ℕ) (f : ℕ → α) (value : ℕ) : Option α := if value < n then some (f value) else none

def withinInt {α : Type} (n : ℤ) (f : ℤ → α) (value : ℤ) : Option α :=
  if -n ≤ value ∧ value < n then some (f value) else none

namespace Loader

def lineByLine : Loader where
  loadAll text :=
    some ((collect ((text.splitOn '\n').map parseLine)).2.map fun es => .map (nest (es.length + 1) 0 es).1)
  asUnsigned text := (parseNat text.toList).bind (within (2 ^ 32) UInt32.ofNat)
  asUnsignedLong text := (parseNat text.toList).bind (within (2 ^ 64) UInt64.ofNat)
  asInt text := (parseInt text.toList).bind (withinInt (2 ^ 31) Int32.ofInt)
  asShort text := (parseInt text.toList).bind (withinInt (2 ^ 15) Int16.ofInt)
  asFloat text := (parseFixed text.toList).map nearestFloat

example : nearestFloat 240000000 = 0x43700000 := by decide

end Loader

/-! ## Lines -/

theorem splitOn_lines {ls : List (List Char)} (h : ∀ l ∈ ls, '\n' ∉ l) :
    (ls.flatMap (· ++ ['\n'])).splitOn '\n' = ls ++ [[]] := by
  induction ls with
  | nil => rfl
  | cons l ls ih =>
    rw [List.flatMap_cons, List.append_assoc, List.singleton_append,
      List.splitOn_append_cons_self_of_not_mem (h l (List.mem_cons_self ..)),
      ih fun l hl => h l (List.mem_cons_of_mem _ hl), List.cons_append]

namespace Entry

def text : Entry → String
  | scalar key text => key ++ ": " ++ text
  | seq key items => key ++ ": " ++ flow items
  | head key => key ++ ":"

def WellFormed : Entry → Prop
  | scalar key text => isKey key = true ∧ isPlain text = true
  | seq key items => isKey key = true ∧ items ≠ [] ∧ ∀ item ∈ items, isPlain item = true
  | head key => isKey key = true

end Entry

/-- The lines of a block. -/
def Block.entries (level : ℕ) : Block → List (ℕ × Entry)
  | nil => []
  | scalar key text rest => (level, .scalar key text) :: rest.entries level
  | seq key items rest => (level, .seq key items) :: rest.entries level
  | map key inner rest => (level, .head key) :: (inner.entries (level + 1) ++ rest.entries level)

/-- The line of an entry, without its end. -/
def lineOf (e : ℕ × Entry) : List Char := List.replicate (4 * e.1) ' ' ++ e.2.text.toList

theorem Block.print_eq (level : ℕ) (b : Block) :
    b.print level = ((b.entries level).map lineOf).flatMap (· ++ ['\n']) := by
  induction b generalizing level with
  | nil => rfl
  | scalar key text rest ih => simp [print, entries, ih, line, lineOf, Entry.text]
  | seq key items rest ih => simp [print, entries, ih, line, lineOf, Entry.text]
  | map key inner rest ihinner ih => simp [print, entries, ih, ihinner, line, lineOf, Entry.text]

theorem keyChar_ne {c d : Char} (hc : (c.isAlphanum || c == '_') = true)
    (hd : (d.isAlphanum || d == '_') = false) : c ≠ d := by
  rintro rfl
  rw [hc] at hd
  cases hd

theorem plainChar_ne {c d : Char} (hc : isPlainChar c = true) (hd : isPlainChar d = false) :
    c ≠ d := by
  rintro rfl
  rw [hc] at hd
  cases hd

theorem keyChars {key : String} (h : isKey key = true) : ∀ c ∈ key.toList, (c.isAlphanum || c == '_') = true := by
  rw [isKey, Bool.and_eq_true, Bool.and_eq_true, Bool.and_eq_true, List.all_eq_true] at h
  exact h.1.1.2

theorem plainChars {text : String} (h : isPlain text = true) : ∀ c ∈ text.toList, isPlainChar c = true := by
  rw [isPlain, Bool.and_eq_true, List.all_eq_true] at h
  exact h.2

theorem key_ne_nil {key : String} (h : isKey key = true) : key.toList ≠ [] := by
  rw [isKey, Bool.and_eq_true, Bool.and_eq_true, Bool.and_eq_true] at h
  simpa using h.1.1.1

theorem plain_ne_nil {text : String} (h : isPlain text = true) : text.toList ≠ [] := by
  intro hnil
  rw [isPlain, hnil] at h
  cases h

/-- A key is read up to its colon. -/
theorem takeWhile_key {key : String} (h : isKey key = true) (cs : List Char) :
    (key.toList ++ ':' :: cs).takeWhile (· != ':') = key.toList ∧
      (key.toList ++ ':' :: cs).dropWhile (· != ':') = ':' :: cs := by
  have hall : ∀ c ∈ key.toList, (c != ':') = true := fun c hc => by
    simpa using keyChar_ne (d := ':') (keyChars h c hc) (by decide)
  constructor
  · rw [List.takeWhile_append_of_pos hall]
    simp
  · rw [List.dropWhile_append_of_pos hall]
    simp

theorem filter_intercalate {items : List (List Char)} (h : ∀ item ∈ items, ' ' ∉ item) :
    ((", ".toList).intercalate items).filter (· != ' ') = [','].intercalate items := by
  induction items with
  | nil => rfl
  | cons item items ih =>
    have hitem : item.filter (· != ' ') = item := by
      rw [List.filter_eq_self]
      intro c hc
      have : c ≠ ' ' := fun heq => h item (List.mem_cons_self ..) (heq ▸ hc)
      simpa using this
    have ih := ih fun item hitem => h item (List.mem_cons_of_mem _ hitem)
    cases items with
    | nil => simpa using hitem
    | cons next items =>
      rw [List.intercalate_cons_cons, List.intercalate_cons_cons, List.filter_append, List.filter_append,
        hitem, ih]
      rfl

theorem toList_flow (items : List String) :
    (flow items).toList = '[' :: (", ".toList).intercalate (items.map String.toList) ++ [']'] := by
  simp [flow]

theorem parseEntry_text {e : Entry} (he : e.WellFormed) : parseEntry e.text.toList = some e := by
  cases e with
  | head key =>
    have htext : (Entry.head key).text.toList = key.toList ++ [':'] := by simp [Entry.text]
    obtain ⟨hkey, hrest⟩ := takeWhile_key he []
    rw [htext, parseEntry, hkey, hrest]
    simp
  | scalar key text =>
    have htext : (Entry.scalar key text).text.toList = key.toList ++ ':' :: ' ' :: text.toList := by
      simp [Entry.text]
    obtain ⟨hkey, hrest⟩ := takeWhile_key he.1 (' ' :: text.toList)
    obtain ⟨c, cs, hcons⟩ := List.exists_cons_of_ne_nil (plain_ne_nil he.2)
    have hc : c ≠ '[' := plainChar_ne (plainChars he.2 c (hcons ▸ List.mem_cons_self ..)) (by decide)
    rw [htext, parseEntry, hkey, hrest, hcons]
    simp only [String.ofList_toList]
    split
    · simp_all
    · simp_all
    · rename_i cs' _ heq
      obtain rfl : c :: cs = cs' := by simpa using heq
      rw [← hcons, String.ofList_toList]
    · simp_all
  | seq key items =>
    have htext : (Entry.seq key items).text.toList = key.toList ++ ':' :: ' ' :: '[' ::
        ((", ".toList).intercalate (items.map String.toList) ++ [']']) := by
      simp [Entry.text, toList_flow]
    obtain ⟨hkey, hrest⟩ := takeWhile_key he.1
      (' ' :: '[' :: ((", ".toList).intercalate (items.map String.toList) ++ [']']))
    have hitems (d : Char) (hd : isPlainChar d = false) : ∀ item ∈ items.map String.toList, d ∉ item := by
      intro item hitem hmem
      obtain ⟨s, hs, rfl⟩ := List.mem_map.mp hitem
      exact plainChar_ne (plainChars (he.2.2 s hs) d hmem) hd rfl
    have hfilter : ((", ".toList).intercalate (items.map String.toList) ++ [']']).filter (· != ' ') =
        [','].intercalate (items.map String.toList) ++ [']'] := by
      rw [List.filter_append, filter_intercalate (hitems ' ' (by decide))]
      rfl
    have hsplit : ([','].intercalate (items.map String.toList)).splitOn ',' = items.map String.toList :=
      List.splitOn_intercalate ',' (hitems ',' (by decide)) (by simpa using he.2.1)
    rw [htext, parseEntry, hkey, hrest]
    simp only [hfilter, List.dropLast_concat, hsplit, String.ofList_toList, List.map_map]
    simp [Function.comp_def]

/-! ### The lines of a stream -/

theorem takeWhile_blanks (n : ℕ) {t : List Char} (ht : ∀ c ∈ t.head?, c ≠ ' ') :
    (List.replicate n ' ' ++ t).takeWhile (· == ' ') = List.replicate n ' ' ∧
      (List.replicate n ' ' ++ t).dropWhile (· == ' ') = t := by
  have hall : ∀ c ∈ List.replicate n ' ', (c == ' ') = true := fun c hc => by
    rw [List.eq_of_mem_replicate hc]
    rfl
  rw [List.takeWhile_append_of_pos hall, List.dropWhile_append_of_pos hall]
  cases t with
  | nil => simp
  | cons c t =>
    have hc : (c == ' ') = false := by simpa using ht c rfl
    simp [hc]

/-- An entry begins with a character of its key. -/
theorem head_text {e : Entry} (he : e.WellFormed) :
    ∃ c cs, e.text.toList = c :: cs ∧ (c.isAlphanum || c == '_') = true := by
  have hkey (key : String) (hkey : isKey key = true) (more : List Char) :
      ∃ c cs, key.toList ++ more = c :: cs ∧ (c.isAlphanum || c == '_') = true := by
    obtain ⟨c, cs, hcons⟩ := List.exists_cons_of_ne_nil (key_ne_nil hkey)
    exact ⟨c, cs ++ more, by rw [hcons]; rfl, keyChars hkey c (hcons ▸ List.mem_cons_self ..)⟩
  cases e with
  | scalar key text =>
    obtain ⟨c, cs, hcons, hc⟩ := hkey key he.1 (": ".toList ++ text.toList)
    exact ⟨c, cs, by simpa [Entry.text] using hcons, hc⟩
  | seq key items =>
    obtain ⟨c, cs, hcons, hc⟩ := hkey key he.1 (": ".toList ++ (flow items).toList)
    exact ⟨c, cs, by simpa [Entry.text] using hcons, hc⟩
  | head key =>
    obtain ⟨c, cs, hcons, hc⟩ := hkey key he [':']
    exact ⟨c, cs, by simpa [Entry.text] using hcons, hc⟩

theorem parseLine_entry {e : ℕ × Entry} (he : e.2.WellFormed) : parseLine (lineOf e) = .entry e.1 e.2 := by
  obtain ⟨c, cs, hcons, hc⟩ := head_text he
  obtain ⟨htake, hdrop⟩ := takeWhile_blanks (4 * e.1) (t := e.2.text.toList) (by
    rw [hcons]
    intro d hd
    obtain rfl : c = d := by simpa using hd
    exact keyChar_ne hc (by decide))
  -- The line begins with a blank or with a character of the key, so it is no mark and no comment.
  have hhead : ∃ d ds, lineOf e = d :: ds ∧ (d = ' ' ∨ (d.isAlphanum || d == '_') = true) := by
    rw [lineOf, hcons]
    cases 4 * e.1 with
    | zero => exact ⟨c, cs, rfl, .inr hc⟩
    | succ n => exact ⟨' ', _, rfl, .inl rfl⟩
  obtain ⟨d, ds, hline, hd⟩ := hhead
  have hmark : lineOf e ≠ "---".toList := by
    rw [hline]
    rintro heq
    obtain ⟨rfl, -⟩ := List.cons.inj heq
    rcases hd with hd | hd <;> revert hd <;> decide
  have hcomment : (lineOf e).head? ≠ some '#' := by
    rw [hline]
    rintro heq
    obtain rfl : d = '#' := by simpa using heq
    rcases hd with hd | hd <;> revert hd <;> decide
  rw [parseLine, if_neg hmark, if_neg hcomment, lineOf, htake, hdrop, parseEntry_text he]
  simp

theorem notMem_intercalate {c : Char} {sep : List Char} {ls : List (List Char)} (hsep : c ∉ sep)
    (hls : ∀ l ∈ ls, c ∉ l) : c ∉ sep.intercalate ls := by
  induction ls with
  | nil => simp
  | cons l ls ih =>
    have hl := hls l (List.mem_cons_self ..)
    have ih := ih fun l hl => hls l (List.mem_cons_of_mem _ hl)
    cases ls with
    | nil => simpa using hl
    | cons l' ls =>
      rw [List.intercalate_cons_cons]
      simp [hl, hsep, ih]

theorem newline_notMem_lineOf {e : ℕ × Entry} (he : e.2.WellFormed) : '\n' ∉ lineOf e := by
  have hkey {key : String} (h : isKey key = true) : '\n' ∉ key.toList := fun hmem =>
    keyChar_ne (keyChars h _ hmem) (by decide) rfl
  have hplain {text : String} (h : isPlain text = true) : '\n' ∉ text.toList := fun hmem =>
    plainChar_ne (plainChars h _ hmem) (by decide) rfl
  have hblanks (n : ℕ) : '\n' ∉ List.replicate n ' ' := fun hmem =>
    absurd (List.eq_of_mem_replicate hmem) (by decide)
  obtain ⟨level, e⟩ := e
  rw [lineOf, List.mem_append, not_or]
  refine ⟨hblanks _, ?_⟩
  cases e with
  | scalar key text => simp [Entry.text, hkey he.1, hplain he.2]
  | seq key items =>
    have hitems : '\n' ∉ (", ".toList).intercalate (items.map String.toList) := by
      apply notMem_intercalate (by decide)
      intro item hitem
      obtain ⟨s, hs, rfl⟩ := List.mem_map.mp hitem
      exact hplain (he.2.2 s hs)
    simp only [Entry.text, String.toList_append, toList_flow, List.mem_append, List.mem_cons, not_or]
    refine ⟨⟨hkey he.1, by decide⟩, ⟨by decide, hitems⟩, by decide⟩
  | head key => simp [Entry.text, hkey he]

theorem wellFormed_entries {b : Block} (hkeyed : b.wellKeyed = true)
    (htexts : ∀ text ∈ b.texts, isPlain text = true) (level : ℕ) : ∀ e ∈ b.entries level, e.2.WellFormed := by
  induction b generalizing level with
  | nil => simp [Block.entries]
  | scalar key text rest ih =>
    simp only [Block.wellKeyed, Bool.and_eq_true] at hkeyed
    intro e he
    rcases List.mem_cons.mp he with rfl | he
    · exact ⟨hkeyed.1.1, htexts text (List.mem_cons_self ..)⟩
    · exact ih hkeyed.2 (fun t ht => htexts t (List.mem_cons_of_mem _ ht)) level e he
  | seq key items rest ih =>
    simp only [Block.wellKeyed, Bool.and_eq_true] at hkeyed
    intro e he
    rcases List.mem_cons.mp he with rfl | he
    · refine ⟨hkeyed.1.1.1, ?_, fun t ht => htexts t (List.mem_append_left _ ht)⟩
      simpa using hkeyed.1.2
    · exact ih hkeyed.2 (fun t ht => htexts t (List.mem_append_right _ ht)) level e he
  | map key inner rest ihinner ih =>
    simp only [Block.wellKeyed, Bool.and_eq_true] at hkeyed
    intro e he
    rcases List.mem_cons.mp he with rfl | he
    · exact hkeyed.1.1.1.1
    rcases List.mem_append.mp he with he | he
    · exact ihinner hkeyed.1.2 (fun t ht => htexts t (List.mem_append_left _ ht)) (level + 1) e he
    · exact ih hkeyed.2 (fun t ht => htexts t (List.mem_append_right _ ht)) level e he

/-! ## Documents -/

def documentLines (b : Block) : List (List Char) := [[], "---".toList] ++ (b.entries 0).map lineOf

def documentsLines : List Block → List (List Char)
  | [] => []
  | b :: bs => documentLines b ++ bs.flatMap fun b => [] :: "...".toList :: documentLines b

def streamLines (comments : List String) (bs : List Block) : List (List Char) :=
  comments.map String.toList ++ documentsLines bs

theorem document_eq (b : Block) : document b = (documentLines b).flatMap (· ++ ['\n']) := by
  rw [document, Block.print_eq, documentLines, List.flatMap_append]
  rfl

theorem stream_eq (comments : List String) (bs : List Block) :
    stream comments bs = (streamLines comments bs).flatMap (· ++ ['\n']) := by
  have hcomments : comments.flatMap (line 0) = (comments.map String.toList).flatMap (· ++ ['\n']) := by
    rw [List.flatMap_map]
    congr 1
  rw [stream, streamLines, List.flatMap_append, ← hcomments]
  cases bs with
  | nil => rfl
  | cons b bs =>
    rw [documents, documentsLines, List.flatMap_append, document_eq]
    congr 2
    rw [List.flatMap_assoc]
    congr 1
    funext b
    rw [document_eq]
    rfl

theorem newline_notMem_streamLines {comments : List String} {bs : List Block}
    (hcomments : ∀ c ∈ comments, isComment c = true) (hbs : ∀ b ∈ bs, b.WellFormed) :
    ∀ l ∈ streamLines comments bs, '\n' ∉ l := by
  have hdocument (b : Block) (hb : b ∈ bs) : ∀ l ∈ documentLines b, '\n' ∉ l := by
    intro l hl
    simp only [documentLines, List.cons_append, List.nil_append, List.mem_cons, List.mem_map] at hl
    rcases hl with rfl | rfl | ⟨e, he, rfl⟩
    · simp
    · decide
    · exact newline_notMem_lineOf (wellFormed_entries (hbs b hb).wellKeyed (hbs b hb).texts 0 e he)
  intro l hl
  rcases List.mem_append.mp hl with hl | hl
  · obtain ⟨c, hc, rfl⟩ := List.mem_map.mp hl
    have hcomment := hcomments c hc
    rw [isComment, Bool.and_eq_true, List.all_eq_true] at hcomment
    exact fun hmem => absurd (hcomment.2 _ hmem) (by decide)
  cases bs with
  | nil => cases hl
  | cons b bs =>
    rcases List.mem_append.mp hl with hl | hl
    · exact hdocument b (List.mem_cons_self ..) l hl
    · obtain ⟨b', hb', hl⟩ := List.mem_flatMap.mp hl
      rcases List.mem_cons.mp hl with rfl | hl
      · simp
      rcases List.mem_cons.mp hl with rfl | hl
      · decide
      · exact hdocument b' (List.mem_cons_of_mem _ hb') l hl

theorem collect_append_entries (es : List (ℕ × Entry)) (ls : List Line) :
    collect (es.map (fun e => .entry e.1 e.2) ++ ls) = (es ++ (collect ls).1, (collect ls).2) := by
  induction es with
  | nil => rfl
  | cons e es ih => rw [List.map_cons, List.cons_append, collect, ih, List.cons_append]

theorem parse_documentLines {b : Block} (hb : b.WellFormed) :
    (documentLines b).map parseLine = [.other, .start] ++ (b.entries 0).map fun e => .entry e.1 e.2 := by
  have hentries : ((b.entries 0).map lineOf).map parseLine = (b.entries 0).map fun e => .entry e.1 e.2 := by
    rw [List.map_map]
    exact List.map_congr_left fun e he => parseLine_entry (wellFormed_entries hb.wellKeyed hb.texts 0 e he)
  rw [documentLines, List.map_append, hentries]
  rfl

theorem collect_documentLines {b : Block} (hb : b.WellFormed) (ls : List Line) :
    collect ((documentLines b).map parseLine ++ ls) =
      ([], (b.entries 0 ++ (collect ls).1) :: (collect ls).2) := by
  rw [parse_documentLines hb]
  simp only [List.cons_append, List.nil_append, collect, collect_append_entries]

theorem collect_comments {comments : List String} (h : ∀ c ∈ comments, isComment c = true) (ls : List Line) :
    collect ((comments.map String.toList).map parseLine ++ ls) = collect ls := by
  induction comments with
  | nil => rfl
  | cons c comments ih =>
    have hc : parseLine c.toList = .other := by
      have hhead : c.toList.head? = some '#' := by
        have hc := h c (List.mem_cons_self ..)
        rw [isComment, Bool.and_eq_true] at hc
        exact eq_of_beq hc.1
      have hmark : c.toList ≠ "---".toList := by
        intro heq
        rw [heq] at hhead
        cases hhead
      rw [parseLine, if_neg hmark, if_pos hhead]
    rw [List.map_cons, List.map_cons, List.cons_append, hc, collect]
    exact ih fun c hc => h c (List.mem_cons_of_mem _ hc)

/-- Every document is found, whatever ends the stream. -/
theorem collect_streamLines {comments : List String} {bs : List Block}
    (hcomments : ∀ c ∈ comments, isComment c = true) (hbs : ∀ b ∈ bs, b.WellFormed) :
    (collect ((streamLines comments bs ++ [[]]).map parseLine)).2 = bs.map (Block.entries 0) := by
  have hmore (bs : List Block) (hbs : ∀ b ∈ bs, b.WellFormed) :
      collect ((bs.flatMap fun b => [] :: "...".toList :: documentLines b).map parseLine ++ [.other]) =
        ([], bs.map (Block.entries 0)) := by
    induction bs with
    | nil => rfl
    | cons b bs ih =>
      have hblank : parseLine [] = .other := by decide
      have hend : parseLine "...".toList = .other := by decide
      rw [List.flatMap_cons, List.map_append, List.append_assoc]
      simp only [List.map_cons, List.cons_append, hblank, hend, collect]
      rw [collect_documentLines (hbs b (List.mem_cons_self ..)),
        ih fun b hb => hbs b (List.mem_cons_of_mem _ hb)]
      simp
  rw [streamLines, List.append_assoc, List.map_append, collect_comments hcomments, List.map_append]
  cases bs with
  | nil => rfl
  | cons b bs =>
    rw [documentsLines, List.map_append, List.append_assoc,
      collect_documentLines (hbs b (List.mem_cons_self ..))]
    show ((b.entries 0 ++ (collect (_ ++ [.other])).1) :: (collect (_ ++ [.other])).2) = _
    rw [hmore bs fun b hb => hbs b (List.mem_cons_of_mem _ hb)]
    simp

/-! ## Nesting -/

theorem nest_entries (b : Block) {level : ℕ} (fuel : ℕ) {more : List (ℕ × Entry)}
    (hmore : ∀ e ∈ more.head?, e.1 < level) (hfuel : (b.entries level).length < fuel) :
    nest fuel level (b.entries level ++ more) = (b, more) := by
  induction b generalizing level fuel more with
  | nil =>
    obtain ⟨fuel, rfl⟩ : ∃ k, fuel = k + 1 := ⟨fuel - 1, by omega⟩
    cases more with
    | nil => rfl
    | cons e more =>
      have hlt : e.1 < level := hmore e rfl
      simp [Block.entries, nest, Nat.ne_of_lt hlt]
  | scalar key text rest ih =>
    obtain ⟨fuel, rfl⟩ : ∃ k, fuel = k + 1 := ⟨fuel - 1, by omega⟩
    have hrest := ih fuel hmore (by simpa [Block.entries] using hfuel)
    simp [Block.entries, nest, hrest]
  | seq key items rest ih =>
    obtain ⟨fuel, rfl⟩ : ∃ k, fuel = k + 1 := ⟨fuel - 1, by omega⟩
    have hrest := ih fuel hmore (by simpa [Block.entries] using hfuel)
    simp [Block.entries, nest, hrest]
  | map key inner rest ihinner ih =>
    obtain ⟨fuel, rfl⟩ : ∃ k, fuel = k + 1 := ⟨fuel - 1, by omega⟩
    simp only [Block.entries, List.length_cons, List.length_append] at hfuel
    -- What follows the inner block is the rest of the outer one, a level up, or what follows both.
    have hbehind : ∀ e ∈ (rest.entries level ++ more).head?, e.1 < level + 1 := by
      intro e he
      cases rest <;> simp [Block.entries] at he
      · have := hmore e he
        omega
      all_goals
        subst he
        exact Nat.lt_succ_self level
    have hinner := ihinner fuel hbehind (by omega)
    have hrest := ih fuel hmore (by omega)
    simp [Block.entries, nest, hinner, hrest]

/-! ## Numbers read back -/

theorem parseNat_toDigits (n : ℕ) : parseNat (Nat.toDigits 10 n) = some n := by
  have hdigits : ∀ c ∈ Nat.toDigits 10 n, c.isDigit = true := fun c hc =>
    Nat.isDigit_of_mem_toDigits (by decide) (by decide) hc
  have hvalue : Nat.toDigits 10 n ≠ [] ∧ (Nat.toDigits 10 n).all Char.isDigit = true :=
    ⟨Nat.toDigits_ne_nil, List.all_eq_true.mpr hdigits⟩
  unfold parseNat
  split
  · rename_i cs heq
    have hx := hdigits 'x' (by simp [heq])
    exact absurd hx (by decide)
  · rw [if_pos hvalue, Nat.ofDigitChars_ten_toDigits]

theorem foldl_hexDigit (n : ℕ) :
    ((Nat.toDigits 16 n).map Char.toUpper).foldl (fun n c => 16 * n + hexDigit c) 0 = n := by
  have hdigit : ∀ d < 16, hexDigit (Nat.digitChar d).toUpper = d := by decide
  induction n using Nat.strong_induction_on with
  | _ n ih =>
    rw [Nat.toDigits_eq_if (by decide)]
    split
    · rename_i hlt
      simp [hdigit n hlt]
    · rename_i hle
      rw [List.map_append, List.foldl_append, ih (n / 16) (by omega)]
      simp only [List.map_cons, List.map_nil, List.foldl_cons, List.foldl_nil,
        hdigit (n % 16) (Nat.mod_lt _ (by decide))]
      omega

theorem parseNat_hexadecimal (n : ℕ) : parseNat (hexadecimal n).toList = some n := by
  have hlist : (hexadecimal n).toList = '0' :: 'x' :: (Nat.toDigits 16 n).map Char.toUpper := by
    simp [hexadecimal]
  rw [hlist, parseNat, foldl_hexDigit]

theorem parseInt_toString (i : ℤ) : parseInt (toString i).toList = some i := by
  cases i with
  | ofNat n =>
    have hlist : (toString (Int.ofNat n)).toList = Nat.toDigits 10 n := Nat.toList_repr
    rw [hlist]
    unfold parseInt
    split
    · rename_i cs heq
      have hminus := Nat.isDigit_of_mem_toDigits (b := 10) (n := n) (c := '-') (by decide) (by decide)
        (by rw [heq]; exact List.mem_cons_self ..)
      exact absurd hminus (by decide)
    · rw [parseNat_toDigits]
      rfl
  | negSucc n =>
    have hlist : (toString (Int.negSucc n)).toList = '-' :: Nat.toDigits 10 (n + 1) := by
      show ("-" ++ Nat.repr (n + 1)).toList = _
      simp
    rw [hlist, parseInt, parseNat_toDigits]
    rfl

namespace Loader

theorem asUnsigned_of_parseNat {text : String} {n : ℕ} (h : parseNat text.toList = some n) (hn : n < 2 ^ 32) :
    lineByLine.asUnsigned text = some (UInt32.ofNat n) := by
  show (parseNat text.toList).bind _ = _
  rw [h, Option.bind_some, within, if_pos hn]

theorem withinInt_of_parseInt {α : Type} {text : String} {i n : ℤ} {f : ℤ → α}
    (h : parseInt text.toList = some i) (hmin : -n ≤ i) (hmax : i < n) :
    (parseInt text.toList).bind (withinInt n f) = some (f i) := by
  rw [h, Option.bind_some, withinInt, if_pos ⟨hmin, hmax⟩]

/-- **The assumption about the library can be met.** -/
theorem documented_lineByLine : lineByLine.Documented where
  loadAll_stream comments bs hcomments hbs := by
    show some _ = some _
    rw [stream_eq, splitOn_lines (newline_notMem_streamLines hcomments hbs),
      collect_streamLines hcomments hbs, List.map_map]
    congr 1
    apply List.map_congr_left
    intro b hb
    have hnest : nest ((b.entries 0).length + 1) 0 (b.entries 0 ++ []) = (b, []) :=
      nest_entries b _ (by simp) (Nat.lt_succ_self _)
    rw [List.append_nil] at hnest
    simp [hnest]
  asUnsigned_decimal n hn := by
    apply asUnsigned_of_parseNat _ hn
    have hlist : (toString n).toList = Nat.toDigits 10 n := Nat.toList_repr
    rw [hlist, parseNat_toDigits]
  asUnsigned_hexadecimal n hn := asUnsigned_of_parseNat (parseNat_hexadecimal n) hn
  asUnsignedLong_decimal n hn := by
    have hlist : (toString n).toList = Nat.toDigits 10 n := Nat.toList_repr
    show (parseNat (toString n).toList).bind _ = _
    rw [hlist, parseNat_toDigits, Option.bind_some, within, if_pos hn]
  asInt_decimal i hmin hmax := withinInt_of_parseInt (parseInt_toString i) hmin hmax
  asShort_decimal i hmin hmax := withinInt_of_parseInt (parseInt_toString i) hmin hmax
  asFloat_fixedPoint n _ := by
    have hpoint : (fixedPoint n).toList.contains '.' = true := by
      simp [fixedPoint]
    show ((parseFixed (fixedPoint n).toList).map nearestFloat).isSome = true
    rw [parseFixed, if_pos hpoint]
    rfl

theorem parseNat_of_minus {t : List Char} (h : t.head? = some '-') : parseNat t = none := by
  obtain ⟨cs, rfl⟩ := List.head?_eq_some_iff.mp h
  have hdigits : ¬ ('-' :: cs ≠ [] ∧ ('-' :: cs).all Char.isDigit = true) := by
    rintro ⟨-, hall⟩
    exact absurd (List.all_eq_true.mp hall '-' List.mem_cons_self) (by decide)
  unfold parseNat
  split
  · rename_i heq
    cases heq
  · rw [if_neg hdigits]

theorem rejectsMinus_lineByLine : lineByLine.RejectsMinus where
  asUnsigned text h := by
    show (parseNat text.toList).bind _ = none
    rw [parseNat_of_minus h, Option.bind_none]
  asUnsignedLong text h := by
    show (parseNat text.toList).bind _ = none
    rw [parseNat_of_minus h, Option.bind_none]

end Loader

end VhalClient.Lib.Yaml
