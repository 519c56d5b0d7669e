/-
# VhalClient.Emulator.PrintedNumbers — unsigned numbers in the log.

The logger prints the unsigned members of its structs with `%d` and `%ld`; the parser reads them with
`as<unsigned int>` and `as<unsigned long>`.  From half of the range on the text has a minus sign, and a YAML
library that does not take a minus for an unsigned number throws.  So a number is read back exactly when it is in
the lower half of its range, and otherwise none is (`asUnsigned_fmtWord_eq`, `asUnsignedLong_fmtLong_eq`).

The second part says so of the structs: of the text that is printed for one, and what is decoded of the node
that the library makes of it.
-/
import VhalClient.Lib.YamlLoader
import VhalClient.Emulator.Decoding

namespace VhalClient.Emulator

open VhalClient.Lib VhalClient.Lib.Yaml VhalClient.Display

/-! ## Numbers -/

theorem head_toString_of_neg {i : ℤ} (h : i < 0) : (toString i).toList.head? = some '-' := by
  cases i with
  | ofNat n => exact absurd h (Int.not_lt.mpr (Int.natCast_nonneg n))
  | negSucc n =>
    show ("-" ++ Nat.repr (n + 1)).toList.head? = some '-'
    simp

/-- A word is negative from half of its range on. -/
theorem toInt_neg_of_large {n : ℕ} {v : BitVec n} (h : ¬ 2 * v.toNat < 2 ^ n) : v.toInt < 0 := by
  have hlt : v.toNat < 2 ^ n := v.isLt
  rw [BitVec.toInt_eq_toNat_cond, if_neg h]
  omega

theorem toInt_toInt32_neg {w : UInt32} (h : ¬ w.toNat < 2 ^ 31) : w.toInt32.toInt < 0 := by
  apply toInt_neg_of_large (v := w.toBitVec)
  rw [UInt32.toNat_toBitVec]
  omega

theorem toInt_toInt64_neg {w : UInt64} (h : ¬ w.toNat < 2 ^ 63) : w.toInt64.toInt < 0 := by
  apply toInt_neg_of_large (v := w.toBitVec)
  rw [UInt64.toNat_toBitVec]
  omega

section Read

variable {y : Loader} (hy : y.ReadsDecimals) (hminus : y.RejectsMinus)
include hy hminus

/-- A number printed with `%d` is read back as itself, or it is not read. -/
theorem asUnsigned_fmtWord_eq (w : UInt32) :
    y.asUnsigned (fmtWord w) = if w.toNat < 2 ^ 31 then some w else none := by
  split
  · rename_i hsmall
    exact asUnsigned_fmtWord hy hsmall
  · rename_i hlarge
    exact hminus.asUnsigned _ (head_toString_of_neg (toInt_toInt32_neg hlarge))

theorem asUnsignedLong_fmtLong_eq (w : UInt64) :
    y.asUnsignedLong (fmtLong w) = if w.toNat < 2 ^ 63 then some w else none := by
  split
  · rename_i hsmall
    exact asUnsignedLong_fmtLong hy hsmall
  · rename_i hlarge
    exact hminus.asUnsignedLong _ (head_toString_of_neg (toInt_toInt64_neg hlarge))

end Read

/-! ## Structs -/

/-- A document that holds the text of one struct. -/
def documentOf (text : List Char) : List Char := line 0 "\n---" ++ text

/-- The header that is decoded of such a document. -/
def readDisplayEvent (y : Loader) (text : List Char) : Option DisplayEvent := do
  let nodes ← y.loadAll (documentOf text)
  let node ← nodes.head?
  let (_, ev) ← decodeDisplayEvent y (node.get "display_event_t") (zeroed Layout.displayEvent)
  return ev

def readBufferInfo (y : Loader) (text : List Char) : Option BufferInfo := do
  let nodes ← y.loadAll (documentOf text)
  let node ← nodes.head?
  let (_, info) ← decodeBufferInfo y (node.get "buffer_info_t") (zeroed Layout.bufferInfo)
  return info

theorem loadAll_documentOf {y : Loader} (hy : y.Documented) {b : Block} (hb : b.WellFormed) :
    y.loadAll (documentOf (b.print 0)) = some [.map b] := by
  have hstream : stream [] [b] = documentOf (b.print 0) := by
    simp [stream, documents, document, documentOf]
  rw [← hstream, hy.loadAll_stream [] [b] (by simp) (by simpa using hb)]
  rfl

section Read

variable {y : Loader} (hy : y.Documented) (hminus : y.RejectsMinus)
include hy hminus

theorem decodeDisplayEvent_tree_eq (ev : DisplayEvent) (rest : Block) (init : DisplayEvent) :
    decodeDisplayEvent y ((Tree.displayEvent ev rest).get "display_event_t") init =
      if ev.size.toNat < 2 ^ 31 ∧ ev.id.toNat < 2 ^ 31 ∧ ev.renderNode.toNat < 2 ^ 31 then some (true, ev)
      else none := by
  split
  · rename_i hsmall
    exact decodeDisplayEvent_tree hy ⟨hsmall.1, hsmall.2.1, hsmall.2.2⟩ rest init
  · rename_i hlarge
    simp only [decodeDisplayEvent, Tree.displayEvent, Block.get, if_true, Node.isMap, Bool.true_eq_false, if_false,
      Node.get, get_fields_cons, unsigned, Loader.scalarAs, String.reduceEq, asUnsigned_fmtHex hy,
      asUnsigned_fmtWord_eq hy.toReadsDecimals hminus]
    -- Reading stops at the first of the three that is too large.
    by_cases hsize : ev.size.toNat < 2 ^ 31
    · by_cases hid : ev.id.toNat < 2 ^ 31
      · have hrender : ¬ ev.renderNode.toNat < 2 ^ 31 := fun h => hlarge ⟨hsize, hid, h⟩
        rw [if_pos hsize, if_pos hid, if_neg hrender]
        rfl
      · rw [if_pos hsize, if_neg hid]
        rfl
    · rw [if_neg hsize]
      rfl

theorem decodeBufferInfo_tree_eq (info : BufferInfo) (rest : Block) (init : BufferInfo) :
    decodeBufferInfo y ((Tree.bufferInfo info rest).get "buffer_info_t") init =
      if info.remoteHandle.toNat < 2 ^ 63 then some (true, info) else none := by
  split
  · rename_i hsmall
    exact decodeBufferInfo_tree hy hsmall rest init
  · rename_i hlarge
    simp only [decodeBufferInfo, Tree.bufferInfo, Block.get, if_true, Node.isMap, Bool.true_eq_false, if_false,
      Node.get, get_fields_cons, unsignedLong, Loader.scalarAs, String.reduceEq,
      asUnsignedLong_fmtLong_eq hy.toReadsDecimals hminus, if_neg hlarge]
    rfl

theorem readDisplayEvent_eq (ev : DisplayEvent) :
    readDisplayEvent y (ProfileLogger.addDisplayEventStruct ev 0) =
      if ev.size.toNat < 2 ^ 31 ∧ ev.id.toNat < 2 ^ 31 ∧ ev.renderNode.toNat < 2 ^ 31 then some ev else none := by
  have hformed : (Tree.displayEvent ev .nil).WellFormed :=
    ⟨Tree.wellKeyed_displayEvent .nil ev, Tree.plain_displayEvent ev Tree.plain_nil, List.cons_ne_nil _ _,
      by simp [Block.depth]⟩
  have htext : (Tree.displayEvent ev .nil).print 0 = ProfileLogger.addDisplayEventStruct ev 0 := by
    rw [Tree.print_displayEvent, Block.print, List.append_nil]
  have hread : readDisplayEvent y (ProfileLogger.addDisplayEventStruct ev 0) =
      (decodeDisplayEvent y ((Tree.displayEvent ev .nil).get "display_event_t")
        (zeroed Layout.displayEvent)).bind fun r => some r.2 := by
    rw [readDisplayEvent, ← htext, loadAll_documentOf hy hformed]
    rfl
  rw [hread, decodeDisplayEvent_tree_eq hy hminus]
  split <;> rfl

theorem readBufferInfo_eq (info : BufferInfo) :
    readBufferInfo y (ProfileLogger.addBufferInfoStruct info 0) =
      if info.remoteHandle.toNat < 2 ^ 63 then some info else none := by
  have hformed : (Tree.bufferInfo info .nil).WellFormed :=
    ⟨Tree.wellKeyed_bufferInfo .nil info, Tree.plain_bufferInfo info Tree.plain_nil, List.cons_ne_nil _ _,
      by simp [Block.depth]⟩
  have htext : (Tree.bufferInfo info .nil).print 0 = ProfileLogger.addBufferInfoStruct info 0 := by
    rw [Tree.print_bufferInfo, Block.print, List.append_nil]
  have hread : readBufferInfo y (ProfileLogger.addBufferInfoStruct info 0) =
      (decodeBufferInfo y ((Tree.bufferInfo info .nil).get "buffer_info_t")
        (zeroed Layout.bufferInfo)).bind fun r => some r.2 := by
    rw [readBufferInfo, ← htext, loadAll_documentOf hy hformed]
    rfl
  rw [hread, decodeBufferInfo_tree_eq hy hminus]
  split <;> rfl

end Read

/-- **The numbers of a header and a remote handle are read back from the log exactly when they are in the lower
half of their ranges.** For the numbers by themselves only the conversions to unsigned types matter; the rest is
about the texts of the structs. -/
theorem reads_back_iff {y : Loader} (hy : y.ReadsDecimals) (hminus : y.RejectsMinus) :
    (∀ w : UInt32, y.asUnsigned (fmtWord w) = some w ↔ w.toNat < 2 ^ 31) ∧
    (∀ w : UInt64, y.asUnsignedLong (fmtLong w) = some w ↔ w.toNat < 2 ^ 63) ∧
    (y.Documented →
      (∀ ev : DisplayEvent, readDisplayEvent y (ProfileLogger.addDisplayEventStruct ev 0) = some ev ↔
        ev.size.toNat < 2 ^ 31 ∧ ev.id.toNat < 2 ^ 31 ∧ ev.renderNode.toNat < 2 ^ 31) ∧
      (∀ info : BufferInfo, readBufferInfo y (ProfileLogger.addBufferInfoStruct info 0) = some info ↔
        info.remoteHandle.toNat < 2 ^ 63)) := by
  refine ⟨?_, ?_, fun hdocumented => ⟨?_, ?_⟩⟩
  · intro w
    rw [asUnsigned_fmtWord_eq hy hminus]
    simp
  · intro w
    rw [asUnsignedLong_fmtLong_eq hy hminus]
    simp
  · intro ev
    rw [readDisplayEvent_eq hdocumented hminus]
    simp
  · intro info
    rw [readBufferInfo_eq hdocumented hminus]
    simp

/-- The loader of `YamlLoader` reads the handle 5. -/
theorem reads_back_five :
    Loader.lineByLine.asUnsignedLong (fmtLong 5) = some 5 ∧
      readBufferInfo Loader.lineByLine (ProfileLogger.addBufferInfoStruct ⟨5⟩ 0) = some ⟨5⟩ := by
  obtain ⟨-, hlong, hstructs⟩ := reads_back_iff Loader.documented_lineByLine.toReadsDecimals
    Loader.rejectsMinus_lineByLine
  exact ⟨(hlong 5).mpr (by decide), ((hstructs Loader.documented_lineByLine).2 ⟨5⟩).mpr (by decide)⟩

/-- The least handle that is printed with a minus sign. -/
theorem not_reads_back_minus :
    ¬ ∀ y : Loader, y.ReadsDecimals → y.RejectsMinus → ∀ w : UInt64, y.asUnsignedLong (fmtLong w) = some w := by
  intro hall
  have hreads := Loader.documented_lineByLine.toReadsDecimals
  have hread := hall Loader.lineByLine hreads Loader.rejectsMinus_lineByLine 0x8000000000000000
  rw [asUnsignedLong_fmtLong_eq hreads Loader.rejectsMinus_lineByLine, if_neg (by decide)] at hread
  cases hread

end VhalClient.Emulator
