/-
# VhalClient.Camera.Framing — the talker and the boundaries of the camera's packets.

A packet of the camera VHAL is a header with a type and a size and as many bytes as the size says.  The talker
reads the header and then, by the type alone, a struct of fixed size or nothing.  Here the stream is any list
of packets, of any types and sizes, that arrives in one piece, and `framed_iff_consumes` says exactly when
every header the talker reads begins a packet: when the struct of each packet it meets is as long as the
payload, or as the payload and some whole packets behind it, or nearly the whole rest of the stream.
-/
import VhalClient.Lib.Framing
import VhalClient.Lib.Run
import VhalClient.Camera.VideoSink

namespace VhalClient.Camera

open VhalClient.Lib
open VhalClient.CommandChannel (Poll Ending)

/-! ## Packets -/

/-- A packet of any type, with the size it has. -/
structure RawPacket where
  type : UInt32
  payload : List UInt8
  sizeFits : payload.length < 2 ^ 32

/-- How many bytes the talker reads behind a header, by the header's type. -/
def structSize (type : UInt32) : ℕ :=
  if type = capability then Layout.cameraCapability.size
  else if type = ack then Layout.cameraAck.size
  else if type = cameraConfig then Layout.cameraConfigCmd.size
  else 0

namespace RawPacket

def header (p : RawPacket) : CameraHeader := ⟨p.type, UInt32.ofNat p.payload.length⟩

def wire (p : RawPacket) : List UInt8 := Layout.cameraHeader.write p.header ++ p.payload

/-- The size in the header is the number of bytes behind it. -/
theorem toNat_size (p : RawPacket) : p.header.size.toNat = p.payload.length :=
  UInt32.toNat_ofNat_of_lt' p.sizeFits

/-- What the talker reads behind the header ends where a packet ends, or leaves too little for a header. -/
def Consumed (behind : List RawPacket) (p : RawPacket) : Prop :=
  (∃ k, structSize p.type = p.payload.length + ((behind.take k).flatMap wire).length) ∨
    p.payload.length + (behind.flatMap wire).length < structSize p.type + 8

theorem length_wire (p : RawPacket) : p.wire.length = 8 + p.payload.length := by
  rw [wire, List.length_append, Layout.cameraHeader.length_write]
  rfl

end RawPacket

/-! ## Reads from a stream in one piece -/

theorem recvStruct_whole (client : SocketClient) {n : ℕ} (hpos : 0 < n) (l : List UInt8) :
    recvStruct client n (Feed.whole l) = (l.take n, decide (n ≤ l.length), Feed.whole (l.drop n)) := by
  obtain ⟨k, rfl⟩ : ∃ k, n = k + 1 := ⟨n - 1, by omega⟩
  rw [recvStruct, recvPacket_eq]
  cases l with
  | nil => simp [Feed.whole, Feed.push, Feed.recv]
  | cons b bs =>
    simp [Feed.whole, Feed.push, Feed.recv]

namespace Talker

variable (client : SocketClient)

theorem closed_iff (n : ℕ) (l : List UInt8) (p : Packet) :
    (if decide (n ≤ l.length) = true then Outcome.handled p else .closed) = .closed ↔ l.length < n := by
  split
  · rename_i hle
    simpa using hle
  · rename_i hle
    simpa using hle

/-- What a `switch` over the type leaves of the stream. -/
theorem dispatch_whole (type : UInt32) {t : Talker} {l : List UInt8} (hfeed : t.feed = Feed.whole l) :
    ((t.dispatch client type).1 = .closed ↔ l.length < structSize type) ∧
      (t.dispatch client type).2.feed = Feed.whole (l.drop (structSize type)) := by
  have hcapability : 0 < Layout.cameraCapability.size := Nat.zero_lt_succ _
  have hack : 0 < Layout.cameraAck.size := Nat.zero_lt_succ _
  have hconfig : 0 < Layout.cameraConfigCmd.size := Nat.zero_lt_succ _
  unfold dispatch structSize
  split
  · rw [handleCapability, hfeed, recvStruct_whole client hcapability]
    exact ⟨closed_iff _ l _, rfl⟩
  · split
    · rw [handleAck, hfeed, recvStruct_whole client hack]
      exact ⟨closed_iff _ l _, rfl⟩
    · split
      · rw [handleCmd, hfeed, recvStruct_whole client hconfig]
        exact ⟨closed_iff _ l _, rfl⟩
      · exact ⟨by simp, by simpa using hfeed⟩

/-! ## One poll -/

/-- One poll of the loop: the talker of the connection, or nothing when it is given up. -/
def turn (t : Option Talker) (poll : Poll) : Option Talker :=
  t.bind fun t =>
    match poll with
    | .failed => none
    | .timeout => some t
    | .other => some t
    | .hangup => none
    | .readable =>
      match t.onReadable client with
      | (.closed, _) => none
      | (_, t) => some t

theorem turn_none (polls : List Poll) : polls.foldl (turn client) none = none := by
  induction polls with
  | nil => rfl
  | cons poll polls ih => exact ih

/-- The loop of a connection is made of these polls: it stands in its `poll` exactly when none gave up. -/
theorem serve_polling_iff (polls : List Poll) (t : Talker) :
    (serve client polls t).2 = .polling ↔ polls.foldl (turn client) (some t) ≠ none := by
  induction polls generalizing t with
  | nil => simp [serve]
  | cons poll polls ih =>
    rw [List.foldl_cons]
    cases poll with
    | failed => simp [serve, turn, turn_none]
    | timeout => exact ih t
    | other => exact ih t
    | hangup => simp [serve, turn, turn_none]
    | readable =>
      simp only [serve, turn, Option.bind_some]
      rcases t.onReadable client with ⟨_ | _ | _, t'⟩
      · exact ih t'
      · exact ih t'
      · simp [turn_none]

/-- The talker stands where a packet begins, if there is a header for it to read. -/
def AtPacket (packets : List RawPacket) (t : Talker) : Prop :=
  ∃ left, t.feed = Feed.whole left ∧ (8 ≤ left.length → AtBoundary RawPacket.wire packets left)

theorem atPacket_iff {packets : List RawPacket} {t : Talker} {left : List UInt8}
    (hfeed : t.feed = Feed.whole left) :
    t.AtPacket packets ↔ (8 ≤ left.length → AtBoundary RawPacket.wire packets left) := by
  constructor
  · rintro ⟨left', hleft, hbound⟩
    -- A stream in one piece is known by its bytes.
    have hbytes := congrArg Feed.bytes (hleft.symm.trans hfeed)
    rw [Feed.bytes_whole, Feed.bytes_whole] at hbytes
    rwa [hbytes] at hbound
  · intro hbound
    exact ⟨left, hfeed, hbound⟩

/-- Too little for a header: the connection is given up. -/
theorem turn_of_short {t : Talker} {left : List UInt8} (hfeed : t.feed = Feed.whole left)
    (hshort : left.length < 8) : turn client (some t) .readable = none := by
  have hread : recvStruct client Layout.cameraHeader.size t.feed =
      (left.take 8, decide (8 ≤ left.length), Feed.whole (left.drop 8)) := by
    rw [hfeed]
    exact recvStruct_whole client (Nat.zero_lt_succ 7) left
  have hok : decide (8 ≤ left.length) = false := by simpa using hshort
  simp only [turn, Option.bind_some, onReadable, hread, hok]
  rfl

variable {packets behind : List RawPacket} {p : RawPacket} {t : Talker}

/-- A readable poll in front of a packet: the struct does not fit in the stream, or it is taken off. -/
theorem turn_of_packet (hfeed : t.feed = Feed.whole ((p :: behind).flatMap RawPacket.wire)) :
    (p.payload.length + (behind.flatMap RawPacket.wire).length < structSize p.type ∧
        turn client (some t) .readable = none) ∨
      (structSize p.type ≤ p.payload.length + (behind.flatMap RawPacket.wire).length ∧
        ∃ t', turn client (some t) .readable = some t' ∧
          t'.feed = Feed.whole (((p :: behind).flatMap RawPacket.wire).drop (8 + structSize p.type))) := by
  let rest := p.payload ++ behind.flatMap RawPacket.wire
  have hstream : (p :: behind).flatMap RawPacket.wire = Layout.cameraHeader.write p.header ++ rest := by
    rw [List.flatMap_cons, RawPacket.wire, List.append_assoc]
  have hsize : (Layout.cameraHeader.write p.header).length = 8 := Layout.cameraHeader.length_write _
  have hread : recvStruct client Layout.cameraHeader.size t.feed =
      (Layout.cameraHeader.write p.header, true, Feed.whole rest) := by
    rw [hfeed, hstream]
    refine (recvStruct_whole client (Nat.zero_lt_succ 7) _).trans ?_
    rw [List.take_left' hsize, List.drop_left' hsize, List.length_append, hsize]
    simp
  have htype : (Layout.cameraHeader.read (Layout.cameraHeader.write p.header)).type = p.type := by
    rw [Layout.cameraHeader.read_write, RawPacket.header]
  obtain ⟨hclosed, hdrop⟩ := dispatch_whole client p.type (t := { t with feed := Feed.whole rest }) rfl
  have hturn : turn client (some t) .readable =
      match ({ t with feed := Feed.whole rest } : Talker).dispatch client p.type with
      | (.closed, _) => none
      | (_, t) => some t := by
    simp only [turn, Option.bind_some, onReadable, hread, if_true, htype]
  have hrest : rest.length = p.payload.length + (behind.flatMap RawPacket.wire).length := List.length_append
  have hskip : rest.drop (structSize p.type) =
      ((p :: behind).flatMap RawPacket.wire).drop (8 + structSize p.type) := by
    rw [hstream, ← List.drop_drop, List.drop_left' hsize]
  rw [hturn]
  rw [hrest] at hclosed
  rw [hskip] at hdrop
  rcases hdispatch : ({ t with feed := Feed.whole rest } : Talker).dispatch client p.type with ⟨outcome, t'⟩
  rw [hdispatch] at hclosed hdrop
  cases outcome with
  | closed => exact Or.inl ⟨hclosed.mp rfl, rfl⟩
  | handled q =>
    refine Or.inr ⟨?_, t', rfl, hdrop⟩
    by_contra hshort
    cases hclosed.mpr (by omega)
  | invalid =>
    refine Or.inr ⟨?_, t', rfl, hdrop⟩
    by_contra hshort
    cases hclosed.mpr (by omega)

/-- A readable poll in front of a packet leaves the talker in front of one exactly when what it read is
as long as packets are. -/
theorem atPacket_turn_packet_iff (hsuffix : p :: behind <:+ packets)
    (hfeed : t.feed = Feed.whole ((p :: behind).flatMap RawPacket.wire)) :
    (∀ t', turn client (some t) .readable = some t' → t'.AtPacket packets) ↔ p.Consumed behind := by
  have hwire := p.length_wire
  have htotal : ((p :: behind).flatMap RawPacket.wire).length =
      8 + p.payload.length + (behind.flatMap RawPacket.wire).length := by
    rw [List.flatMap_cons, List.length_append, hwire]
  rcases turn_of_packet client hfeed with ⟨hshort, hnone⟩ | ⟨hfits, t', hsome, hleft⟩
  · rw [hnone]
    refine iff_of_true (fun t' ht' => ?_) (Or.inr (by omega))
    cases ht'
  · have hnext : (∀ u, turn client (some t) .readable = some u → u.AtPacket packets) ↔
        t'.AtPacket packets := by
      rw [hsome]
      simp
    rw [hnext, atPacket_iff hleft, atBoundary_drop_iff_take hsuffix (by omega) (by omega), List.length_drop,
      htotal, hwire, RawPacket.Consumed]
    constructor
    · intro h
      by_cases hlong : 8 ≤ 8 + p.payload.length + (behind.flatMap RawPacket.wire).length - (8 + structSize p.type)
      · obtain ⟨k, hk⟩ := h hlong
        exact Or.inl ⟨k, by omega⟩
      · exact Or.inr (by omega)
    · rintro (⟨k, hk⟩ | hend) hlong
      · exact ⟨k, by omega⟩
      · omega

/-! ## A connection -/

/-- A readable poll that finds a packet consumes it. -/
def Consumes (packets : List RawPacket) : Option Talker → Poll → Prop
  | some t, .readable => ∀ p behind, p :: behind <:+ packets →
    t.feed = Feed.whole ((p :: behind).flatMap RawPacket.wire) → p.Consumed behind
  | _, _ => True

/-- The talker of a connection, while there is one, stands where a packet begins. -/
def Framed (packets : List RawPacket) (link : Option Talker) : Prop := ∀ t, link = some t → t.AtPacket packets

theorem framed_turn_iff (packets : List RawPacket) (link : Option Talker) (poll : Poll)
    (h : Framed packets link) : Framed packets (turn client link poll) ↔ Consumes packets link poll := by
  cases link with
  | none => exact iff_of_true (fun t ht => by cases ht) trivial
  | some t =>
    cases poll with
    | failed => exact iff_of_true (fun t ht => by cases ht) trivial
    | timeout => exact iff_of_true h trivial
    | other => exact iff_of_true h trivial
    | hangup => exact iff_of_true (fun t ht => by cases ht) trivial
    | readable =>
      constructor
      · intro hnext p behind hsuffix hfeed
        exact (atPacket_turn_packet_iff client hsuffix hfeed).mp hnext
      · intro hconsumes
        obtain ⟨left, hfeed, hbound⟩ := h t rfl
        by_cases hlong : 8 ≤ left.length
        · obtain ⟨ns, hns, rfl⟩ := exists_suffix_of_atBoundary (hbound hlong)
          cases ns with
          | nil => simp at hlong
          | cons p behind =>
            exact (atPacket_turn_packet_iff client hns hfeed).mpr (hconsumes p behind hns hfeed)
        · intro t' ht'
          rw [turn_of_short client hfeed (by omega)] at ht'
          cases ht'

/-- **Every header begins a packet exactly when every packet is consumed.** The stream of a connection is any
list of packets and the results of the polls are any. -/
theorem framed_iff_consumes (packets : List RawPacket) (caps : CameraCapability) (polls : List Poll) :
    (∀ link ∈ polls.scanl (turn client) (some ⟨caps, Feed.whole (packets.flatMap RawPacket.wire)⟩),
        Framed packets link) ↔
      Along (turn client) (Consumes packets)
        (some ⟨caps, Feed.whole (packets.flatMap RawPacket.wire)⟩) polls := by
  refine forall_scanl_iff_along (framed_turn_iff client packets) ?_
  intro t ht
  cases ht
  exact ⟨_, rfl, fun _ => atBoundary_of_suffix List.suffix_rfl⟩

/-- A packet of a type the talker does not know, with a payload. -/
def unknownPacket : RawPacket := ⟨9, List.replicate 8 0, by decide⟩

/-- Its payload stays in the stream, and the next header is read from it. -/
theorem not_framed_unknownPacket :
    ¬ ∀ (client : SocketClient) (packets : List RawPacket) (caps : CameraCapability) (polls : List Poll),
      ∀ link ∈ polls.scanl (turn client) (some ⟨caps, Feed.whole (packets.flatMap RawPacket.wire)⟩),
        Framed packets link := by
  intro h
  let t : Talker := ⟨⟨0, 0, 0, Vector.replicate 5 0⟩, Feed.whole ([unknownPacket].flatMap RawPacket.wire)⟩
  have hnext : Framed [unknownPacket] (turn .unix (some t) .readable) :=
    h .unix [unknownPacket] t.cmdCapability [.readable] _ (foldl_mem_scanl _ _)
  have hconsumed : unknownPacket.Consumed [] :=
    (atPacket_turn_packet_iff .unix (t := t) List.suffix_rfl rfl).mp hnext
  have hstruct : structSize unknownPacket.type = 0 := rfl
  have hpayload : unknownPacket.payload.length = 8 := rfl
  rw [RawPacket.Consumed, hstruct, hpayload] at hconsumed
  rcases hconsumed with ⟨k, hk⟩ | hend
  · omega
  · omega

end Talker

end VhalClient.Camera
