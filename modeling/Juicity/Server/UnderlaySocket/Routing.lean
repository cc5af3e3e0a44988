import Juicity.Machine.Compaction
import Juicity.Server.UnderlaySocket.Model

/-!
Owns where `poll_recv` takes the datagrams of a batch. A slot is classified by
its first datagram alone and goes to Quinn or to the underlay channel as a
whole, so the datagrams are told apart by their own first bytes exactly if the
datagrams of each slot are of one kind.
-/

namespace Juicity.Server.UnderlaySocket

open Juicity.Common
open Juicity.Machine

/-! ## What arrives -/

/-- A datagram with its own part of the metadata. -/
structure Datagram where
  addr : SocketAddr
  ecn : Option UInt8
  dstIp : Option IpAddr
  payload : Bytes
deriving DecidableEq

/-- The datagrams of a coalesced buffer; only the last may be shorter. -/
def segments (stride : Nat) (bytes : Bytes) : List Bytes :=
  if bytes.length ≤ max stride 1 then [bytes]
  else bytes.take (max stride 1) :: segments stride (bytes.drop (max stride 1))
termination_by bytes.length
decreasing_by
  rw [List.length_drop]
  omega

/-- A position of the slices. -/
abbrev Slot := Option Bytes × Option RecvMeta

def Slices.slot (slices : Slices) (i : Nat) : Slot := (slices.bufs[i]?, slices.metas[i]?)

namespace Slot

def datagrams : Slot → List Datagram
  | (some buf, some recv) =>
      (segments recv.stride (buf.take recv.len)).map fun payload =>
        ⟨recv.addr, recv.ecn, recv.dstIp, payload⟩
  | _ => []

/-- The first datagram of the slot is QUIC. -/
def quic : Slot → Bool
  | (some buf, some recv) => isProbablyQuicPacket (buf.take (min recv.stride recv.len))
  | _ => false

end Slot

def Datagram.quic (datagram : Datagram) : Bool := isProbablyQuicPacket datagram.payload

/-- The packets of the datagrams that are not empty. -/
def packets (datagrams : List Datagram) : List UnderlayPacket :=
  (datagrams.filter fun datagram => datagram.payload ≠ []).map fun datagram =>
    ⟨datagram.addr, datagram.payload⟩

def Received.slots (batch : Received) : List Slot :=
  (List.range batch.msgs).map batch.toSlices.slot

/-- The slots that the inner socket fills within one call: a batch without QUIC
is followed by the next one. -/
def arrivals : Nat → (Nat → InnerPoll) → List Slot
  | 0, _ => []
  | budget + 1, inner =>
      match inner 0 with
      | .received batch =>
          if batch.slots.any Slot.quic then batch.slots
          else batch.slots ++ arrivals budget fun k => inner (k + 1)
      | _ => []

/-- What Quinn finds in the slices. -/
def PollRecv.delivered (result : PollRecv) : List Datagram :=
  match result.poll with
  | .ready (.ok keep) => (List.range keep).flatMap fun i => (result.slices.slot i).datagrams
  | _ => []

/-- How many packets the channel can still take. -/
def Channel.room (channel : Channel) : Nat := channel.capacity - channel.queue.length

/-- Every datagram goes where its own first byte says, in the order of arrival. -/
structure Routed (before : DemuxUdpSocket) (arrived : List Datagram) (result : PollRecv) :
    Prop where
  quinn : result.delivered = arrived.filter Datagram.quic
  underlay : result.socket.outbox.channel.queue =
    before.outbox.channel.queue ++
      (packets (arrived.filter fun datagram => !datagram.quic)).take before.outbox.channel.room

/-! ## The channel -/

def Outbox.sendAll (outbox : Outbox) (packets : List UnderlayPacket) : Outbox :=
  packets.foldl Outbox.send outbox

theorem sendAll_append (outbox : Outbox) (first second : List UnderlayPacket) :
    outbox.sendAll (first ++ second) = (outbox.sendAll first).sendAll second :=
  List.foldl_append

theorem send_channel (outbox : Outbox) (packet : UnderlayPacket) :
    (outbox.send packet).channel = (outbox.channel.trySend packet).getD outbox.channel := by
  unfold Outbox.send
  cases outbox.channel.trySend packet with
  | some channel => rfl
  | none => rfl

theorem sendAll_of_closed {outbox : Outbox} (closed : outbox.channel.closed = true)
    (packets : List UnderlayPacket) : (outbox.sendAll packets).channel = outbox.channel := by
  induction packets generalizing outbox with
  | nil => rfl
  | cons packet rest inductionHypothesis =>
      have same : (outbox.send packet).channel = outbox.channel := by
        rw [send_channel, Channel.trySend, if_pos closed]
        rfl
      have still : (outbox.send packet).channel.closed = true := by rw [same, closed]
      exact (inductionHypothesis still).trans same

/-- An open channel takes the packets in order until it is full. -/
theorem queue_sendAll {outbox : Outbox} (alive : outbox.channel.closed = false)
    (packets : List UnderlayPacket) :
    (outbox.sendAll packets).channel.queue =
      outbox.channel.queue ++ packets.take outbox.channel.room := by
  induction packets generalizing outbox with
  | nil => simp [Outbox.sendAll]
  | cons packet rest inductionHypothesis =>
      have sent := send_channel outbox packet
      unfold Channel.trySend at sent
      rw [alive, if_neg Bool.false_ne_true] at sent
      by_cases fits : outbox.channel.queue.length < outbox.channel.capacity
      · rw [if_pos fits, Option.getD_some] at sent
        have still : (outbox.send packet).channel.closed = false := by rw [sent]
        have room : outbox.channel.room = (outbox.send packet).channel.room + 1 := by
          rw [sent]
          simp only [Channel.room, List.length_append, List.length_singleton]
          omega
        show ((outbox.send packet).sendAll rest).channel.queue = _
        rw [inductionHypothesis still, room, List.take_succ_cons, sent]
        simp
      · rw [if_neg fits, Option.getD_none] at sent
        have still : (outbox.send packet).channel.closed = false := by rw [sent, alive]
        have room : outbox.channel.room = 0 := by
          simp only [Channel.room]
          omega
        show ((outbox.send packet).sendAll rest).channel.queue = _
        rw [inductionHypothesis still, sent, room, List.take_zero, List.take_zero]

/-! ## The datagrams of a slot -/

theorem segments_ne_nil {stride : Nat} {bytes : Bytes} (notEmpty : bytes ≠ []) :
    ∀ segment ∈ segments stride bytes, segment ≠ [] := by
  induction bytes using segments.induct stride with
  | case1 bytes short =>
      intro segment member
      rw [segments, if_pos short] at member
      rw [List.mem_singleton.mp member]
      exact notEmpty
  | case2 bytes long inductionHypothesis =>
      intro segment member
      have rest : bytes.drop (max stride 1) ≠ [] := by
        rw [ne_eq, List.drop_eq_nil_iff]
        exact long
      rw [segments, if_neg long] at member
      rcases List.mem_cons.mp member with rfl | later
      · rw [ne_eq, List.take_eq_nil_iff]
        rintro (none | empty)
        · omega
        · exact notEmpty empty
      · exact inductionHypothesis rest segment later

/-- The datagrams of a slot make up its bytes. -/
theorem flatten_segments (stride : Nat) (bytes : Bytes) :
    (segments stride bytes).flatten = bytes := by
  induction bytes using segments.induct stride with
  | case1 bytes short =>
      rw [segments, if_pos short]
      exact List.append_nil bytes
  | case2 bytes long inductionHypothesis =>
      rw [segments, if_neg long, List.flatten_cons, inductionHypothesis]
      exact List.take_append_drop _ bytes

/-- The loop over a slot sends each of its datagrams from the offset on. -/
theorem forward_eq_sendAll {buf : Bytes} {recv : RecvMeta} (filled : recv.len ≤ buf.length)
    {offset : Nat} (ahead : offset < recv.len) (outbox : Outbox) :
    forward buf recv offset outbox =
      outbox.sendAll ((segments recv.stride ((buf.take recv.len).drop offset)).map fun payload =>
        ⟨recv.addr, payload⟩) := by
  induction offset, outbox using forward.induct buf recv with
  | case1 offset outbox _ stop inductionHypothesis =>
      have total : (buf.take recv.len).length = recv.len := List.length_take_of_le filled
      have piece : (buf.take stop).drop offset =
          ((buf.take recv.len).drop offset).take (max recv.stride 1) := by
        rw [List.take_drop, List.take_take]
      rw [forward, if_pos ahead, segments]
      by_cases last : ((buf.take recv.len).drop offset).length ≤ max recv.stride 1
      · have done : ¬ stop < recv.len := by
          rw [List.length_drop, total] at last
          simp only [stop]
          omega
        rw [if_pos last, forward, if_neg done]
        show outbox.send ⟨recv.addr, (buf.take stop).drop offset⟩ = _
        rw [piece, List.take_of_length_le last]
        rfl
      · have more : stop < recv.len := by
          rw [List.length_drop, total] at last
          simp only [stop]
          omega
        have next : stop = offset + max recv.stride 1 := by
          simp only [stop] at more ⊢
          omega
        rw [if_neg last]
        show forward buf recv stop (outbox.send ⟨recv.addr, (buf.take stop).drop offset⟩) = _
        rw [inductionHypothesis more, piece, List.map_cons, List.drop_drop, ← next]
        rfl
  | case2 offset outbox done => exact absurd ahead done

namespace Slot

/-- The slot is one the inner socket filled. -/
def Filled (slot : Slot) : Prop :=
  ∃ buf recv, slot = (some buf, some recv) ∧ recv.len ≤ buf.length ∧ 1 ≤ recv.stride

/-- A slot that is not QUIC is sent as the packets of its datagrams. -/
theorem forward_eq_packets {buf : Bytes} {recv : RecvMeta} (filled : recv.len ≤ buf.length)
    (outbox : Outbox) :
    forward buf recv 0 outbox = outbox.sendAll (packets (datagrams (some buf, some recv))) := by
  by_cases empty : recv.len = 0
  · have nothing : packets (datagrams (some buf, some recv)) = [] := by
      simp [packets, datagrams, empty, segments]
    rw [forward, if_neg (by omega), nothing]
    rfl
  · have notEmpty : buf.take recv.len ≠ [] := by
      intro none
      have := List.length_take_of_le filled
      rw [none] at this
      exact empty this.symm
    rw [forward_eq_sendAll filled (by omega), List.drop_zero, packets, datagrams,
      List.filter_eq_self.mpr, List.map_map]
    · rfl
    · intro datagram member
      obtain ⟨payload, isSegment, rfl⟩ := List.mem_map.mp member
      simpa using segments_ne_nil notEmpty payload isSegment

/-- The code looks at the first datagram of a slot. -/
theorem quic_eq_first {slot : Slot} (filled : slot.Filled) :
    ∃ first, slot.datagrams.head? = some first ∧ first.quic = slot.quic := by
  obtain ⟨buf, recv, rfl, fits, positive⟩ := filled
  have stride : max recv.stride 1 = recv.stride := by omega
  have total : (buf.take recv.len).length = recv.len := List.length_take_of_le fits
  by_cases single : (buf.take recv.len).length ≤ recv.stride
  · refine ⟨⟨recv.addr, recv.ecn, recv.dstIp, buf.take recv.len⟩, ?_, ?_⟩
    · rw [datagrams, segments, stride, if_pos single]
      rfl
    · rw [Datagram.quic, quic, Nat.min_eq_right (total ▸ single)]
  · refine ⟨⟨recv.addr, recv.ecn, recv.dstIp, (buf.take recv.len).take recv.stride⟩, ?_, ?_⟩
    · rw [datagrams, segments, stride, if_neg single]
      rfl
    · rw [Datagram.quic, quic, List.take_take]

end Slot

/-! ## The scan of a batch -/

/-- The packets of the slots that are not QUIC. -/
def diverted (slots : List Slot) : List UnderlayPacket :=
  (slots.filter fun slot => !slot.quic).flatMap fun slot => packets slot.datagrams

/-- What holds after the first `scanned` slots of a batch. -/
structure Scanned (batch : Received) (outbox : Outbox) (scan : Scan) (scanned : Nat) : Prop where
  bufs : scan.slices.bufs.size = batch.bufs.size
  metas : scan.slices.metas.size = batch.bufs.size
  compacted : Compacted Slot.quic batch.toSlices.slot scan.slices.slot scanned scan.keep
  outbox : scan.outbox =
    outbox.sendAll (diverted ((List.range scanned).map batch.toSlices.slot))

theorem slot_swap {slices : Slices} {i j : Nat} (paired : slices.metas.size = slices.bufs.size)
    (left : i < slices.bufs.size) (right : j < slices.bufs.size) :
    (slices.swap i j).slot = exchanged slices.slot i j := by
  have bufs := getElem?_swapIfInBounds left right
  have metas := getElem?_swapIfInBounds (paired ▸ left) (paired ▸ right)
  funext k
  have buf := congrFun bufs k
  have recv := congrFun metas k
  simp only [Slices.slot, Slices.swap, buf, recv, exchanged]
  split
  · rfl
  · split
    · rfl
    · rfl

theorem Received.slot_filled (batch : Received) {i : Nat} (inside : i < batch.msgs) :
    (batch.toSlices.slot i).Filled := by
  have bufInside : i < batch.bufs.size := Nat.lt_of_lt_of_le inside batch.fits
  have recvInside : i < batch.metas.size := batch.paired ▸ bufInside
  have filled := batch.filled i batch.bufs[i] batch.metas[i] inside
    (Array.getElem?_eq_getElem bufInside) (Array.getElem?_eq_getElem recvInside)
  refine ⟨batch.bufs[i], batch.metas[i], ?_, filled⟩
  rw [Slices.slot, Array.getElem?_eq_getElem bufInside, Array.getElem?_eq_getElem recvInside]

theorem diverted_snoc (slots : List Slot) (slot : Slot) :
    diverted (slots ++ [slot]) =
      diverted slots ++ if slot.quic then [] else packets slot.datagrams := by
  unfold diverted
  rw [List.filter_append, List.flatMap_append]
  cases quic : slot.quic with
  | true => simp [quic]
  | false => simp [quic]

theorem Scanned.visit {batch : Received} {outbox : Outbox} {scan : Scan} {i : Nat}
    (scanned : Scanned batch outbox scan i) (inside : i < batch.msgs) :
    Scanned batch outbox (scan.visit i) (i + 1) := by
  obtain ⟨buf, recv, slot, fits, positive⟩ := batch.slot_filled inside
  have here : scan.slices.slot i = (some buf, some recv) := by
    rw [scanned.compacted.ahead i (Nat.le_refl _), slot]
  obtain ⟨bufHere, recvHere⟩ := Prod.mk.inj here
  have divertedNext : diverted ((List.range (i + 1)).map batch.toSlices.slot) =
      diverted ((List.range i).map batch.toSlices.slot) ++
        if Slot.quic (some buf, some recv) then [] else packets (Slot.datagrams (some buf, some recv)) := by
    rw [List.range_succ, List.map_append, List.map_singleton, diverted_snoc, slot]
  unfold Scan.visit
  rw [bufHere, recvHere]
  dsimp only
  cases quic : Slot.quic (some buf, some recv) with
  | true =>
      have classified := quic
      rw [Slot.quic] at classified
      rw [if_pos classified]
      have inBounds : i < scan.slices.bufs.size :=
        scanned.bufs ▸ Nat.lt_of_lt_of_le inside batch.fits
      have keepInBounds : scan.keep < scan.slices.bufs.size :=
        Nat.lt_of_le_of_lt scanned.compacted.within inBounds
      have moved : (if scan.keep ≠ i then scan.slices.swap scan.keep i else scan.slices).slot =
          exchanged scan.slices.slot scan.keep i := by
        by_cases same : scan.keep = i
        · rw [if_neg (not_not.mpr same), same, exchanged_self]
        · rw [if_pos same, slot_swap (scanned.metas.trans scanned.bufs.symm) keepInBounds inBounds]
      constructor
      case bufs =>
        dsimp only
        split
        · exact Array.size_swapIfInBounds.trans scanned.bufs
        · exact scanned.bufs
      case metas =>
        dsimp only
        split
        · exact Array.size_swapIfInBounds.trans scanned.metas
        · exact scanned.metas
      case compacted =>
        dsimp only
        rw [moved]
        exact scanned.compacted.take (by rw [slot, quic])
      case outbox =>
        rw [divertedNext, if_pos quic, List.append_nil]
        exact scanned.outbox
  | false =>
      have classified := quic
      rw [Slot.quic] at classified
      rw [classified, if_neg Bool.false_ne_true]
      refine ⟨scanned.bufs, scanned.metas, scanned.compacted.skip (by rw [slot, quic]), ?_⟩
      rw [divertedNext, quic, if_neg Bool.false_ne_true, sendAll_append, ← scanned.outbox]
      exact Slot.forward_eq_packets fits scan.outbox

theorem scanned_scanBatch (batch : Received) (outbox : Outbox) :
    Scanned batch outbox (scanBatch batch outbox) batch.msgs := by
  have upTo : ∀ count, count ≤ batch.msgs →
      Scanned batch outbox
        ((List.range count).foldl Scan.visit ⟨batch.toSlices, 0, outbox⟩) count := by
    intro count
    induction count with
    | zero => exact fun _ => ⟨rfl, batch.paired, .start, rfl⟩
    | succ count inductionHypothesis =>
        intro inside
        rw [List.range_succ, List.foldl_append]
        exact (inductionHypothesis (Nat.le_of_succ_le inside)).visit inside
  exact upTo batch.msgs (Nat.le_refl _)

/-- The slots at the front are those that are QUIC. -/
theorem kept_scanBatch (batch : Received) (outbox : Outbox) :
    (List.range (scanBatch batch outbox).keep).map (scanBatch batch outbox).slices.slot =
      batch.slots.filter Slot.quic :=
  (scanned_scanBatch batch outbox).compacted.kept

theorem keep_pos_iff (batch : Received) (outbox : Outbox) :
    0 < (scanBatch batch outbox).keep ↔ batch.slots.any Slot.quic = true := by
  have count : (scanBatch batch outbox).keep = (batch.slots.filter Slot.quic).length := by
    rw [← kept_scanBatch batch outbox, List.length_map, List.length_range]
  rw [count, List.length_pos_iff_exists_mem, List.any_eq_true]
  simp only [List.mem_filter]

/-! ## A call -/

theorem slots_filled {batch : Received} {slot : Slot} (member : slot ∈ batch.slots) :
    slot.Filled := by
  obtain ⟨i, inside, rfl⟩ := List.mem_map.mp member
  exact batch.slot_filled (List.mem_range.mp inside)

theorem arrivals_filled {budget : Nat} {inner : Nat → InnerPoll} {slot : Slot}
    (member : slot ∈ arrivals budget inner) : slot.Filled := by
  induction budget generalizing inner with
  | zero => cases member
  | succ budget inductionHypothesis =>
      unfold arrivals at member
      split at member
      · split at member
        · exact slots_filled member
        · rcases List.mem_append.mp member with here | later
          · exact slots_filled here
          · exact inductionHypothesis later
      · cases member

theorem diverted_append (first second : List Slot) :
    diverted (first ++ second) = diverted first ++ diverted second := by
  simp [diverted]

/-- A call hands the slots that are QUIC to Quinn and sends the others. -/
theorem pollBatches_slots (budget : Nat) (inner : Nat → InnerPoll) (slices : Slices)
    (socket : DemuxUdpSocket) :
    (pollBatches budget inner slices socket).delivered =
        ((arrivals budget inner).filter Slot.quic).flatMap Slot.datagrams ∧
      (pollBatches budget inner slices socket).socket.outbox =
        socket.outbox.sendAll (diverted (arrivals budget inner)) := by
  induction budget generalizing inner slices socket with
  | zero =>
      unfold pollBatches exhausted
      dsimp only
      split
      · exact ⟨rfl, rfl⟩
      · exact ⟨rfl, rfl⟩
  | succ budget inductionHypothesis =>
      unfold pollBatches arrivals
      cases inner 0 with
      | pending => exact ⟨rfl, rfl⟩
      | error error => exact ⟨rfl, rfl⟩
      | received batch =>
          have scanned := scanned_scanBatch batch socket.outbox
          dsimp only
          by_cases found : 0 < (scanBatch batch socket.outbox).keep
          · rw [if_pos found, if_pos ((keep_pos_iff batch _).mp found)]
            refine ⟨?_, scanned.outbox⟩
            rw [← kept_scanBatch batch socket.outbox, List.flatMap_map]
            rfl
          · have noQuic : ¬ batch.slots.any Slot.quic = true :=
              fun quic => found ((keep_pos_iff batch _).mpr quic)
            have noneKept : batch.slots.filter Slot.quic = [] := by
              rw [List.filter_eq_nil_iff]
              intro slot member quic
              exact noQuic (List.any_eq_true.mpr ⟨slot, member, quic⟩)
            obtain ⟨delivered, outbox⟩ := inductionHypothesis (fun k => inner (k + 1))
              (scanBatch batch socket.outbox).slices
              { socket with outbox := (scanBatch batch socket.outbox).outbox }
            rw [if_neg found, if_neg noQuic]
            refine ⟨?_, ?_⟩
            · rw [delivered, List.filter_append, noneKept, List.nil_append]
            · rw [outbox, diverted_append, sendAll_append]
              exact congrArg (Outbox.sendAll · _) scanned.outbox

/-! ## By slots and by datagrams -/

section Kinds

universe u v

variable {α : Type u} {β : Type v} (p : α → Bool) (q : β → Bool) (parts : α → List β)

/-- When all parts of an element are of its kind, choosing elements and choosing
parts is the same. -/
theorem flatMap_filter_of_uniform {elements : List α}
    (uniform : ∀ element ∈ elements, ∀ part ∈ parts element, q part = p element) :
    (elements.filter p).flatMap parts = (elements.flatMap parts).filter q := by
  induction elements with
  | nil => rfl
  | cons element rest inductionHypothesis =>
      have here := uniform element List.mem_cons_self
      have later := inductionHypothesis fun other member =>
        uniform other (List.mem_cons_of_mem element member)
      rw [List.flatMap_cons, List.filter_append]
      cases kind : p element with
      | true =>
          have all : (parts element).filter q = parts element :=
            List.filter_eq_self.mpr fun part member => by rw [here part member, kind]
          rw [List.filter_cons_of_pos kind, List.flatMap_cons, later, all]
      | false =>
          have none : (parts element).filter q = [] := by
            rw [List.filter_eq_nil_iff]
            intro part member
            rw [here part member, kind]
            exact Bool.false_ne_true
          have notKept : ¬ p element = true := by
            rw [kind]
            exact Bool.false_ne_true
          rw [List.filter_cons_of_neg notKept, later, none, List.nil_append]

theorem length_filter_flatMap (elements : List α) :
    ((elements.flatMap parts).filter q).length =
      (((elements.filter p).flatMap parts).filter q).length +
        (((elements.filter fun element => !p element).flatMap parts).filter q).length := by
  induction elements with
  | nil => rfl
  | cons element rest inductionHypothesis =>
      rw [List.flatMap_cons, List.filter_append, List.length_append, inductionHypothesis]
      cases kind : p element with
      | true =>
          simp only [List.filter_cons, kind, if_true, List.flatMap_cons, List.filter_append,
            List.length_append, Bool.not_true, Bool.false_eq_true, if_false]
          omega
      | false =>
          simp only [List.filter_cons, kind, if_true, List.flatMap_cons, List.filter_append,
            List.length_append, Bool.not_false, Bool.false_eq_true, if_false]
          omega

/-- The parts of the chosen elements are the chosen parts only when all parts of
an element are of its kind. -/
theorem flatMap_filter_eq_iff (elements : List α) :
    (elements.filter p).flatMap parts = (elements.flatMap parts).filter q ↔
      ∀ element ∈ elements, ∀ part ∈ parts element, q part = p element := by
  constructor
  · intro same element member part isPart
    have chosen : ∀ part ∈ (elements.filter p).flatMap parts, q part = true := by
      intro part member
      rw [same] at member
      exact (List.mem_filter.mp member).2
    cases kind : p element with
    | true =>
        apply chosen part
        exact List.mem_flatMap.mpr ⟨element, List.mem_filter.mpr ⟨member, kind⟩, isPart⟩
    | false =>
        have whole : ((elements.filter p).flatMap parts).filter q =
            (elements.filter p).flatMap parts := List.filter_eq_self.mpr chosen
        have count := length_filter_flatMap p q parts elements
        rw [whole, same] at count
        have noneLeft : ((elements.filter fun element => !p element).flatMap parts).filter q = [] :=
          List.length_eq_zero_iff.mp (by omega)
        rw [List.filter_eq_nil_iff] at noneLeft
        have other : element ∈ elements.filter fun element => !p element :=
          List.mem_filter.mpr ⟨member, by rw [kind]; rfl⟩
        exact Bool.eq_false_iff.mpr (noneLeft part (List.mem_flatMap.mpr ⟨element, other, isPart⟩))
  · exact flatMap_filter_of_uniform p q parts

end Kinds

/-! ## Routing -/

/-- All datagrams of the slot are QUIC or none is. -/
def Slot.Uniform (slot : Slot) : Prop :=
  ∀ one ∈ slot.datagrams, ∀ other ∈ slot.datagrams, one.quic = other.quic

/-- The datagrams that arrive within one call. -/
def arrived (inner : Nat → InnerPoll) : List Datagram :=
  (arrivals maxDemuxBatchesPerPoll inner).flatMap Slot.datagrams

/-- The packets a call has to send. -/
def due (inner : Nat → InnerPoll) : List UnderlayPacket :=
  packets ((arrived inner).filter fun datagram => !datagram.quic)

theorem uniform_iff {slot : Slot} (filled : slot.Filled) :
    slot.Uniform ↔ ∀ datagram ∈ slot.datagrams, datagram.quic = slot.quic := by
  obtain ⟨first, isFirst, kind⟩ := Slot.quic_eq_first filled
  constructor
  · intro uniform datagram member
    rw [← kind]
    exact uniform datagram member first (List.mem_of_mem_head? isFirst)
  · intro same one oneMember other otherMember
    rw [same one oneMember, same other otherMember]

theorem delivered_iff_uniform (inner : Nat → InnerPoll) (slices : Slices)
    (socket : DemuxUdpSocket) :
    (pollRecv inner slices socket).delivered = (arrived inner).filter Datagram.quic ↔
      ∀ slot ∈ arrivals maxDemuxBatchesPerPoll inner, slot.Uniform := by
  rw [pollRecv, (pollBatches_slots _ inner slices socket).1, arrived, flatMap_filter_eq_iff]
  exact forall₂_congr fun slot member => (uniform_iff (arrivals_filled member)).symm

/-- When all slots are uniform, the packets sent are those of the datagrams that
are not QUIC. -/
theorem diverted_eq_due {inner : Nat → InnerPoll}
    (uniform : ∀ slot ∈ arrivals maxDemuxBatchesPerPoll inner, slot.Uniform) :
    diverted (arrivals maxDemuxBatchesPerPoll inner) = due inner := by
  have kinds : ∀ slot ∈ arrivals maxDemuxBatchesPerPoll inner, ∀ datagram ∈ slot.datagrams,
      (!datagram.quic) = !slot.quic := by
    intro slot member datagram isPart
    rw [(uniform_iff (arrivals_filled member)).mp (uniform slot member) datagram isPart]
  have parts := flatMap_filter_of_uniform (fun slot : Slot => !slot.quic)
    (fun datagram : Datagram => !datagram.quic) Slot.datagrams kinds
  rw [due, arrived, ← parts, diverted, packets, List.filter_flatMap, List.map_flatMap]
  rfl

/-- Every datagram is routed by its own first byte exactly when no slot mixes
datagrams of both kinds, as long as the channel has its receiver or nothing is
due to it. -/
theorem pollRecv_routes_iff (inner : Nat → InnerPoll) (slices : Slices) (socket : DemuxUdpSocket) :
    Routed socket (arrived inner) (pollRecv inner slices socket) ↔
      (∀ slot ∈ arrivals maxDemuxBatchesPerPoll inner, slot.Uniform) ∧
        (socket.outbox.channel.closed = true →
          (due inner).take socket.outbox.channel.room = []) := by
  have sent : (pollRecv inner slices socket).socket.outbox =
      socket.outbox.sendAll (diverted (arrivals maxDemuxBatchesPerPoll inner)) :=
    (pollBatches_slots _ inner slices socket).2
  constructor
  · intro routed
    have uniform := (delivered_iff_uniform inner slices socket).mp routed.quinn
    refine ⟨uniform, fun closed => ?_⟩
    have queue := routed.underlay
    rw [sent, sendAll_of_closed closed] at queue
    exact List.append_right_eq_self.mp queue.symm
  · rintro ⟨uniform, receives⟩
    refine ⟨(delivered_iff_uniform inner slices socket).mpr uniform, ?_⟩
    rw [sent, diverted_eq_due uniform]
    cases alive : socket.outbox.channel.closed with
    | false => exact queue_sendAll alive _
    | true =>
        rw [sendAll_of_closed alive]
        exact (List.append_right_eq_self.mpr (receives alive)).symm

/-! ## A slot of both kinds -/

def samplePeer : SocketAddr := ⟨.v4 (.replicate 4 10), 40000⟩

/-- One slot that `samplePeer` filled with datagrams of up to `stride` bytes. -/
def oneSlot (bytes : Bytes) (stride : Nat) (positive : 1 ≤ stride) : Received where
  bufs := #[bytes]
  metas := #[⟨samplePeer, bytes.length, stride, none, none⟩]
  msgs := 1
  paired := rfl
  fits := Nat.le_refl 1
  filled := by
    intro i buf recv inside bufHere recvHere
    obtain rfl : i = 0 := by omega
    cases bufHere
    cases recvHere
    exact ⟨Nat.le_refl bytes.length, positive⟩

/-- Two coalesced datagrams of one byte, of which the first looks like QUIC. -/
def mixedBatch : Received := oneSlot [0x40, 0x00] 1 (Nat.le_refl 1)

theorem mixed_slot_not_routed :
    ¬ Routed (.new 4096) (arrived fun _ => .received mixedBatch)
      (pollRecv (fun _ => .received mixedBatch) ⟨#[], #[]⟩ (.new 4096)) := by
  intro routed
  have uniform := (delivered_iff_uniform _ _ _).mp routed.quinn
  have slots : arrivals maxDemuxBatchesPerPoll (fun _ => .received mixedBatch) =
      [(some [0x40, 0x00], some ⟨samplePeer, 2, 1, none, none⟩)] := rfl
  have datagrams : Slot.datagrams (some [0x40, 0x00], some ⟨samplePeer, 2, 1, none, none⟩) =
      [⟨samplePeer, none, none, [0x40]⟩, ⟨samplePeer, none, none, [0x00]⟩] := by
    simp [Slot.datagrams, segments]
  rw [slots] at uniform
  have same := uniform _ List.mem_cons_self
  rw [Slot.Uniform, datagrams] at same
  have both := same _ List.mem_cons_self _ (List.mem_cons_of_mem _ List.mem_cons_self)
  exact absurd both (by decide)

end Juicity.Server.UnderlaySocket
