import Juicity.Common.Bytes
import Juicity.Machine.Run

/-!
Owns the model of `server/src/underlay_socket.rs`: `poll_recv` of
`DemuxUdpSocket` with its in-place compaction of the received slots, the
underlay channel and the idle counter. The inner socket is given by what its
`poll_recv` returns; it fills at most the slots it is given, each up to its
length, and only a poll that is pending registers the waker.
-/

namespace Juicity.Server.UnderlaySocket

open Juicity.Common
open Juicity.Machine

def maxDemuxBatchesPerPoll : Nat := 2
def maxIdlePollBeforeYield : Nat := 1

structure UnderlayPacket where
  peer : SocketAddr
  payload : Bytes
deriving DecidableEq

/-- A bounded `mpsc` channel, seen from its sender. -/
structure Channel where
  capacity : Nat
  queue : List UnderlayPacket
  closed : Bool
deriving DecidableEq

/-- `Sender::try_send`; `none` is an error, and the packet is dropped. -/
def Channel.trySend (channel : Channel) (packet : UnderlayPacket) : Option Channel :=
  if channel.closed then none
  else if channel.queue.length < channel.capacity then
    some { channel with queue := channel.queue ++ [packet] }
  else none

/-- `quinn::udp::RecvMeta`. -/
structure RecvMeta where
  addr : SocketAddr
  len : Nat
  stride : Nat
  ecn : Option UInt8
  dstIp : Option IpAddr
deriving DecidableEq

/-- The buffers and the metadata of `poll_recv`. -/
structure Slices where
  bufs : Array Bytes
  metas : Array RecvMeta

def Slices.swap (slices : Slices) (i j : Nat) : Slices :=
  ⟨slices.bufs.swapIfInBounds i j, slices.metas.swapIfInBounds i j⟩

/-- What a successful `poll_recv` of the inner socket filled in. -/
structure Received extends Slices where
  msgs : Nat
  paired : metas.size = bufs.size
  fits : msgs ≤ bufs.size
  filled : ∀ i buf recv, i < msgs → bufs[i]? = some buf → metas[i]? = some recv →
    recv.len ≤ buf.length ∧ 1 ≤ recv.stride

inductive InnerPoll where
  | pending
  | error (error : String)
  | received (batch : Received)

/-- The channel, and how many packets it refused. -/
structure Outbox where
  channel : Channel
  dropped : Nat
deriving DecidableEq

def Outbox.send (outbox : Outbox) (packet : UnderlayPacket) : Outbox :=
  match outbox.channel.trySend packet with
  | some channel => { outbox with channel := channel }
  | none => { outbox with dropped := outbox.dropped + 1 }

structure DemuxUdpSocket where
  outbox : Outbox
  idlePollCount : Nat
deriving DecidableEq

/-- `DemuxUdpSocket::new`. -/
def DemuxUdpSocket.new (capacity : Nat) : DemuxUdpSocket := ⟨⟨⟨capacity, [], false⟩, 0⟩, 0⟩

/-- The fixed bit of QUIC. -/
def isProbablyQuicPacket (packet : Bytes) : Bool :=
  match packet with
  | [] => false
  | first :: _ => first &&& 0x40 == 0x40

/-- The loop over the datagrams of a slot. -/
def forward (buf : Bytes) (recv : RecvMeta) (offset : Nat) (outbox : Outbox) : Outbox :=
  if offset < recv.len then
    let stop := min (offset + max recv.stride 1) recv.len
    forward buf recv stop (outbox.send ⟨recv.addr, (buf.take stop).drop offset⟩)
  else
    outbox
termination_by recv.len - offset
decreasing_by omega

/-- Where the scan of a batch stands. -/
structure Scan where
  slices : Slices
  keep : Nat
  outbox : Outbox

/-- One turn of the loop over the slots. An index past a slice would panic; the
inner socket does not report so many slots. -/
def Scan.visit (scan : Scan) (i : Nat) : Scan :=
  match scan.slices.bufs[i]?, scan.slices.metas[i]? with
  | some buf, some recv =>
      let firstLen := min recv.stride recv.len
      if isProbablyQuicPacket (buf.take firstLen) then
        { scan with
          slices := if scan.keep ≠ i then scan.slices.swap scan.keep i else scan.slices
          keep := scan.keep + 1 }
      else
        { scan with outbox := forward buf recv 0 scan.outbox }
  | _, _ => scan

def scanBatch (batch : Received) (outbox : Outbox) : Scan :=
  (List.range batch.msgs).foldl Scan.visit ⟨batch.toSlices, 0, outbox⟩

inductive Poll where
  | pending
  | ready (result : Except String Nat)

/-- How a call of `poll_recv` ends: what it returns and leaves in the slices,
and whether the inner socket registered the waker or the call woke it. -/
structure PollRecv where
  poll : Poll
  slices : Slices
  socket : DemuxUdpSocket
  registered : Bool
  woken : Bool

/-- No QUIC packet within the batches of one call. -/
def exhausted (slices : Slices) (socket : DemuxUdpSocket) : PollRecv :=
  let idleCount := socket.idlePollCount
  if maxIdlePollBeforeYield ≤ idleCount then
    ⟨.pending, slices, { socket with idlePollCount := 0 }, false, false⟩
  else
    ⟨.pending, slices, { socket with idlePollCount := idleCount + 1 }, false, true⟩

/-- The loop over the batches; `inner k` is the result of the `k`-th poll of the
inner socket that is still to come. -/
def pollBatches : Nat → (Nat → InnerPoll) → Slices → DemuxUdpSocket → PollRecv
  | 0, _, slices, socket => exhausted slices socket
  | budget + 1, inner, slices, socket =>
      match inner 0 with
      | .pending => ⟨.pending, slices, { socket with idlePollCount := 0 }, true, false⟩
      | .error error => ⟨.ready (.error error), slices, socket, false, false⟩
      | .received batch =>
          let scan := scanBatch batch socket.outbox
          let socket := { socket with outbox := scan.outbox }
          if 0 < scan.keep then
            ⟨.ready (.ok scan.keep), scan.slices, { socket with idlePollCount := 0 }, false, false⟩
          else
            pollBatches budget (fun k => inner (k + 1)) scan.slices socket

def pollRecv (inner : Nat → InnerPoll) (slices : Slices) (socket : DemuxUdpSocket) : PollRecv :=
  pollBatches maxDemuxBatchesPerPoll inner slices socket

end Juicity.Server.UnderlaySocket
