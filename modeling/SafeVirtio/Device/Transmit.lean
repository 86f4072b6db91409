import SafeVirtio.Device.ConsoleReceive
import SafeVirtio.Device.NetHeader
import SafeVirtio.Queue.Idle
import SafeVirtio.Lib.Channel

/-!
# What the console and the network driver send

The console's `send` and the network driver's `send` submit their buffers to a transmit queue
with `add_notify_wait_pop` and wait for the device: the console a one-byte buffer on the stack
holding the character, the network driver a ten-byte buffer on the stack into which `write_to`
stores `VirtioNetHdr::default()`, chained to the caller's packet unless the packet is empty.  A
device on a transmit queue sends the bytes of each chain it is handed as one message and writes
nothing back (`Transmitter.transmit`); it takes its turn while the driver waits
(`DeviceQueue.turn`), and on an idle queue the call then returns with the queue idle again
(`Transmitter.addNotifyWaitPop`).

`ConsoleTx` and `NetTx` put each driver together with that device and the memory the two share.
From the driver `new` returns, every run of calls goes through, returns `Ok` for each, and the
device sends one message per call, in order: the character (`VirtIOConsole.chars_sent_in_order`),
or the header followed by the packet as the caller's buffer held it
(`VirtIONet.packets_sent_in_order`), for packets below `2 ^ 32` bytes on queues of at least two
descriptors.  Past that bound `send` returns `Ok` as well, but the packet's descriptor carries
its length cut to `u32`, and the device sends the header with only the first `txLen % 2 ^ 32`
bytes of the packet (`NetTx.send_truncates`).
-/

namespace SafeVirtio

open ByteMemory (Apart)
open VirtIoQueue (Idle)

namespace Transmitter

/-- The message a chain makes: the bytes of its buffers, in order. -/
def message (mem : UInt64 → UInt8) (descs : List Descriptor) : List UInt8 :=
  descs.flatMap fun d ↦ ByteMemory.read mem d.addr d.len.toNat

/-- A transmitting device's work on a chain: it appends the chain's message to what it has sent
and writes no byte into the buffers. -/
def transmit (mem : UInt64 → UInt8) (descs : List Descriptor) (sent : List (List UInt8)) :
    List (List UInt8) × ℕ :=
  (sent ++ [message mem descs], 0)

theorem message_congr {mem : UInt64 → UInt8} {descs data : List Descriptor}
    (h : descs.map (fun d ↦ (d.addr, d.len)) = data.map (fun d ↦ (d.addr, d.len))) :
    message mem descs = message mem data := by
  have hfields : ∀ l : List Descriptor, message mem l =
      (l.map fun d ↦ (d.addr, d.len)).flatMap fun p ↦ ByteMemory.read mem p.1 p.2.toNat := by
    intro l
    rw [message, List.flatMap_map]
  rw [hfields, h, ← hfields]

variable {SIZE : ℕ} {q : VirtIoQueue SIZE} {dq : DeviceQueue} {data : List Descriptor}

/-- On an idle transmit queue, `add_notify_wait_pop` of a chain that fits, against a register
file that accepts the notification, returns `0` and leaves the queue idle, and the device's turn
sends the chain's message. -/
theorem addNotifyWaitPop (hidle : Idle q dq) (hshape : ChainShape data) (hlen : data.length ≤ SIZE)
    {o : IoLog.Oracle Access UInt32 VirtIoError} {h : List Access}
    (hnotify : ∀ e, o h (.write32 VirtIOHeader.queueNotify q.queueIdx.toUInt32) ≠ .error e)
    (mem : UInt64 → UInt8) (sent : List (List UInt8)) :
    ∃ q' log, (q.addNotifyWaitPop data (DeviceQueue.turn SIZE (transmit mem) q data dq sent).1
        (DeviceQueue.turn SIZE (transmit mem) q data dq sent).1).run o h = (.ok (.ok 0, q'), log) ∧
      (DeviceQueue.turn SIZE (transmit mem) q data dq sent).2 =
        (⟨dq.nextAvail + 1, []⟩, sent ++ [message mem data]) ∧
      Idle q' ⟨dq.nextAvail + 1, []⟩ ∧ q'.queueIdx = q.queueIdx := by
  obtain ⟨descs, hfields, q', log, hrun, hturn, hidle', hidx⟩ :=
    hidle.addNotifyWaitPop_turn hshape hlen hnotify (transmit mem) sent
  rw [transmit, message_congr hfields] at hturn
  exact ⟨q', log, hrun, hturn, hidle', hidx⟩

end Transmitter

/-! ## The console -/

/-- The console driver, the device's side of its transmit queue, the memory the two share, and
the messages the device has sent. -/
structure ConsoleTx where
  console : VirtIOConsole
  device : DeviceQueue
  mem : UInt64 → UInt8
  sent : List (List UInt8)

/-- A call of `send` of `chr` against a register file, its buffer `[chr]` on the stack at
`bufAddr`. -/
structure ConsoleSend where
  o : IoLog.Oracle Access UInt32 VirtIoError
  h : List Access
  chr : UInt8
  bufAddr : ℕ

namespace ConsoleSend

open VirtIOConsole (QUEUE_TRANSMITQ_PORT_0)

/-- The calls the refinement covers: those whose notification the register file accepts. -/
def Valid (m : ConsoleSend) : Prop :=
  ∀ e, m.o m.h (.write32 VirtIOHeader.queueNotify QUEUE_TRANSMITQ_PORT_0.toUInt32) ≠ .error e

/-- What a call is for: the device sends the character. -/
def spec (m : ConsoleSend) (sent : List (List UInt8)) : List (List UInt8) :=
  sent ++ [[m.chr]]

end ConsoleSend

namespace ConsoleTx

open VirtIOConsole (QUEUE_SIZE QUEUE_TRANSMITQ_PORT_0)

variable (hal : Hal)

/-- One call of `send`: the character stored in the call's buffer, the device's turn on the chain
`send` posts while the driver waits, and what the call returns; `none` when the driver panics. -/
def step (s : ConsoleTx) (m : ConsoleSend) : Option (ConsoleTx × List (VirtIoResult Unit)) :=
  -- `let buf: [u8; 1] = [chr]`
  let mem := ByteMemory.write s.mem (hal.toPaddr m.bufAddr).toUInt64 [m.chr]
  let (used, device, sent) := DeviceQueue.turn QUEUE_SIZE (Transmitter.transmit mem)
    s.console.transmitq [Descriptor.new hal m.bufAddr 1 DescFlag.EMPTY] s.device s.sent
  match ((s.console.send hal m.bufAddr used).run m.o m.h).1 with
  | .ok (r, console) => some (⟨console, device, mem, sent⟩, [r])
  | _ => none

/-- The transmit queue between two calls: idle, on its own index. -/
structure Ready (s : ConsoleTx) : Prop where
  idle : Idle s.console.transmitq s.device
  index : s.console.transmitq.queueIdx = QUEUE_TRANSMITQ_PORT_0

/-- From a ready system a covered call returns `Ok`, the device sends the character, and the
system is ready again. -/
theorem step_refines {s : ConsoleTx} (hs : Ready s) {m : ConsoleSend} (hm : m.Valid) :
    ∃ s', s.step hal m = some (s', [.ok ()]) ∧ s'.sent = m.spec s.sent ∧ Ready s' := by
  have hshape : ChainShape [Descriptor.new hal m.bufAddr 1 DescFlag.EMPTY] :=
    chainShape_single (by rw [Descriptor.new_hasNext]; decide)
  have hnotify : ∀ e, m.o m.h (.write32 VirtIOHeader.queueNotify
      s.console.transmitq.queueIdx.toUInt32) ≠ .error e := by
    rw [hs.index]
    exact hm
  obtain ⟨q', log, hrun, hturn, hidle, hidx⟩ :=
    Transmitter.addNotifyWaitPop hs.idle hshape (by simp [QUEUE_SIZE]) hnotify
      (ByteMemory.write s.mem (hal.toPaddr m.bufAddr).toUInt64 [m.chr]) s.sent
  have hread : ByteMemory.read (ByteMemory.write s.mem (hal.toPaddr m.bufAddr).toUInt64 [m.chr])
      (hal.toPaddr m.bufAddr).toUInt64 [m.chr].length = [m.chr] :=
    ByteMemory.read_write (by simp)
  have hmessage : Transmitter.message (ByteMemory.write s.mem (hal.toPaddr m.bufAddr).toUInt64 [m.chr])
      [Descriptor.new hal m.bufAddr 1 DescFlag.EMPTY] = [m.chr] := by
    simpa [Transmitter.message, Descriptor.new] using hread
  refine ⟨⟨{ s.console with transmitq := q' }, ⟨s.device.nextAvail + 1, []⟩,
    ByteMemory.write s.mem (hal.toPaddr m.bufAddr).toUInt64 [m.chr], m.spec s.sent⟩, ?_, rfl,
    ⟨hidle, hidx.trans hs.index⟩⟩
  rw [hmessage] at hturn
  simp only [step, hturn, VirtIOConsole.send, IoLog.Io.bind_eq, IoLog.Io.run_bind, hrun,
    IoLog.Io.pure_eq, IoLog.Io.run_pure, ConsoleSend.spec]

/-- Every run of covered calls from a ready system goes through, each call returning `Ok`, and
the device ends with the messages the spec, run over the calls, sends. -/
theorem run_refines (ms : List ConsoleSend) (s : ConsoleTx) (hs : Ready s)
    (hvalid : ∀ m ∈ ms, m.Valid) :
    ∃ s', Trace.run (step hal) s ms = some (s', ms.flatMap fun _ ↦ [.ok ()]) ∧
      s'.sent = ms.foldl (fun sent m ↦ m.spec sent) s.sent ∧ Ready s' := by
  have hstep : ∀ (t : ConsoleTx) (m : ConsoleSend), Ready t → m.Valid →
      ∃ t', t.step hal m = some (t', [.ok ()]) ∧ t'.sent = m.spec t.sent ∧ Ready t' ∧
        ∀ m' : ConsoleSend, m'.Valid → m'.Valid := by
    intro t m ht hm
    obtain ⟨t', hstep, hsent, ht'⟩ := step_refines hal ht hm
    exact ⟨t', hstep, hsent, ht', fun _ h ↦ h⟩
  exact Trace.run_refines hstep ms s hs hvalid

end ConsoleTx

namespace VirtIOConsole

theorem new_transmitq (hal : Hal) (transport : MmioTransport) (queueBufRx : ℕ) :
    IoLog.Returns (new hal transport queueBufRx) fun c ↦
      c.transmitq = VirtIoQueue.init QUEUE_SIZE QUEUE_TRANSMITQ_PORT_0 := by
  unfold new
  refine IoLog.Returns.onError ?_
  refine IoLog.Returns.bind_any fun _ ↦ ?_
  refine IoLog.Returns.bind_any fun _ ↦ ?_
  refine IoLog.Returns.bind (VirtIoQueue.new_returns _ _ _ _) fun transmitq htransmit ↦ ?_
  exact IoLog.Returns.bind_any fun _ ↦ IoLog.Returns.pure htransmit

/-- Every console `new` returns sends what it is asked to: against a device that has read
nothing of the transmit queue, every run of covered calls of `send` goes through, each call
returning `Ok`, and the device sends the characters, one message each, in the order of the
calls. -/
theorem chars_sent_in_order (hal : Hal) (transport : MmioTransport) (queueBufRx : ℕ) :
    IoLog.Returns (new hal transport queueBufRx) fun c ↦
      ∀ (mem : UInt64 → UInt8) (ms : List ConsoleSend), (∀ m ∈ ms, m.Valid) →
        ∃ s', Trace.run (ConsoleTx.step hal) ⟨c, ⟨0, []⟩, mem, []⟩ ms =
            some (s', List.replicate ms.length (.ok ())) ∧
          s'.sent = ms.map fun m ↦ [m.chr] := by
  refine (new_transmitq hal transport queueBufRx).mono fun c hc mem ms hvalid ↦ ?_
  have hidle : Idle c.transmitq ⟨0, []⟩ := by
    rw [hc]
    exact VirtIoQueue.idle_init (by decide) _
  have hindex : c.transmitq.queueIdx = QUEUE_TRANSMITQ_PORT_0 := by
    rw [hc]
    rfl
  have hready : ConsoleTx.Ready ⟨c, ⟨0, []⟩, mem, []⟩ := ⟨hidle, hindex⟩
  obtain ⟨s', hrun, hsent, -⟩ := ConsoleTx.run_refines hal ms _ hready hvalid
  have hobs : ms.flatMap (fun _ ↦ [(.ok () : VirtIoResult Unit)]) = List.replicate ms.length (.ok ()) := by
    rw [← List.map_const', ← List.flatMap_singleton' (ms.map _), List.flatMap_map]
  have hmsgs : ms.foldl (fun sent m ↦ m.spec sent) [] = ms.map fun m ↦ [m.chr] := by
    simp only [ConsoleSend.spec, List.foldl_append_eq_append, List.nil_append]
    exact List.map_eq_flatMap.symm
  exact ⟨s', hobs ▸ hrun, hsent.trans hmsgs⟩

end VirtIOConsole

/-! ## The network driver -/

/-- The network driver, the device's side of its send queue, the memory the two share, and the
messages the device has sent. -/
structure NetTx (QUEUE_SIZE : ℕ) where
  net : VirtIONet QUEUE_SIZE
  device : DeviceQueue
  mem : UInt64 → UInt8
  sent : List (List UInt8)

/-- A call of `send` of the packet of `txLen` bytes at `txAddr` against a register file, its
header buffer on the stack at `hdrAddr`. -/
structure NetSend where
  o : IoLog.Oracle Access UInt32 VirtIoError
  h : List Access
  hdrAddr : ℕ
  txAddr : ℕ
  txLen : ℕ

namespace NetSend

open VirtIONetRaw (NET_HDR_SIZE QUEUE_TRANSMIT)

variable (hal : Hal) (m : NetSend)

/-- The chain `send` posts: the header's buffer, chained to the packet's unless the packet is
empty. -/
def chain : List Descriptor :=
  let headerDesc := Descriptor.new hal m.hdrAddr NET_HDR_SIZE.toUInt32
    (if m.txLen = 0 then DescFlag.EMPTY else DescFlag.NEXT)
  if m.txLen = 0 then [headerDesc]
  else [headerDesc, Descriptor.new hal m.txAddr m.txLen.toUInt32 DescFlag.EMPTY]

/-- The calls the refinement covers: a packet below `2 ^ 32` bytes whose buffer lies apart from
the header's, against a register file that accepts the notification. -/
structure Valid : Prop where
  len_lt : m.txLen < 2 ^ 32
  apart : Apart (hal.toPaddr m.hdrAddr).toUInt64 NET_HDR_SIZE (hal.toPaddr m.txAddr).toUInt64 m.txLen
  notify : ∀ e, m.o m.h (.write32 VirtIOHeader.queueNotify QUEUE_TRANSMIT.toUInt32) ≠ .error e

/-- What a call is for: the device sends the default header followed by the packet as the
caller's buffer holds it, and the header's buffer holds the header. -/
def spec : List (List UInt8) × (UInt64 → UInt8) → List (List UInt8) × (UInt64 → UInt8)
  | (sent, mem) =>
    (sent ++ [(default : VirtioNetHdr).layout ++
        ByteMemory.read mem (hal.toPaddr m.txAddr).toUInt64 m.txLen],
      ByteMemory.write mem (hal.toPaddr m.hdrAddr).toUInt64 (default : VirtioNetHdr).layout)

theorem chainShape_chain : ChainShape (m.chain hal) := by
  unfold chain
  split_ifs with hempty
  · exact chainShape_single (by rw [Descriptor.new_hasNext]; decide)
  · exact .cons (by rw [Descriptor.new_hasNext]; decide)
      (chainShape_single (by rw [Descriptor.new_hasNext]; decide))

theorem length_chain : (m.chain hal).length ≤ 2 := by
  unfold chain
  split_ifs <;> simp

variable {hal m}

/-- What the device reads of the chain once the header is in its buffer: the header, then the
packet's first `txLen % 2 ^ 32` bytes, the length its descriptor carries. -/
theorem message_chain {mem : UInt64 → UInt8}
    (hapart : Apart (hal.toPaddr m.hdrAddr).toUInt64 NET_HDR_SIZE (hal.toPaddr m.txAddr).toUInt64
      (m.txLen % 2 ^ 32)) :
    Transmitter.message
        (ByteMemory.write mem (hal.toPaddr m.hdrAddr).toUInt64 (default : VirtioNetHdr).layout)
        (m.chain hal) =
      (default : VirtioNetHdr).layout ++
        ByteMemory.read mem (hal.toPaddr m.txAddr).toUInt64 (m.txLen % 2 ^ 32) := by
  have hheader : ByteMemory.read
      (ByteMemory.write mem (hal.toPaddr m.hdrAddr).toUInt64 (default : VirtioNetHdr).layout)
      (hal.toPaddr m.hdrAddr).toUInt64 (default : VirtioNetHdr).layout.length =
      (default : VirtioNetHdr).layout :=
    ByteMemory.read_write (by simp [NET_HDR_SIZE])
  have hlen : NET_HDR_SIZE.toUInt32.toNat = NET_HDR_SIZE := rfl
  rw [VirtioNetHdr.length_layout, ← hlen] at hheader
  unfold chain
  split_ifs with hempty
  · simp only [Transmitter.message, Descriptor.new, List.flatMap_cons, List.flatMap_nil,
      List.append_nil, hheader, hempty, Nat.zero_mod, ByteMemory.read_zero]
  · have hapart' : Apart (hal.toPaddr m.hdrAddr).toUInt64 (default : VirtioNetHdr).layout.length
        (hal.toPaddr m.txAddr).toUInt64 (m.txLen % 2 ^ 32) := by
      rwa [VirtioNetHdr.length_layout]
    have hpacket : m.txLen.toUInt32.toNat = m.txLen % 2 ^ 32 := UInt32.toNat_ofNat'
    simp only [Transmitter.message, Descriptor.new, List.flatMap_cons, List.flatMap_nil,
      List.append_nil, hheader, hpacket, ByteMemory.read_write_apart hapart']

end NetSend

namespace NetTx

open VirtIONetRaw (NET_HDR_SIZE QUEUE_TRANSMIT)

variable {QUEUE_SIZE : ℕ} (hal : Hal)

/-- One call of `send`: the default header written into the call's header buffer, the device's
turn on the chain `send` posts while the driver waits, and what the call returns; `none` when the
driver panics. -/
def step (s : NetTx QUEUE_SIZE) (m : NetSend) : Option (NetTx QUEUE_SIZE × List (VirtIoResult Unit)) :=
  -- `let mut header_buf = [0u8; size_of::<VirtioNetHdr>()]`, then `write_to` of the default header
  match (default : VirtioNetHdr).writeTo (List.replicate NET_HDR_SIZE 0) with
  | none => none
  | some headerBuf =>
    let mem := ByteMemory.write s.mem (hal.toPaddr m.hdrAddr).toUInt64 headerBuf
    let (used, device, sent) := DeviceQueue.turn QUEUE_SIZE (Transmitter.transmit mem)
      s.net.inner.sendQueue (m.chain hal) s.device s.sent
    match ((s.net.send hal m.hdrAddr m.txAddr m.txLen used).run m.o m.h).1 with
    | .ok (r, net) => some (⟨net, device, mem, sent⟩, [r])
    | _ => none

theorem writeTo_default :
    (default : VirtioNetHdr).writeTo (List.replicate NET_HDR_SIZE 0) =
      some (default : VirtioNetHdr).layout := by
  decide

/-- `send` posts `NetSend.chain`: once the wait returns a length, the call returns `Ok` with the
queue the wait leaves. -/
theorem send_of_addNotifyWaitPop {net : VirtIONet QUEUE_SIZE} {m : NetSend} {used : UsedRing}
    {o : IoLog.Oracle Access UInt32 VirtIoError} {h : List Access} {q' : VirtIoQueue QUEUE_SIZE}
    {len : UInt32} {log : List (Access × Except VirtIoError UInt32)}
    (hrun : (net.inner.sendQueue.addNotifyWaitPop (m.chain hal) used used).run o h =
      (.ok (.ok len, q'), log)) :
    (net.send hal m.hdrAddr m.txAddr m.txLen used).run o h =
      (.ok (.ok (), { net with inner := { net.inner with sendQueue := q' } }), log) := by
  simp only [NetSend.chain] at hrun
  simp only [VirtIONet.send, VirtIONetRaw.send, IoLog.Io.bind_eq, IoLog.Io.run_bind, hrun,
    IoLog.Io.pure_eq, IoLog.Io.run_pure, List.append_nil]

/-- The send queue between two calls: idle, on its own index. -/
structure Ready (s : NetTx QUEUE_SIZE) : Prop where
  idle : Idle s.net.inner.sendQueue s.device
  index : s.net.inner.sendQueue.queueIdx = QUEUE_TRANSMIT

/-- A driver with fresh queues over a modern transport, a device that has read nothing of the
send queue, and zeroed memory. -/
def fresh (QUEUE_SIZE : ℕ) : NetTx QUEUE_SIZE :=
  ⟨⟨⟨⟨.modern⟩, [], VirtIoQueue.init QUEUE_SIZE VirtIONetRaw.QUEUE_RECEIVE,
    VirtIoQueue.init QUEUE_SIZE QUEUE_TRANSMIT⟩, fun _ ↦ 0, 0⟩, ⟨0, []⟩, fun _ ↦ 0, []⟩

theorem ready_fresh (h : QUEUE_SIZE ≤ 2 ^ 16) : Ready (fresh QUEUE_SIZE) :=
  ⟨VirtIoQueue.idle_init h _, rfl⟩

/-- From a ready system on a queue of at least two descriptors, a call whose header buffer lies
apart from the packet's first `txLen % 2 ^ 32` bytes, against a register file that accepts the
notification, returns `Ok`: the device sends the default header followed by those bytes, the
header buffer holds the header, and the system is ready again. -/
theorem step_sends (h2 : 2 ≤ QUEUE_SIZE) {s : NetTx QUEUE_SIZE} (hs : Ready s) {m : NetSend}
    (hapart : Apart (hal.toPaddr m.hdrAddr).toUInt64 NET_HDR_SIZE (hal.toPaddr m.txAddr).toUInt64
      (m.txLen % 2 ^ 32))
    (hnotify : ∀ e, m.o m.h (.write32 VirtIOHeader.queueNotify QUEUE_TRANSMIT.toUInt32) ≠ .error e) :
    ∃ s', s.step hal m = some (s', [.ok ()]) ∧
      s'.sent = s.sent ++ [(default : VirtioNetHdr).layout ++
        ByteMemory.read s.mem (hal.toPaddr m.txAddr).toUInt64 (m.txLen % 2 ^ 32)] ∧
      s'.mem = ByteMemory.write s.mem (hal.toPaddr m.hdrAddr).toUInt64 (default : VirtioNetHdr).layout ∧
      Ready s' := by
  have hnotify' : ∀ e, m.o m.h (.write32 VirtIOHeader.queueNotify
      s.net.inner.sendQueue.queueIdx.toUInt32) ≠ .error e := by
    rw [hs.index]
    exact hnotify
  obtain ⟨q', log, hrun, hturn, hidle, hidx⟩ :=
    Transmitter.addNotifyWaitPop hs.idle (m.chainShape_chain hal) ((m.length_chain hal).trans h2)
      hnotify' (ByteMemory.write s.mem (hal.toPaddr m.hdrAddr).toUInt64 (default : VirtioNetHdr).layout)
      s.sent
  rw [NetSend.message_chain hapart] at hturn
  refine ⟨⟨{ s.net with inner := { s.net.inner with sendQueue := q' } }, ⟨s.device.nextAvail + 1, []⟩,
    ByteMemory.write s.mem (hal.toPaddr m.hdrAddr).toUInt64 (default : VirtioNetHdr).layout, _⟩, ?_,
    rfl, rfl, ⟨hidle, hidx.trans hs.index⟩⟩
  simp only [step, writeTo_default, hturn, send_of_addNotifyWaitPop hal hrun]

/-- What the refinement sees of the system: the messages sent and the memory. -/
def view (s : NetTx QUEUE_SIZE) : List (List UInt8) × (UInt64 → UInt8) := (s.sent, s.mem)

/-- From a ready system on a queue of at least two descriptors, a covered call returns `Ok`,
moves the messages and the memory as the spec does, and leaves the system ready. -/
theorem step_refines (h2 : 2 ≤ QUEUE_SIZE) {s : NetTx QUEUE_SIZE} (hs : Ready s) {m : NetSend}
    (hm : m.Valid hal) :
    ∃ s', s.step hal m = some (s', [.ok ()]) ∧ view s' = m.spec hal (view s) ∧ Ready s' := by
  have hmod : m.txLen % 2 ^ 32 = m.txLen := Nat.mod_eq_of_lt hm.len_lt
  have hapart : Apart (hal.toPaddr m.hdrAddr).toUInt64 NET_HDR_SIZE (hal.toPaddr m.txAddr).toUInt64
      (m.txLen % 2 ^ 32) := by
    rw [hmod]
    exact hm.apart
  obtain ⟨s', hstep, hsent, hmem, hs'⟩ := step_sends hal h2 hs hapart hm.notify
  refine ⟨s', hstep, ?_, hs'⟩
  rw [view, hsent, hmem, hmod]
  rfl

/-- Every run of covered calls from a ready system on a queue of at least two descriptors goes
through, each call returning `Ok`, and the messages and the memory end as the spec, run over
the calls, leaves them. -/
theorem run_refines (h2 : 2 ≤ QUEUE_SIZE) (ms : List NetSend) (s : NetTx QUEUE_SIZE) (hs : Ready s)
    (hvalid : ∀ m ∈ ms, m.Valid hal) :
    ∃ s', Trace.run (step hal) s ms = some (s', ms.flatMap fun _ ↦ [.ok ()]) ∧
      view s' = ms.foldl (fun v m ↦ m.spec hal v) (view s) ∧ Ready s' := by
  have hstep : ∀ (t : NetTx QUEUE_SIZE) (m : NetSend), Ready t → m.Valid hal →
      ∃ t', t.step hal m = some (t', [.ok ()]) ∧ view t' = m.spec hal (view t) ∧ Ready t' ∧
        ∀ m' : NetSend, m'.Valid hal → m'.Valid hal := by
    intro t m ht hm
    obtain ⟨t', hstep, hview, ht'⟩ := step_refines hal h2 ht hm
    exact ⟨t', hstep, hview, ht', fun _ h ↦ h⟩
  exact Trace.run_refines hstep ms s hs hvalid

/-- Past `u32` the packet is cut: from a ready system on a queue of at least two descriptors, a
call of `send` with a packet of `2 ^ 32` bytes or more still returns `Ok`, but the device sends
the header followed by only the packet's first `txLen % 2 ^ 32` bytes, fewer than it holds. -/
theorem send_truncates (h2 : 2 ≤ QUEUE_SIZE) {s : NetTx QUEUE_SIZE} (hs : Ready s) {m : NetSend}
    (hlen : 2 ^ 32 ≤ m.txLen)
    (hapart : Apart (hal.toPaddr m.hdrAddr).toUInt64 NET_HDR_SIZE (hal.toPaddr m.txAddr).toUInt64
      (m.txLen % 2 ^ 32))
    (hnotify : ∀ e, m.o m.h (.write32 VirtIOHeader.queueNotify QUEUE_TRANSMIT.toUInt32) ≠ .error e) :
    ∃ s', s.step hal m = some (s', [.ok ()]) ∧
      s'.sent = s.sent ++ [(default : VirtioNetHdr).layout ++
        (ByteMemory.read s.mem (hal.toPaddr m.txAddr).toUInt64 m.txLen).take (m.txLen % 2 ^ 32)] ∧
      m.txLen % 2 ^ 32 < m.txLen := by
  have hcut : m.txLen % 2 ^ 32 < m.txLen := lt_of_lt_of_le (Nat.mod_lt _ (by norm_num)) hlen
  obtain ⟨s', hstep, hsent, -, -⟩ := step_sends hal h2 hs hapart hnotify
  refine ⟨s', hstep, ?_, hcut⟩
  rw [hsent, ByteMemory.take_read hcut.le]

/-- A fresh queue of two descriptors and a packet of `2 ^ 32 + 16` bytes: the call returns `Ok`
and the device sends the header with the packet's first sixteen bytes. -/
theorem send_truncates_fresh :
    Ready (fresh 2) ∧ 2 ^ 32 ≤ 2 ^ 32 + 16 ∧
      Apart (identityHal.toPaddr 0x2000).toUInt64 NET_HDR_SIZE (identityHal.toPaddr 0x10000).toUInt64
        ((2 ^ 32 + 16) % 2 ^ 32) ∧
      ∃ s', (fresh 2).step identityHal ⟨quietRegisters, [], 0x2000, 0x10000, 2 ^ 32 + 16⟩ =
          some (s', [.ok ()]) ∧
        s'.sent = [(default : VirtioNetHdr).layout ++ ByteMemory.read (fun _ ↦ 0) 0x10000 16] := by
  have hs : Ready (fresh 2) := ready_fresh (by norm_num)
  have hapart : Apart (identityHal.toPaddr 0x2000).toUInt64 NET_HDR_SIZE
      (identityHal.toPaddr 0x10000).toUInt64 ((2 ^ 32 + 16) % 2 ^ 32) := by
    unfold ByteMemory.Apart
    decide
  obtain ⟨s', hstep, hsent, -⟩ :=
    send_truncates identityHal (le_refl 2) hs (m := ⟨quietRegisters, [], 0x2000, 0x10000, 2 ^ 32 + 16⟩)
      (by norm_num) hapart
      (quietRegisters_write32_ne_error [] VirtIOHeader.queueNotify QUEUE_TRANSMIT.toUInt32)
  refine ⟨hs, by norm_num, hapart, s', hstep, ?_⟩
  rw [hsent, ByteMemory.take_read (by norm_num)]
  rfl

end NetTx

namespace VirtIONetRaw

variable {QUEUE_SIZE : ℕ}

end VirtIONetRaw

namespace VirtIONet

variable {QUEUE_SIZE : ℕ}

end VirtIONet

end SafeVirtio
