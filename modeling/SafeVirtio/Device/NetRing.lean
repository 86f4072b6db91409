import SafeVirtio.Device.InitOrder
import SafeVirtio.Queue.Device
import SafeVirtio.Lib.Channel
import SafeVirtio.Lib.ByteMemory

/-!
# The network driver's receive ring

`VirtIONet::new` posts its `QUEUE_SIZE` receive buffers, buffer `i` under token `i`, and
`receive` takes the completion at `last_seen_used`, copies the packet out of the buffer and posts
the same buffer again, asserting that `add` hands back the same token.  `add` hands out the front
of the free deque and `pop_used` puts the freed descriptor at its back, so the assertion holds
only while the freed descriptor is the only free one.

`NetSystem` puts the driver together with the device's side of the receive queue and the memory
the device writes packets into; the device reads the available ring in order and completes the
buffers it has read in any order, writing at most a buffer's length into it.  Nothing makes the
device write a whole packet header: `receive_complete` refuses a shorter completion with
`IoError` after `pop_used` has freed its descriptor, and `receive` returns that error with `?`,
before the buffer is posted again (`receive_short`).  From then on the free deque holds a
descriptor, and a later `receive` of a whole packet posts its buffer under that descriptor's token
and fails its assertion (`receive_panics_of_free`).

`can_recv` is documented to return the token and the packet's length, but it returns the length
of the token's descriptor, which is the capacity of the buffer, while `receive_complete` takes the
length the device wrote into the used entry, less the header (`receiveComplete_of_canRecv`).
After a packet of 100 bytes `can_recv` reports `MIN_BUFFER_LEN` and `receive` returns 90
(`can_recv_reports_capacity`).
-/

namespace SafeVirtio

open VirtIONetRaw (NET_HDR_SIZE MIN_BUFFER_LEN QUEUE_RECEIVE)

/-- The network driver, the device's side of its receive queue, and the memory the device writes
packets into, by physical address. -/
structure NetSystem (QUEUE_SIZE : ℕ) where
  net : VirtIONet QUEUE_SIZE
  device : DeviceQueue
  mem : UInt64 → UInt8

/-- A call of the driver, or a move of the device. -/
inductive NetMove
  /-- `receive` into the caller's buffer `data`, against a register file. -/
  | receive (o : IoLog.Oracle Access UInt32 VirtIoError) (h : List Access) (data : List UInt8)
  /-- `send` of the packet of `txLen` bytes at `txAddr`, the header at `hdrAddr`; `used` is the
  send queue's used ring as the wait finds it. -/
  | send (o : IoLog.Oracle Access UInt32 VirtIoError) (h : List Access) (hdrAddr txAddr txLen : ℕ)
    (used : UsedRing)
  /-- The device reads the next published receive buffer. -/
  | fetch
  /-- The device writes `packet`, header included, into a buffer it has read, and completes the
  buffer with the number of bytes written. -/
  | complete (head : UInt16) (packet : List UInt8)

namespace NetSystem

variable {QUEUE_SIZE : ℕ} (hal : Hal)

/-- One move, with what `receive` returned; `none` when the driver panics or the device's move is
not enabled.  The device never writes past the end of a buffer. -/
def step (s : NetSystem QUEUE_SIZE) : NetMove → Option (NetSystem QUEUE_SIZE × List (VirtIoResult ℕ))
  | .receive o h data =>
    match ((s.net.receive hal s.mem data).run o h).1 with
    | .ok (r, _, net) => some ({ s with net }, [r])
    | _ => none
  | .send o h hdrAddr txAddr txLen used =>
    match ((s.net.send hal hdrAddr txAddr txLen used).run o h).1 with
    | .ok (_, net) => some ({ s with net }, [])
    | _ => none
  | .fetch =>
    (DeviceQueue.fetch s.net.inner.recvQueue s.device).map fun device ↦ ({ s with device }, [])
  | .complete head packet =>
    let buf := s.net.inner.recvQueue.descriptorTable head.toNat
    if packet.length ≤ buf.len.toNat then
      (DeviceQueue.complete s.net.inner.recvQueue s.device head packet.length.toUInt32).map
        fun (q, device) ↦
          (⟨{ s.net with inner := { s.net.inner with recvQueue := q } }, device,
            ByteMemory.write s.mem buf.addr packet⟩, [])
    else none

end NetSystem

namespace VirtIONetRaw

variable {QUEUE_SIZE : ℕ}

/-- What `can_recv` and a following `receive_complete` read of one completion.  `can_recv`
reports the token at `last_seen_used` with the length of the token's descriptor, the buffer's
capacity; `receive_complete` takes the length the device wrote into the used entry there, less
the header. -/
theorem receiveComplete_of_canRecv {net net' : VirtIONetRaw QUEUE_SIZE} {t : UInt16}
    {n hdr m : ℕ} (hcan : net.canRecv = some (some (t, n)))
    (hid : (net.recvQueue.usedRing.ring
      (net.recvQueue.lastSeenUsed.toNat % QUEUE_SIZE)).id.toNat < 2 ^ 16)
    (hrc : net.receiveComplete t = some (.ok (hdr, m), net')) :
    n = (net.recvQueue.descriptorTable t.toNat).len.toNat ∧ hdr = NET_HDR_SIZE ∧
      m + NET_HDR_SIZE = (net.recvQueue.usedRing.ring
        (net.recvQueue.lastSeenUsed.toNat % QUEUE_SIZE)).len.toNat := by
  unfold canRecv at hcan
  cases hpeek : net.recvQueue.peekUsed with
  | none => simp [hpeek] at hcan
  | some t' =>
    simp only [hpeek] at hcan
    obtain ⟨dlen, hdlen, hres⟩ := Option.map_eq_some_iff.mp hcan
    obtain ⟨rfl, rfl⟩ : t' = t ∧ dlen = n := by simpa using hres
    obtain ⟨hne, htok⟩ := VirtIoQueue.peekUsed_eq_some hpeek
    have hn : dlen = (net.recvQueue.descriptorTable t'.toNat).len.toNat := by
      unfold VirtIoQueue.getDescLen at hdlen
      split_ifs at hdlen
      exact (Option.some.inj hdlen).symm
    have hmatch : net.recvQueue.usedMatches t' net.recvQueue.lastSeenUsed = true := by
      rw [VirtIoQueue.usedMatches, ← htok, beq_iff_eq]
      apply UInt32.toNat_inj.mp
      simp only [UInt16.toNat_toUInt32, UInt32.toNat_toUInt16]
      exact (Nat.mod_eq_of_lt hid).symm
    have hscan := VirtIoQueue.scan_of_usedMatches_last hne hmatch
    unfold receiveComplete at hrc
    obtain ⟨⟨r, q⟩, hpop, hres⟩ := Option.map_eq_some_iff.mp hrc
    cases r with
    | error e => simp at hres
    | ok len =>
      obtain ⟨p, chain, hscan', -, hlen', -⟩ := VirtIoQueue.popUsed_ok_cases hpop
      rw [hscan] at hscan'
      cases hscan'
      dsimp only at hres
      split_ifs at hres with hshort
      · simp at hres
      · obtain ⟨⟨rfl, rfl⟩, -⟩ : (NET_HDR_SIZE = hdr ∧ len.toNat - NET_HDR_SIZE = m) ∧ _ := by
          simpa using hres
        refine ⟨hn, rfl, ?_⟩
        rw [← hlen']
        omega

end VirtIONetRaw

namespace VirtIONet

variable {QUEUE_SIZE : ℕ} {hal : Hal} {net : VirtIONet QUEUE_SIZE} {token : UInt16} {len : UInt32}
  {q : VirtIoQueue QUEUE_SIZE}

theorem canRecv_of_peek (hpeek : net.inner.recvQueue.peekUsed = some token)
    (hlt : token.toNat < QUEUE_SIZE) :
    net.inner.canRecv = some (some (token, (net.inner.recvQueue.descriptorTable
      token.toNat).len.toNat)) := by
  simp [VirtIONetRaw.canRecv, hpeek, VirtIoQueue.getDescLen, hlt]

/-- Once the receive queue has a free descriptor other than the completed buffer's, `receive` of a
whole packet that fits the caller's buffer posts the buffer under that descriptor's token and
panics at its assertion, unless the notification fails. -/
theorem receive_panics_of_free {f : UInt16} {rest : List UInt16}
    (hpeek : net.inner.recvQueue.peekUsed = some token) (hlt : token.toNat < QUEUE_SIZE)
    (hpop : net.inner.recvQueue.popUsed token = some (.ok len, q))
    (hfree : net.inner.recvQueue.availDescIndex = f :: rest) (hf : f ≠ token)
    (hhdr : NET_HDR_SIZE ≤ len.toNat) (hlen : len.toNat ≤ net.bufLen)
    (hdata : net.bufLen ≤ data.length) (hmin : MIN_BUFFER_LEN ≤ net.bufLen) (mem : UInt64 → UInt8)
    (o : IoLog.Oracle Access UInt32 VirtIoError) (h : List Access)
    (hnotify : ∀ e, o h (.write32 VirtIOHeader.queueNotify QUEUE_RECEIVE.toUInt32) ≠ .error e) :
    ((net.receive hal mem data).run o h).1 = .panic := by
  obtain ⟨p, chain, -, -, -, hq⟩ := VirtIoQueue.popUsed_ok_cases hpop
  have hfree' : q.availDescIndex = f :: (rest ++ chain.map Nat.toUInt16) := by
    rw [hq, VirtIoQueue.popped_availDescIndex, hfree, List.cons_append]
  have hadd := VirtIoQueue.add_single
    (d := Descriptor.new hal (net.rxBuffers token.toNat) net.bufLen.toUInt32 DescFlag.WRITE) hfree'
  have hcan := canRecv_of_peek hpeek hlt
  have hcomplete : net.inner.receiveComplete token =
      some (.ok (NET_HDR_SIZE, len.toNat - NET_HDR_SIZE), { net.inner with recvQueue := q }) := by
    simp [VirtIONetRaw.receiveComplete, hpop, not_lt.mpr hhdr]
  have hslices : ¬ (data.length < len.toNat - NET_HDR_SIZE ∨
      net.bufLen < NET_HDR_SIZE + (len.toNat - NET_HDR_SIZE)) := by
    omega
  simp only [receive, hcan, not_le.mpr hlt, if_false, hcomplete, hslices]
  simp only [VirtIONetRaw.receiveBegin, VirtIONetRaw.checkRxBufLen, not_lt.mpr hmin, if_false,
    VirtIoQueue.addNotify, hadd]
  split
  · cases hv : o h (.write32 VirtIOHeader.queueNotify QUEUE_RECEIVE.toUInt32) with
    | error e => exact absurd hv (hnotify e)
    | ok v =>
      simp [IoLog.Io.run_question, MmioTransport.notify, Mmio.write32, IoLog.Io.run_bind,
        IoLog.Io.run_access, hv, hf]
  · simp [IoLog.Io.run_bind, hf]

end VirtIONet

namespace NetSystem

/-- Two receive buffers, 4 KiB apart. -/
def rxBuffers : ℕ → ℕ := fun i ↦ 0x10000 + 0x1000 * i

/-- The system right after `new` returned against `quietRegisters`, with two buffers of
`MIN_BUFFER_LEN` bytes, before the device has read anything. -/
def start : Option (NetSystem 2) :=
  match ((VirtIONet.new 2 identityHal ⟨.modern⟩ false rxBuffers MIN_BUFFER_LEN).run
      quietRegisters []).1 with
  | .ok net => some ⟨net, ⟨0, []⟩, fun _ ↦ 0⟩
  | _ => none

/-- The caller's buffer, as long as a receive buffer. -/
def rxData : List UInt8 := List.replicate MIN_BUFFER_LEN 0

/-- The device reads both buffers and completes buffer `0` with four bytes, less than a header;
the driver receives. -/
def shortRun : List NetMove :=
  [.fetch, .fetch, .complete 0 [1, 2, 3, 4], .receive quietRegisters [] rxData]

/-- The short completion makes `receive` return `IoError` and leaves descriptor `0` free;
once the device completes buffer `1` with a whole packet, the next `receive` panics. -/
theorem short_packet_breaks_receive :
    (start.bind fun s ↦ Trace.run (step identityHal) s shortRun).map
        (fun r ↦ (r.2, r.1.net.inner.recvQueue.availDescIndex)) = some ([.error .ioError], [0]) ∧
      (start.bind fun s ↦ Trace.run (step identityHal) s
          (shortRun ++ [.complete 1 (List.replicate 100 7)])).map
        (fun r ↦ ((r.1.net.receive identityHal r.1.mem rxData).run quietRegisters []).1.isPanic) =
        some true := by
  decide +kernel

/-- After all of `shortRun` and the device's completion of buffer `1` with a whole packet, the
free deque holds descriptor `0`: the theorem's `receive` panics. -/
theorem receive_panics_of_free_run :
    ∃ r, (start.bind fun s ↦ Trace.run (step identityHal) s
        (shortRun ++ [.complete 1 (List.replicate 100 7)])) = some r ∧
      r.1.net.inner.recvQueue.availDescIndex = [0] ∧
      ((r.1.net.receive identityHal r.1.mem rxData).run quietRegisters []).1 = .panic := by
  obtain ⟨r, hr, hfacts⟩ := Option.map_eq_some_iff.mp
    (show (start.bind fun s ↦ Trace.run (step identityHal) s
      (shortRun ++ [.complete 1 (List.replicate 100 7)])).map
      (fun r ↦ (r.1.net.inner.recvQueue.peekUsed, (r.1.net.inner.recvQueue.popUsed 1).map Prod.fst,
        r.1.net.inner.recvQueue.availDescIndex, r.1.net.bufLen)) =
      some (some 1, some (.ok 100), [0], MIN_BUFFER_LEN) by decide +kernel)
  simp only [Prod.mk.injEq] at hfacts
  obtain ⟨hpeek, hpop, hfree, hbuf⟩ := hfacts
  obtain ⟨⟨_, q⟩, hpop, rfl⟩ := Option.map_eq_some_iff.mp hpop
  have hlen : (100 : UInt32).toNat ≤ r.1.net.bufLen := by
    rw [hbuf]
    decide
  have hdata : r.1.net.bufLen ≤ rxData.length := by
    rw [hbuf, rxData, List.length_replicate]
  exact ⟨r, hr, hfree, VirtIONet.receive_panics_of_free hpeek (by decide) hpop hfree (by decide)
    (by decide) hlen hdata hbuf.ge _ _ _ (quietRegisters_write32_ne_error [] _ _)⟩

/-- The device reads both buffers and completes buffer `0` with a packet of 100 bytes, header
included. -/
def packetRun : List NetMove :=
  [.fetch, .fetch, .complete 0 (List.replicate 100 7)]

/-- After `packetRun` `can_recv` reports token `0` with `MIN_BUFFER_LEN` bytes, the capacity of
the buffer, while `receive_complete(0)` gives the 90 bytes of the packet after the header, and so
does `receive`. -/
theorem can_recv_reports_capacity :
    (start.bind fun s ↦ Trace.run (step identityHal) s packetRun).map
        (fun r ↦ (r.1.net.inner.canRecv, (r.1.net.inner.receiveComplete 0).map Prod.fst)) =
      some (some (some (0, MIN_BUFFER_LEN)), some (.ok (NET_HDR_SIZE, 90))) ∧
    (start.bind fun s ↦ Trace.run (step identityHal) s
        (packetRun ++ [.receive quietRegisters [] rxData])).map Prod.snd = some [.ok 90] := by
  decide +kernel

/-- After `packetRun` the theorem says what `can_recv` and `receive_complete(0)` read of the
completion: the descriptor's length, and the used length less the header. -/
theorem receiveComplete_of_canRecv_packet :
    ∃ r net', (start.bind fun s ↦ Trace.run (step identityHal) s packetRun) = some r ∧
      r.1.net.inner.canRecv = some (some (0, MIN_BUFFER_LEN)) ∧
      r.1.net.inner.receiveComplete 0 = some (.ok (NET_HDR_SIZE, 90), net') ∧
      MIN_BUFFER_LEN = (r.1.net.inner.recvQueue.descriptorTable 0).len.toNat ∧
      90 + NET_HDR_SIZE = (r.1.net.inner.recvQueue.usedRing.ring
        (r.1.net.inner.recvQueue.lastSeenUsed.toNat % 2)).len.toNat := by
  obtain ⟨r, hr, hfacts⟩ := Option.map_eq_some_iff.mp
    (show (start.bind fun s ↦ Trace.run (step identityHal) s packetRun).map
      (fun r ↦ (r.1.net.inner.canRecv, (r.1.net.inner.receiveComplete 0).map Prod.fst)) =
      some (some (some (0, MIN_BUFFER_LEN)), some (.ok (NET_HDR_SIZE, 90))) by decide +kernel)
  have hentry : (start.bind fun s ↦ Trace.run (step identityHal) s packetRun).map
      (fun r ↦ (r.1.net.inner.recvQueue.usedRing.ring
        (r.1.net.inner.recvQueue.lastSeenUsed.toNat % 2)).id) = some 0 := by
    decide +kernel
  simp only [Prod.mk.injEq] at hfacts
  simp only [hr, Option.map_some, Option.some.injEq] at hentry
  obtain ⟨hcan, hrc⟩ := hfacts
  have hid : (r.1.net.inner.recvQueue.usedRing.ring
      (r.1.net.inner.recvQueue.lastSeenUsed.toNat % 2)).id.toNat < 2 ^ 16 := by
    rw [hentry]
    decide
  obtain ⟨⟨_, net'⟩, hrc, rfl⟩ := Option.map_eq_some_iff.mp hrc
  obtain ⟨hn, -, hm⟩ := VirtIONetRaw.receiveComplete_of_canRecv hcan hid hrc
  exact ⟨r, net', hr, hcan, hrc, hn, hm⟩

end NetSystem

end SafeVirtio
