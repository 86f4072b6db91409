import SafeVirtio.Device.InitOrder
import SafeVirtio.Queue.Device

/-!
# The console's receive path

The console spreads one receive request over three methods: `poll_retrieve` posts the page,
`finish_receive` completes the request once `peek_used` names its token, and `recv` and
`recv_block` hand out the bytes between `cursor` and `pending_len`.  But `poll_retrieve` posts
through `add_notify_wait_pop`, which already waits for the device's completion and pops it; it
then drops the length and records `Some(0)` as the outstanding token.  Nothing is outstanding any
more and `last_seen_used` has moved past the completion, so `peek_used` never names the token
again.

`Stuck` is that state: token `0` recorded, no completion waiting on the used ring, no byte
pending.  `finish_receive` and `poll_retrieve` leave it as it is, `recv` returns `None` in it
and `recv_block` loops for ever (`recvBlock_stuck`).  The first turn of `recv_block` on the
console `new` returns reaches it as soon as the device completes the page
(`pollRetrieve_fresh`), with whatever length: the bytes the device wrote are never handed out.
-/

namespace SafeVirtio

namespace VirtIOConsole

/-- Whatever the device answers, the console `new` returns has a fresh receive queue, no
outstanding request and nothing pending. -/
theorem new_returns (hal : Hal) (transport : MmioTransport) (queueBufRx : ℕ) :
    IoLog.Returns (new hal transport queueBufRx) fun c ↦
      c.receiveq = VirtIoQueue.init QUEUE_SIZE QUEUE_RECEIVEQ_PORT_0 ∧ c.receiveToken = none ∧
        c.cursor = c.pendingLen := by
  unfold new
  refine IoLog.Returns.onError ?_
  refine IoLog.Returns.bind_any fun _ ↦ ?_
  refine IoLog.Returns.bind (VirtIoQueue.new_returns _ _ _ _) fun receiveq hreceive ↦ ?_
  refine IoLog.Returns.bind_any fun _ ↦ ?_
  exact IoLog.Returns.bind_any fun _ ↦
    IoLog.Returns.pure ⟨hreceive, rfl, rfl⟩

/-- The console has recorded token `0` as outstanding, the receive queue has no completion
waiting, and no byte is pending. -/
structure Stuck (c : VirtIOConsole) : Prop where
  token : c.receiveToken = some 0
  empty : c.receiveq.peekUsed = none
  drained : c.cursor = c.pendingLen

variable {c : VirtIOConsole} {hal : Hal}

theorem finishReceive_stuck (hs : Stuck c) : c.finishReceive = some (.ok false, c) := by
  simp [finishReceive, hs.token, hs.empty]

theorem pollRetrieve_stuck (hs : Stuck c) (used : UsedRing) (o : IoLog.Oracle Access UInt32 VirtIoError)
    (h : List Access) : (c.pollRetrieve hal used).run o h = (.ok (.ok (), c), []) := by
  simp [pollRetrieve, hs.token]

/-- `recv_block` on a stuck console spins: every turn finds nothing, so the loop exhausts every
fuel. -/
theorem recvBlock_stuck (hs : Stuck c) (mem : UInt64 → UInt8) (used : UsedRing)
    (o : IoLog.Oracle Access UInt32 VirtIoError) (h : List Access) :
    ∀ fuel, (recvBlock hal mem used fuel c).run o h = (.panic, [])
  | 0 => rfl
  | fuel + 1 => by
    have hpoll : (c.pollRetrieve hal used).run o h = (.ok (.ok (), c), []) :=
      pollRetrieve_stuck hs used o h
    have hrest := recvBlock_stuck hs mem used o h fuel
    simp only [recvBlock, finishReceive_stuck hs, IoLog.Io.bind_eq, IoLog.Io.run_bind, hpoll,
      hs.drained, if_true, List.map_nil, List.append_nil, hrest]

/-- The used ring of the fresh receive queue once the device has completed descriptor `0` with
`len` bytes. -/
def completedFirst (len : UInt32) : UsedRing :=
  DeviceQueue.pushUsed QUEUE_SIZE (VirtIoQueue.init QUEUE_SIZE QUEUE_RECEIVEQ_PORT_0).usedRing 0 len

/-- On a fresh receive queue with nothing pending, `poll_retrieve` posts the page under token `0`,
and when the device completes it, pops it and returns with the console stuck: both descriptors
are free, yet token `0` is recorded as outstanding. -/
theorem pollRetrieve_fresh (hq : c.receiveq = VirtIoQueue.init QUEUE_SIZE QUEUE_RECEIVEQ_PORT_0)
    (htoken : c.receiveToken = none) (hcur : c.cursor = c.pendingLen) (len : UInt32)
    (o : IoLog.Oracle Access UInt32 VirtIoError) (h : List Access)
    (hnotify : ∀ e, o h (.write32 VirtIOHeader.queueNotify QUEUE_RECEIVEQ_PORT_0.toUInt32) ≠ .error e) :
    ∃ c' log, (c.pollRetrieve hal (completedFirst len)).run o h = (.ok (.ok (), c'), log) ∧
      Stuck c' ∧ c'.receiveq.availDescIndex = [1, 0] := by
  have hfree : c.receiveq.availDescIndex = 0 :: [1] := by
    rw [hq]
    rfl
  have hadd := VirtIoQueue.add_single
    (d := Descriptor.new hal c.queueBufRx PAGE_SIZE.toUInt32 DescFlag.WRITE) hfree
  set q₁ : VirtIoQueue QUEUE_SIZE := { c.receiveq with
    descriptorTable := Function.update c.receiveq.descriptorTable ((0 : UInt16).toNat % QUEUE_SIZE)
      (Descriptor.new hal c.queueBufRx PAGE_SIZE.toUInt32 DescFlag.WRITE)
    availDescIndex := [1]
    availRing := { c.receiveq.availRing with
      ring := Function.update c.receiveq.availRing.ring
        (c.receiveq.availRing.idx.toNat % QUEUE_SIZE) 0
      idx := c.receiveq.availRing.idx + 1 } } with hq₁
  set q₂ : VirtIoQueue QUEUE_SIZE := { q₁ with usedRing := completedFirst len } with hq₂
  have hne : q₂.lastSeenUsed ≠ q₂.usedRing.idx := by
    simp [q₂, q₁, hq, completedFirst, DeviceQueue.pushUsed, VirtIoQueue.init]
  have hmatch : q₂.usedMatches 0 q₂.lastSeenUsed = true := by
    simp [q₂, q₁, hq, completedFirst, DeviceQueue.pushUsed, VirtIoQueue.init,
      VirtIoQueue.usedMatches]
  have hpoped : q₂.popedUsed = ∅ := by
    simp [q₂, q₁, hq, VirtIoQueue.init]
  have hlast : (q₂.descriptorTable (0 : UInt16).toNat).hasNext = false := by
    simp [q₂, q₁, Descriptor.new, Descriptor.hasNext]
    decide
  have hpop := VirtIoQueue.popUsed_front hne hmatch hpoped (by decide) hlast
  have hidx : c.receiveq.queueIdx = QUEUE_RECEIVEQ_PORT_0 := by
    rw [hq]
    rfl
  obtain ⟨log, hwait⟩ := VirtIoQueue.addNotifyWaitPop_of_add hadd hpop (by rw [hidx]; exact hnotify)
  refine ⟨?c', ?log, ?run, ?stuck, ?avail⟩
  case run =>
    simp only [pollRetrieve, htoken, hcur, and_self, if_true, IoLog.Io.bind_eq, IoLog.Io.run_bind,
      hwait, IoLog.Io.pure_eq, IoLog.Io.run_pure]
    rfl
  case stuck =>
    refine ⟨rfl, ?_, rfl⟩
    simp [VirtIoQueue.peekUsed, q₂, q₁, completedFirst, DeviceQueue.pushUsed, hq,
      VirtIoQueue.init]
  case avail => simp [q₂, q₁]

/-- On every console `new` returns, against a register file that answers every access and a
device that completes the page it is given, with any length, `recv_block` never returns: its
first turn records token `0` with both descriptors free, and every later turn finds nothing. -/
theorem recv_block_spins (hal : Hal) (transport : MmioTransport) (queueBufRx : ℕ)
    (mem : UInt64 → UInt8) (len : UInt32) :
    IoLog.Returns (new hal transport queueBufRx) fun c ↦
      (∃ c' log, (c.pollRetrieve hal (completedFirst len)).run quietRegisters [] =
          (.ok (.ok (), c'), log) ∧
        c'.receiveToken = some 0 ∧ c'.receiveq.availDescIndex = [1, 0]) ∧
      ∀ fuel, ((recvBlock hal mem (completedFirst len) fuel c).run quietRegisters []).1 = .panic := by
  refine (new_returns hal transport queueBufRx).mono fun c ⟨hq, htoken, hcur⟩ ↦ ?_
  obtain ⟨c', log, hrun, hstuck, havail⟩ : ∃ c' log,
      (c.pollRetrieve hal (completedFirst len)).run quietRegisters [] = (.ok (.ok (), c'), log) ∧
        Stuck c' ∧ c'.receiveq.availDescIndex = [1, 0] :=
    pollRetrieve_fresh hq htoken hcur len quietRegisters []
      (quietRegisters_write32_ne_error [] _ _)
  refine ⟨⟨c', log, hrun, hstuck.token, havail⟩, fun fuel ↦ ?_⟩
  cases fuel with
  | zero => rfl
  | succ fuel =>
    have hfinish : c.finishReceive = some (.ok false, c) := by
      simp [finishReceive, htoken]
    simp only [recvBlock, hfinish, IoLog.Io.bind_eq, IoLog.Io.run_bind, hrun, hstuck.drained,
      if_true, recvBlock_stuck hstuck]

end VirtIOConsole

end SafeVirtio
