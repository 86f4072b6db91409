import SafeVirtio.Device.Block
import SafeVirtio.Device.Console
import SafeVirtio.Device.Gpu
import SafeVirtio.Device.Input
import SafeVirtio.Device.Net

/-!
# The initialisation order of virtio 3.1.1

The order a driver must follow is a monitor over the register log (`initStep`): the status
register is written `0`, `ACKNOWLEDGE | DRIVER`, `... | FEATURES_OK` and `... | DRIVER_OK` in
this order; the registers only `queue_set` writes are written between `FEATURES_OK` and
`DRIVER_OK`; the notification register only after `DRIVER_OK`.  An access answered with an
error before `DRIVER_OK` fails the initialisation, after which the only access allowed is the
reset that the drop of the transport writes; that reset may also follow an error the driver
returns for another reason.  `FollowsInitOrder` asks, for every register file, that the monitor
accept the constructor's log and that the constructor return `Ok` exactly when it reached
`DRIVER_OK` (an error or a panic leaves the device reset).

Each transport operation gets one triple, and every constructor's triple is assembled from
them in the order of its code.
-/

namespace SafeVirtio

/-- Where the initialisation stands, as the register log shows it. -/
inductive InitPhase
  | start
  | reset
  | acknowledged
  | featuresOk
  | driverOk
  | failed
  | dropped
  deriving DecidableEq, Repr

namespace InitPhase

/-- The phase after an access answered `r`: an error before `DRIVER_OK` fails the
initialisation. -/
def answered (next : InitPhase) : Except VirtIoError UInt32 → InitPhase
  | .ok _ => next
  | .error _ => .failed

/-- A status write: the next value of the sequence, or the reset of the transport's drop once
something has gone wrong. -/
def afterStatus : InitPhase → UInt32 → Except VirtIoError UInt32 → Option InitPhase
  | .start, v, r => if v = 0 then some (answered .reset r) else none
  | .reset, v, r =>
    if v = DeviceStatus.ACKNOWLEDGE ||| DeviceStatus.DRIVER then some (answered .acknowledged r)
    else if v = 0 then some .dropped else none
  | .acknowledged, v, r =>
    if v = DeviceStatus.ACKNOWLEDGE ||| DeviceStatus.DRIVER ||| DeviceStatus.FEATURES_OK then
      some (answered .featuresOk r)
    else if v = 0 then some .dropped else none
  | .featuresOk, v, r =>
    if v = DeviceStatus.ACKNOWLEDGE ||| DeviceStatus.DRIVER ||| DeviceStatus.FEATURES_OK |||
        DeviceStatus.DRIVER_OK then some (answered .driverOk r)
    else if v = 0 then some .dropped else none
  | .failed, v, _ => if v = 0 then some .dropped else none
  | .driverOk, _, _ => none
  | .dropped, _, _ => none

/-- Any other access: allowed until the initialisation fails or the device is reset. -/
def afterOther : InitPhase → Except VirtIoError UInt32 → Option InitPhase
  | .driverOk, _ => some .driverOk
  | .failed, _ => none
  | .dropped, _ => none
  | p, r => some (answered p r)

/-- The phases in which the drop's reset may come: after an error before `DRIVER_OK`. -/
def canDrop : InitPhase → Bool
  | .reset | .acknowledged | .featuresOk | .failed => true
  | _ => false

end InitPhase

/-- The registers that only `queue_set` writes. -/
def isQueueConfig (off : ℕ) : Bool :=
  off ∈ [VirtIOHeader.queueNum, VirtIOHeader.legacyQueueAlign, VirtIOHeader.legacyQueuePfn,
    VirtIOHeader.queueReady, VirtIOHeader.queueDesc, VirtIOHeader.queueDesc + 4,
    VirtIOHeader.queueDriver, VirtIOHeader.queueDriver + 4, VirtIOHeader.queueDevice,
    VirtIOHeader.queueDevice + 4]

/-- The monitor of the initialisation order. -/
def initStep (p : InitPhase) : Access × Except VirtIoError UInt32 → Option InitPhase
  | (.write32 off v, r) =>
    if off = VirtIOHeader.status then p.afterStatus v r
    else if isQueueConfig off then
      if p = .featuresOk then some (p.answered r) else none
    else if off = VirtIOHeader.queueNotify then
      if p = .driverOk then some p else none
    else p.afterOther r
  | (_, r) => p.afterOther r

/-- What a constructor leaves: `DRIVER_OK` written when it returns `Ok`, the device reset
otherwise. -/
def initPost {α : Type} : IoLog.Outcome VirtIoError α → InitPhase → Prop
  | .ok _, s => s = .driverOk
  | .error _, s => s = .dropped
  | .panic, s => s = .dropped

/-- A constructor follows the initialisation order against every register file. -/
def FollowsInitOrder {α : Type} (p : Mmio α) : Prop :=
  IoLog.Triple initStep (· = .start) p initPost

/-! ## One triple per transport operation -/

@[simp]
theorem status_acknowledged :
    DeviceStatus.ACKNOWLEDGE ||| DeviceStatus.DRIVER = 3 := by decide

@[simp]
theorem status_featuresOk : (3 : UInt32) ||| DeviceStatus.FEATURES_OK = 11 := by decide

@[simp]
theorem status_driverOk : (11 : UInt32) ||| DeviceStatus.DRIVER_OK = 15 := by decide

namespace InitPhase

/-- The phases in which the initialisation is under way. -/
def active : InitPhase → Bool
  | .reset | .acknowledged | .featuresOk => true
  | _ => false

theorem canDrop_of_active {p : InitPhase} (hp : p.active) : p.canDrop := by
  cases p <;> simp_all [active, canDrop]

theorem afterOther_of_active {p : InitPhase} (hp : p.active) (r : Except VirtIoError UInt32) :
    p.afterOther r = some (p.answered r) := by
  cases p <;> simp_all [active, afterOther]

end InitPhase

variable {α β : Type}

/-- What a part of a constructor's body guarantees: it ends in phase `p'`, or returns an error
in a phase the drop's reset may follow; it does not panic. -/
def Inside (p' : InitPhase) : IoLog.Outcome VirtIoError α → InitPhase → Prop
  | .ok _, s => s = p'
  | .error _, s => s.canDrop
  | .panic, _ => False

/-- The triples of this module: from phase `p`, the monitor accepts and `Q` holds. -/
abbrev InitTriple (p : InitPhase) (prog : Mmio α) (Q : IoLog.Outcome VirtIoError α → InitPhase → Prop) :
    Prop :=
  IoLog.Triple initStep (· = p) prog Q

theorem inside_bind {p p₁ p₂ : InitPhase} {a : Mmio α} {f : α → Mmio β}
    (ha : InitTriple p a (Inside p₁)) (hf : ∀ x, InitTriple p₁ (f x) (Inside p₂)) :
    InitTriple p (a >>= f) (Inside p₂) :=
  IoLog.Triple.bind ha hf (fun _ _ h ↦ h) fun _ h ↦ h

theorem inside_pure {p : InitPhase} (a : α) : InitTriple p (pure a) (Inside p) :=
  IoLog.Triple.pure fun _ h ↦ h

theorem inside_throw {p p' : InitPhase} (hp : p.active) (e : VirtIoError) :
    InitTriple p (IoLog.Io.throw e : Mmio α) (Inside p') :=
  IoLog.Triple.throw fun _ h ↦ h ▸ InitPhase.canDrop_of_active hp

theorem inside_access {p p' : InitPhase} {a : Access}
    (hstep : ∀ r, initStep p (a, r) = some (p'.answered r)) :
    InitTriple p (IoLog.Io.access a) (Inside p') := by
  refine IoLog.Triple.access fun s hs r ↦ ⟨p'.answered r, hs ▸ hstep r, ?_⟩
  cases r with
  | ok v => rfl
  | error e => rfl

theorem read32_inside {p : InitPhase} (hp : p.active) (off : ℕ) :
    InitTriple p (Mmio.read32 off) (Inside p) :=
  inside_access fun r ↦ InitPhase.afterOther_of_active hp r

theorem write32_inside {p : InitPhase} (hp : p.active) {off : ℕ} (v : UInt32)
    (hstatus : off ≠ VirtIOHeader.status) (hqueue : isQueueConfig off = false)
    (hnotify : off ≠ VirtIOHeader.queueNotify) :
    InitTriple p (Mmio.write32 off v) (Inside p) := by
  refine inside_bind (inside_access fun r ↦ ?_) fun _ ↦ inside_pure ()
  simp [initStep, hstatus, hqueue, hnotify, InitPhase.afterOther_of_active hp]

theorem write32_queue_inside {off : ℕ} (v : UInt32) (hqueue : isQueueConfig off = true) :
    InitTriple .featuresOk (Mmio.write32 off v) (Inside .featuresOk) := by
  have hstatus : off ≠ VirtIOHeader.status := by
    rintro rfl
    exact absurd hqueue (by decide)
  refine inside_bind (inside_access fun r ↦ ?_) fun _ ↦ inside_pure ()
  simp [initStep, hstatus, hqueue]

theorem setStatus_inside (p p' : InitPhase) {v : UInt32}
    (hnext : ∀ r, p.afterStatus v r = some (p'.answered r)) :
    InitTriple p (MmioTransport.setStatus v) (Inside p') := by
  refine inside_bind (inside_access fun r ↦ ?_) fun _ ↦ inside_pure ()
  simpa [initStep, MmioTransport.setStatus] using hnext r

end SafeVirtio

namespace SafeVirtio

variable {α : Type}

/-! ## The transport's operations -/

namespace MmioTransport

variable (t : MmioTransport)

theorem readDeviceFeatures_inside {p : InitPhase} (hp : p.active) :
    InitTriple p readDeviceFeatures (Inside p) := by
  unfold readDeviceFeatures
  refine inside_bind (write32_inside hp 0 (by decide) (by decide) (by decide)) fun _ ↦ ?_
  refine inside_bind (read32_inside hp _) fun _ ↦ ?_
  refine inside_bind (write32_inside hp 1 (by decide) (by decide) (by decide)) fun _ ↦ ?_
  exact inside_bind (read32_inside hp _) fun _ ↦ inside_pure _

theorem writeDriverFeatures_inside {p : InitPhase} (hp : p.active) (features : UInt64) :
    InitTriple p (writeDriverFeatures features) (Inside p) := by
  unfold writeDriverFeatures
  refine inside_bind (write32_inside hp 0 (by decide) (by decide) (by decide)) fun _ ↦ ?_
  refine inside_bind (write32_inside hp _ (by decide) (by decide) (by decide)) fun _ ↦ ?_
  refine inside_bind (write32_inside hp 1 (by decide) (by decide) (by decide)) fun _ ↦ ?_
  exact write32_inside hp _ (by decide) (by decide) (by decide)

theorem setGuestPageSize_inside {p : InitPhase} (hp : p.active) (size : UInt32) :
    InitTriple p (t.setGuestPageSize size) (Inside p) := by
  unfold setGuestPageSize
  cases t.version with
  | legacy => exact write32_inside hp _ (by decide) (by decide) (by decide)
  | modern => exact inside_pure ()

theorem beginInit_inside (supported : UInt64) :
    InitTriple .start (t.beginInit supported) (Inside .featuresOk) := by
  unfold beginInit
  refine inside_bind (setStatus_inside .start .reset fun r ↦ ?_) fun _ ↦ ?_
  · cases r <;> rfl
  refine inside_bind (setStatus_inside .reset .acknowledged fun r ↦ ?_) fun _ ↦ ?_
  · cases r <;> rfl
  refine inside_bind (readDeviceFeatures_inside rfl) fun _ ↦ ?_
  refine inside_bind (writeDriverFeatures_inside rfl _) fun _ ↦ ?_
  refine inside_bind (setStatus_inside .acknowledged .featuresOk fun r ↦ ?_) fun _ ↦ ?_
  · cases r <;> rfl
  exact inside_bind (t.setGuestPageSize_inside rfl _) fun _ ↦ inside_pure _

theorem finishInit_inside : InitTriple .featuresOk finishInit (Inside .driverOk) :=
  setStatus_inside .featuresOk .driverOk fun r ↦ by cases r <;> rfl

theorem maxQueueSize_inside {p : InitPhase} (hp : p.active) (queue : UInt16) :
    InitTriple p (maxQueueSize queue) (Inside p) :=
  inside_bind (write32_inside hp _ (by decide) (by decide) (by decide)) fun _ ↦
    read32_inside hp _

theorem queueUsed_inside {p : InitPhase} (hp : p.active) (queue : UInt16) :
    InitTriple p (t.queueUsed queue) (Inside p) := by
  unfold queueUsed
  refine inside_bind (write32_inside hp _ (by decide) (by decide) (by decide)) fun _ ↦ ?_
  cases t.version with
  | legacy => exact inside_bind (read32_inside hp _) fun _ ↦ inside_pure _
  | modern => exact inside_bind (read32_inside hp _) fun _ ↦ inside_pure _

theorem write64_queue_inside {off : ℕ} (v : UInt64) (hlow : isQueueConfig off = true)
    (hhigh : isQueueConfig (off + 4) = true) :
    InitTriple .featuresOk (Mmio.write64 off v) (Inside .featuresOk) :=
  inside_bind (write32_queue_inside _ hlow) fun _ ↦ write32_queue_inside _ hhigh

/-- `queue_set` after `FEATURES_OK`, with the rings where the legacy layout's assertions want
them. -/
theorem queueSet_inside (queue : UInt16) (size : UInt32) {descriptors driverArea deviceArea : ℕ}
    (hdriver : driverArea - descriptors = 16 * size.toNat)
    (hdevice : deviceArea - descriptors = alignUp (16 * size.toNat + 2 * (size.toNat + 3))) :
    InitTriple .featuresOk (t.queueSet queue size descriptors driverArea deviceArea)
      (Inside .featuresOk) := by
  unfold queueSet
  cases t.version with
  | legacy =>
    simp only [hdriver, hdevice, ne_eq, not_true_eq_false, if_false]
    refine inside_bind (write32_inside rfl _ (by decide) (by decide) (by decide)) fun _ ↦ ?_
    refine inside_bind (write32_queue_inside _ (by decide)) fun _ ↦ ?_
    refine inside_bind (write32_queue_inside _ (by decide)) fun _ ↦ ?_
    exact write32_queue_inside _ (by decide)
  | modern =>
    refine inside_bind (write32_inside rfl _ (by decide) (by decide) (by decide)) fun _ ↦ ?_
    refine inside_bind (write32_queue_inside _ (by decide)) fun _ ↦ ?_
    refine inside_bind (write64_queue_inside _ (by decide) (by decide)) fun _ ↦ ?_
    refine inside_bind (write64_queue_inside _ (by decide) (by decide)) fun _ ↦ ?_
    refine inside_bind (write64_queue_inside _ (by decide) (by decide)) fun _ ↦ ?_
    exact write32_queue_inside _ (by decide)

/-- The drop's reset is allowed after any error before `DRIVER_OK`; it returns, or panics if
the write fails, and either way leaves the device reset. -/
theorem drop_triple :
    IoLog.Triple initStep (fun s ↦ s.canDrop) drop fun r s ↦ match r with
      | .ok _ => s = .dropped
      | .error _ => False
      | .panic => s = .dropped := by
  have hwrite : IoLog.Triple initStep (fun s ↦ s.canDrop) (setStatus 0) fun r s ↦ match r with
      | .ok _ => s = .dropped
      | .error _ => s = .dropped
      | .panic => False := by
    have haccess : IoLog.Triple initStep (fun s ↦ s.canDrop)
        (IoLog.Io.access (.write32 VirtIOHeader.status 0)) fun r s ↦ match r with
          | .ok _ => s = .dropped
          | .error _ => s = .dropped
          | .panic => False := by
      refine IoLog.Triple.access fun s hs r ↦ ⟨.dropped, ?_, ?_⟩
      · cases s <;> simp_all [InitPhase.canDrop, initStep, InitPhase.afterStatus]
      · cases r <;> rfl
    exact IoLog.Triple.bind haccess (fun _ ↦ IoLog.Triple.pure fun _ h ↦ h) (fun _ _ h ↦ h)
      fun _ h ↦ h
  have hreset : IoLog.Triple initStep (fun s ↦ s.canDrop) (IoLog.Io.attempt (setStatus 0))
      fun r s ↦ match r with
        | .ok _ => s = .dropped
        | .error _ => False
        | .panic => False :=
    IoLog.Triple.attempt (hwrite.conseq (fun _ h ↦ h) fun r _ h ↦ by cases r <;> exact h)
  refine IoLog.Triple.bind hreset (fun r ↦ ?_) (fun _ _ h ↦ h.elim) fun _ h ↦ h.elim
  cases r with
  | ok _ => exact IoLog.Triple.pure fun _ h ↦ h
  | error _ => exact IoLog.Triple.panic fun _ h ↦ h

end MmioTransport

end SafeVirtio

namespace SafeVirtio

variable {α : Type}

theorem toUInt32_toUInt16_toNat {n : ℕ} (h : n ≤ 65535) : n.toUInt16.toUInt32.toNat = n := by
  simp [Nat.toUInt16]
  omega

/-- `VirtIoQueue::new` after `FEATURES_OK`: its `queue_set` is the only queue setup, and it
hands the rings over where the legacy layout's assertions want them. -/
theorem VirtIoQueue.new_inside (SIZE : ℕ) (hal : Hal) (t : MmioTransport) (queueIdx : UInt16) :
    InitTriple .featuresOk (VirtIoQueue.new SIZE hal t queueIdx) (Inside .featuresOk) := by
  unfold VirtIoQueue.new
  refine inside_bind (t.queueUsed_inside rfl _) fun used ↦ ?_
  split
  · exact inside_throw rfl _
  split
  · exact inside_throw rfl _
  next hcheck =>
    have hsize : SIZE ≤ 65535 := by
      simp only [Bool.or_eq_true, decide_eq_true_eq, not_or] at hcheck
      omega
    refine inside_bind (MmioTransport.maxQueueSize_inside rfl _) fun _ ↦ ?_
    split
    · exact inside_throw rfl _
    refine inside_bind (t.queueSet_inside _ _ ?_ ?_) fun _ ↦ inside_pure _
    · simp [toUInt32_toUInt16_toNat hsize, AVAIL_RING_OFFSET, descriptorSize]
    · simp [toUInt32_toUInt16_toNat hsize, USED_RING_OFFSET, descriptorSize, availRingSize]

/-- A constructor whose body goes from a fresh device to `DRIVER_OK` and whose errors drop the
transport follows the initialisation order. -/
theorem followsInitOrder_onError {body : Mmio α}
    (h : InitTriple .start body (Inside .driverOk)) :
    FollowsInitOrder (IoLog.Io.onError body MmioTransport.drop) := by
  refine IoLog.Triple.onError h (fun _ _ h ↦ h) (fun _ h ↦ h.elim) fun e ↦ ?_
  refine MmioTransport.drop_triple.conseq (fun _ h ↦ h) fun r s hr ↦ ?_
  cases r with
  | ok _ => exact hr
  | error _ => exact hr.elim
  | panic => exact hr

theorem VirtIOBlk.new_followsInitOrder (hal : Hal) (t : MmioTransport) :
    FollowsInitOrder (VirtIOBlk.new hal t) := by
  refine followsInitOrder_onError ?_
  refine inside_bind (t.beginInit_inside _) fun _ ↦ ?_
  refine inside_bind (read32_inside rfl _) fun _ ↦ ?_
  refine inside_bind (read32_inside rfl _) fun _ ↦ ?_
  refine inside_bind (VirtIoQueue.new_inside _ hal t 0) fun _ ↦ ?_
  exact inside_bind MmioTransport.finishInit_inside fun _ ↦ inside_pure _

theorem VirtIOConsole.new_followsInitOrder (hal : Hal) (t : MmioTransport) (queueBufRx : ℕ) :
    FollowsInitOrder (VirtIOConsole.new hal t queueBufRx) := by
  refine followsInitOrder_onError ?_
  refine inside_bind (t.beginInit_inside _) fun _ ↦ ?_
  refine inside_bind (VirtIoQueue.new_inside _ hal t _) fun _ ↦ ?_
  refine inside_bind (VirtIoQueue.new_inside _ hal t _) fun _ ↦ ?_
  exact inside_bind MmioTransport.finishInit_inside fun _ ↦ inside_pure _

theorem VirtIOGpu.new_followsInitOrder (hal : Hal) (t : MmioTransport) :
    FollowsInitOrder (VirtIOGpu.new hal t) := by
  refine followsInitOrder_onError ?_
  refine inside_bind (t.beginInit_inside _) fun _ ↦ ?_
  refine inside_bind (read32_inside rfl _) fun _ ↦ ?_
  refine inside_bind (read32_inside rfl _) fun _ ↦ ?_
  refine inside_bind (VirtIoQueue.new_inside _ hal t _) fun _ ↦ ?_
  refine inside_bind (VirtIoQueue.new_inside _ hal t _) fun _ ↦ ?_
  exact inside_bind MmioTransport.finishInit_inside fun _ ↦ inside_pure _

end SafeVirtio

namespace SafeVirtio

/-- The block, console and GPU drivers initialise their device in the order of virtio 3.1.1,
against every register file and for either transport version: the four status writes in
order, every queue set up between `FEATURES_OK` and `DRIVER_OK`, no notification before
`DRIVER_OK`, and after an error (a failed access, a queue in use, a queue too small) nothing but
the reset of the transport's drop, with the constructor returning that error or panicking if the
reset fails too. -/
theorem constructors_follow_init_order (hal : Hal) (t : MmioTransport) (queueBufRx : ℕ) :
    FollowsInitOrder (VirtIOBlk.new hal t) ∧ FollowsInitOrder (VirtIOConsole.new hal t queueBufRx) ∧
      FollowsInitOrder (VirtIOGpu.new hal t) :=
  ⟨VirtIOBlk.new_followsInitOrder hal t, VirtIOConsole.new_followsInitOrder hal t queueBufRx,
    VirtIOGpu.new_followsInitOrder hal t⟩

/-- A register file that accepts every write and answers every read with `0`, except the
maximum queue size, which it answers with `256`. -/
def quietRegisters : IoLog.Oracle Access UInt32 VirtIoError := fun _ a ↦
  match a with
  | .read32 off => if off = VirtIOHeader.queueNumMax then .ok 256 else .ok 0
  | _ => .ok 0

theorem quietRegisters_write32_ne_error (h : List Access) (off : ℕ) (v : UInt32) (e : VirtIoError) :
    quietRegisters h (.write32 off v) ≠ .error e := by
  simp [quietRegisters]

/-- `quietRegisters`, except that the very first access fails. -/
def failingFirstAccess : IoLog.Oracle Access UInt32 VirtIoError := fun h a ↦
  if h = [] then .error .ioError else quietRegisters h a

/-- The identity translation of the crate's QEMU test, with every queue on one page. -/
def identityHal : Hal := { toPaddr := id, dmaAlloc := fun _ ↦ 0x80000 }

/-- Against `quietRegisters` the input driver notifies its event queue right before it writes
`DRIVER_OK`, and is otherwise in order: without that notification its accesses follow the
sequence to `DRIVER_OK`.  Against `failingFirstAccess` the raw network driver, whose first reset
write failed, goes on without its `begin_init`: its other accesses are exactly what follows
`FEATURES_OK` in the sequence (the MAC reads, the queue setup, `DRIVER_OK`), and it returns `Ok`.
Neither follows the initialisation order. -/
theorem init_order_violations :
    ((VirtIOInput.new identityHal ⟨.modern⟩ 0x1000).run quietRegisters []).2[37]? =
        some (.write32 VirtIOHeader.queueNotify 0, .ok 0) ∧
      ((VirtIOInput.new identityHal ⟨.modern⟩ 0x1000).run quietRegisters []).2[38]? =
        some (.write32 VirtIOHeader.status 15, .ok 0) ∧
      IoLog.Monitor.run initStep .start
        (((VirtIOInput.new identityHal ⟨.modern⟩ 0x1000).run quietRegisters []).2.eraseIdx 37) =
        some .driverOk ∧
      ¬ FollowsInitOrder (VirtIOInput.new identityHal ⟨.modern⟩ 0x1000) ∧
      ((VirtIONetRaw.new 2 identityHal ⟨.modern⟩ false).run failingFirstAccess []).2[0]? =
        some (.write32 VirtIOHeader.status 0, .error .ioError) ∧
      ((VirtIONetRaw.new 2 identityHal ⟨.modern⟩ false).run failingFirstAccess []).2[33]? =
        some (.write32 VirtIOHeader.status 15, .ok 0) ∧
      IoLog.Monitor.run initStep .featuresOk
        (((VirtIONetRaw.new 2 identityHal ⟨.modern⟩ false).run failingFirstAccess []).2.drop 1) =
        some .driverOk ∧
      (∃ net, ((VirtIONetRaw.new 2 identityHal ⟨.modern⟩ false).run failingFirstAccess []).1 = .ok net) ∧
      ¬ FollowsInitOrder (VirtIONetRaw.new 2 identityHal ⟨.modern⟩ false) := by
  have hinput : IoLog.Monitor.run initStep .start
      ((VirtIOInput.new identityHal ⟨.modern⟩ 0x1000).run quietRegisters []).2 = none := by decide
  have hnet : IoLog.Monitor.run initStep .start
      ((VirtIONetRaw.new 2 identityHal ⟨.modern⟩ false).run failingFirstAccess []).2 = none := by decide
  refine ⟨by decide, by decide, by decide, fun h ↦ ?_, by decide, by decide, by decide, ⟨_, rfl⟩,
    fun h ↦ ?_⟩
  · obtain ⟨_, hrun, -⟩ := h quietRegisters [] .start rfl
    rw [hinput] at hrun
    cases hrun
  · obtain ⟨_, hrun, -⟩ := h failingFirstAccess [] .start rfl
    rw [hnet] at hrun
    cases hrun

end SafeVirtio
