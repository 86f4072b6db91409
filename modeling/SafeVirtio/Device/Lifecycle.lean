import SafeVirtio.Device.InitOrder
import SafeVirtio.Lib.DeviceRun

/-!
# The queues of a device: set up, released, and set up again

The transport keeps no record of the queues it has set up: the device does, in the registers of
each queue, and `queue_used` reads them back.  This module runs the transport against a register
file (`RegisterFile`, not code of the crate): a device that selects a queue with `queue_sel`,
keeps what is written to the selected queue's registers, reads them back, and forgets every
queue when the status is written `0`.

Against it the transport's calls keep a set of queues in use: `queue_set` adds its queue,
`queue_unset` removes it, a reset empties the set and no other call changes it
(`calls_track_inUse`).  That needs each call to select its queue before it touches the queue's
registers, and `queue_used` to read back the register its layout writes.  The legacy layout
names a queue by its page frame, and a frame of `0` reads as no queue at all: the set is kept
only for queues placed above the first page.

`VirtIoQueue::new` then reports `AlreadyUsed` exactly for a queue in use, and otherwise sets the
queue up when its size fits (`VirtIoQueue.new_registers`); the drops of the drivers release
their queues (`unsetQueues_releases`), after which the queues can be set up again.
-/

namespace SafeVirtio

/-! ## A register file -/

/-- A virtio-mmio register file as the queue calls of the transport reach it: the largest queue
size the device offers, the status, the selected queue and the registers of every queue.  Every
other register reads `0` and ignores what is written to it. -/
structure RegisterFile where
  queueNumMax : UInt32
  status : UInt32
  queueSel : UInt32
  queue : UInt32 → ℕ → UInt32

namespace RegisterFile

/-- A 32-bit write: the status, where `0` resets the device and every queue with it; the queue
selector; or a register of the selected queue. -/
def write (s : RegisterFile) (off : ℕ) (v : UInt32) : RegisterFile :=
  if off = VirtIOHeader.status then
    if v = 0 then { s with status := 0, queue := fun _ _ ↦ 0 } else { s with status := v }
  else if off = VirtIOHeader.queueSel then { s with queueSel := v }
  else if isQueueConfig off then
    { s with
      queue := Function.update s.queue s.queueSel (Function.update (s.queue s.queueSel) off v) }
  else s

/-- A 32-bit read. -/
def read (s : RegisterFile) (off : ℕ) : UInt32 :=
  if off = VirtIOHeader.status then s.status
  else if off = VirtIOHeader.queueNumMax then s.queueNumMax
  else if isQueueConfig off then s.queue s.queueSel off
  else 0

/-- Whether `queue` is in use as the transport's layout records it: a page frame (legacy) or
the ready flag (modern). -/
def inUse (t : MmioTransport) (s : RegisterFile) (queue : UInt16) : Bool :=
  match t.version with
  | .legacy => s.queue queue.toUInt32 VirtIOHeader.legacyQueuePfn ≠ 0
  | .modern => s.queue queue.toUInt32 VirtIOHeader.queueReady ≠ 0

/-- Whether `queue_set` with the descriptor table at `descriptors` leaves a record the device
can tell from no queue: the legacy layout records the page frame, and frame `0` means none. -/
def recorded (t : MmioTransport) (descriptors : ℕ) : Bool :=
  match t.version with
  | .legacy => (descriptors / PAGE_SIZE).toUInt32 ≠ 0
  | .modern => true

@[simp]
theorem inUse_with_status (t : MmioTransport) (s : RegisterFile) (v : UInt32) :
    inUse t { s with status := v } = inUse t s := rfl

@[simp]
theorem inUse_with_queueSel (t : MmioTransport) (s : RegisterFile) (v : UInt32) :
    inUse t { s with queueSel := v } = inUse t s := rfl

variable (s : RegisterFile) {off : ℕ} (v : UInt32)

theorem ne_of_isQueueConfig (h : isQueueConfig off = true) :
    off ≠ VirtIOHeader.status ∧ off ≠ VirtIOHeader.queueSel ∧ off ≠ VirtIOHeader.queueNumMax := by
  simp only [isQueueConfig, List.mem_cons, List.not_mem_nil, or_false, decide_eq_true_eq] at h
  rcases h with rfl | rfl | rfl | rfl | rfl | rfl | rfl | rfl | rfl | rfl <;> decide

@[simp]
theorem write_queueNumMax : (s.write off v).queueNumMax = s.queueNumMax := by
  unfold write
  split_ifs <;> rfl

theorem write_status_zero :
    s.write VirtIOHeader.status 0 = { s with status := 0, queue := fun _ _ ↦ 0 } := by
  simp [write]

theorem write_status_of_ne {v : UInt32} (hv : v ≠ 0) :
    s.write VirtIOHeader.status v = { s with status := v } := by
  simp [write, hv]

theorem write_queueSel : s.write VirtIOHeader.queueSel v = { s with queueSel := v } := by
  simp [write, VirtIOHeader.queueSel, VirtIOHeader.status]

theorem write_queueConfig (h : isQueueConfig off = true) :
    s.write off v = { s with
      queue := Function.update s.queue s.queueSel (Function.update (s.queue s.queueSel) off v) } := by
  obtain ⟨hstatus, hsel, -⟩ := ne_of_isQueueConfig h
  simp [write, hstatus, hsel, h]

theorem read_queueConfig (h : isQueueConfig off = true) : s.read off = s.queue s.queueSel off := by
  obtain ⟨hstatus, -, hmax⟩ := ne_of_isQueueConfig h
  simp [read, hstatus, hmax, h]

/-- A write to a register that is neither the status, the selector nor a queue's changes
nothing. -/
theorem write_other (hstatus : off ≠ VirtIOHeader.status) (hsel : off ≠ VirtIOHeader.queueSel)
    (hqueue : isQueueConfig off = false) : s.write off v = s := by
  simp [write, hstatus, hsel, hqueue]

end RegisterFile

/-- The register file as a device answering the MMIO accesses. -/
def registerFile : IoLog.Device RegisterFile Access UInt32 where
  answer s
    | .read32 off => s.read off
    | .read8 _ => 0
    | .write32 _ _ => 0
  apply s
    | .write32 off v => s.write off v
    | _ => s

namespace RegisterFile

/-- A register file just reset, offering queues of up to 256 entries. -/
def fresh : RegisterFile where
  queueNumMax := 256
  status := 0
  queueSel := 0
  queue := fun _ _ ↦ 0

variable (s : RegisterFile)

theorem runs_read32 (off : ℕ) : registerFile.Runs (Mmio.read32 off) s (.ok (s.read off)) s :=
  IoLog.Device.Runs.access (Access.read32 off) s

theorem runs_write32 (off : ℕ) (v : UInt32) :
    registerFile.Runs (Mmio.write32 off v) s (.ok ()) (s.write off v) :=
  (IoLog.Device.Runs.access (Access.write32 off v) s).bind (IoLog.Device.Runs.pure () _)

theorem runs_write64 (off : ℕ) (v : UInt64) :
    registerFile.Runs (Mmio.write64 off v) s (.ok ())
      ((s.write off v.toUInt32).write (off + 4) (v >>> 32).toUInt32) :=
  (runs_write32 s off _).bind (runs_write32 _ (off + 4) _)

theorem runs_write32_other (off : ℕ) (v : UInt32) (hstatus : off ≠ VirtIOHeader.status)
    (hsel : off ≠ VirtIOHeader.queueSel) (hqueue : isQueueConfig off = false) :
    registerFile.Runs (Mmio.write32 off v) s (.ok ()) s := by
  have h := runs_write32 s off v
  rwa [write_other s v hstatus hsel hqueue] at h

theorem runs_read32_other (off : ℕ) (hstatus : off ≠ VirtIOHeader.status)
    (hmax : off ≠ VirtIOHeader.queueNumMax) (hqueue : isQueueConfig off = false) :
    registerFile.Runs (Mmio.read32 off) s (.ok 0) s := by
  have h := runs_read32 s off
  rwa [show s.read off = 0 by simp [read, hstatus, hmax, hqueue]] at h

/-! ### The transport's calls against the register file -/

variable (t : MmioTransport)

theorem runs_setStatus (v : UInt32) :
    registerFile.Runs (MmioTransport.setStatus v) s (.ok ()) (s.write VirtIOHeader.status v) :=
  runs_write32 s _ v

theorem runs_notify (queue : UInt16) :
    registerFile.Runs (MmioTransport.notify queue) s (.ok ()) s :=
  runs_write32_other s _ _ (by decide) (by decide) (by decide)

theorem runs_maxQueueSize (queue : UInt16) :
    registerFile.Runs (MmioTransport.maxQueueSize queue) s (.ok s.queueNumMax)
      { s with queueSel := queue.toUInt32 } := by
  have hread := runs_read32 { s with queueSel := queue.toUInt32 } VirtIOHeader.queueNumMax
  have hmax : ({ s with queueSel := queue.toUInt32 } : RegisterFile).read
      VirtIOHeader.queueNumMax = s.queueNumMax := by
    simp [read, VirtIOHeader.queueNumMax, VirtIOHeader.status]
  rw [hmax] at hread
  exact (write_queueSel s _ ▸ runs_write32 s _ _).bind hread

theorem runs_readDeviceFeatures :
    registerFile.Runs MmioTransport.readDeviceFeatures s (.ok 0) s := by
  have hsel (v : UInt32) := runs_write32_other s VirtIOHeader.deviceFeaturesSel v
    (by decide) (by decide) (by decide)
  have hread := runs_read32_other s VirtIOHeader.deviceFeatures
    (by decide) (by decide) (by decide)
  exact (hsel 0).bind (hread.bind ((hsel 1).bind (hread.bind (IoLog.Device.Runs.pure _ _))))

theorem runs_writeDriverFeatures (driverFeatures : UInt64) :
    registerFile.Runs (MmioTransport.writeDriverFeatures driverFeatures) s (.ok ()) s := by
  have hsel (v : UInt32) := runs_write32_other s VirtIOHeader.driverFeaturesSel v
    (by decide) (by decide) (by decide)
  have hfeatures (v : UInt32) := runs_write32_other s VirtIOHeader.driverFeatures v
    (by decide) (by decide) (by decide)
  exact (hsel 0).bind ((hfeatures _).bind ((hsel 1).bind (hfeatures _)))

theorem runs_setGuestPageSize (guestPageSize : UInt32) :
    registerFile.Runs (t.setGuestPageSize guestPageSize) s (.ok ()) s := by
  unfold MmioTransport.setGuestPageSize
  cases t.version with
  | legacy => exact runs_write32_other s _ _ (by decide) (by decide) (by decide)
  | modern => exact IoLog.Device.Runs.pure () s

theorem runs_ackInterrupt :
    registerFile.Runs MmioTransport.ackInterrupt s (.ok false) s := by
  have hread := runs_read32_other s VirtIOHeader.interruptStatus
    (by decide) (by decide) (by decide)
  exact hread.bind (IoLog.Device.Runs.pure _ _)

theorem runs_queueUsed (queue : UInt16) :
    registerFile.Runs (t.queueUsed queue) s (.ok (s.inUse t queue))
      { s with queueSel := queue.toUInt32 } := by
  unfold MmioTransport.queueUsed inUse
  refine (write_queueSel s _ ▸ runs_write32 s _ _).bind ?_
  cases t.version with
  | legacy =>
    refine (runs_read32 _ _).bind ?_
    rw [read_queueConfig _ (by decide)]
    exact IoLog.Device.Runs.pure _ _
  | modern =>
    refine (runs_read32 _ _).bind ?_
    rw [read_queueConfig _ (by decide)]
    exact IoLog.Device.Runs.pure _ _

/-- A register file that changed no other queue's registers records every other queue as
before. -/
theorem inUse_eq_update {s' : RegisterFile} (queue : UInt16)
    (hother : ∀ x : UInt16, x ≠ queue → s'.queue x.toUInt32 = s.queue x.toUInt32) :
    s'.inUse t = Function.update (s.inUse t) queue (s'.inUse t queue) := by
  funext x
  by_cases hx : x = queue
  · subst hx
    simp
  · simp [Function.update_of_ne hx, inUse, hother x hx]

/-- `queue_set` records its queue as in use, unless the legacy layout puts it at page frame `0`,
which reads as no queue; no other queue changes.  A legacy `queue_set` panics unless its
assertions hold. -/
theorem runs_queueSet (queue : UInt16) (size : UInt32) (descriptors driverArea deviceArea : ℕ)
    (hlegacy : t.version = .legacy → driverArea - descriptors = 16 * size.toNat ∧
      deviceArea - descriptors = alignUp (16 * size.toNat + 2 * (size.toNat + 3))) :
    ∃ s', registerFile.Runs (t.queueSet queue size descriptors driverArea deviceArea) s (.ok ()) s' ∧
      s'.queueNumMax = s.queueNumMax ∧
      s'.inUse t = Function.update (s.inUse t) queue (recorded t descriptors) := by
  obtain ⟨version⟩ := t
  cases version with
  | legacy =>
    obtain ⟨hdriver, hdevice⟩ := hlegacy rfl
    simp only [MmioTransport.queueSet, hdriver, hdevice, ne_eq, not_true_eq_false, if_false]
    refine ⟨_, (runs_write32 s _ _).bind ((runs_write32 _ _ _).bind
      ((runs_write32 _ _ _).bind (runs_write32 _ _ _))), by simp, ?_⟩
    rw [inUse_eq_update s _ queue fun x hx ↦ by
      simp +decide [write_queueSel, write_queueConfig, UInt16.toUInt32_inj, hx]]
    simp +decide [write_queueSel, write_queueConfig, inUse, recorded]
  | modern =>
    simp only [MmioTransport.queueSet]
    refine ⟨_, (runs_write32 s _ _).bind ((runs_write32 _ _ _).bind ((runs_write64 _ _ _).bind
      ((runs_write64 _ _ _).bind ((runs_write64 _ _ _).bind (runs_write32 _ _ _))))), by simp, ?_⟩
    rw [inUse_eq_update s _ queue fun x hx ↦ by
      simp +decide [write_queueSel, write_queueConfig, UInt16.toUInt32_inj, hx]]
    simp +decide [write_queueSel, write_queueConfig, inUse, recorded]

/-- Against a selected queue whose ready flag reads `0`, the wait of `queue_unset` ends at its
first read. -/
theorem runs_waitQueueReady {fuel : ℕ} (hfuel : 0 < fuel)
    (hready : s.queue s.queueSel VirtIOHeader.queueReady = 0) :
    registerFile.Runs (MmioTransport.waitQueueReady fuel) s (.ok ()) s := by
  cases fuel with
  | zero => omega
  | succ fuel =>
    unfold MmioTransport.waitQueueReady
    refine (runs_read32 s _).bind ?_
    rw [read_queueConfig s (by decide), hready, if_neg (by simp)]
    exact IoLog.Device.Runs.pure () s

/-- `queue_unset` records its queue as not in use, and no other queue changes; the device reads
the cleared ready flag back at once, so the modern layout's wait needs one read. -/
theorem runs_queueUnset {fuel : ℕ} (hfuel : 0 < fuel) (queue : UInt16) :
    ∃ s', registerFile.Runs (t.queueUnset fuel queue) s (.ok ()) s' ∧
      s'.queueNumMax = s.queueNumMax ∧ s'.inUse t = Function.update (s.inUse t) queue false := by
  obtain ⟨version⟩ := t
  cases version with
  | legacy =>
    simp only [MmioTransport.queueUnset]
    refine ⟨_, (runs_write32 s _ _).bind ((runs_write32 _ _ _).bind
      ((runs_write32 _ _ _).bind (runs_write32 _ _ _))), by simp, ?_⟩
    rw [inUse_eq_update s _ queue fun x hx ↦ by
      simp +decide [write_queueSel, write_queueConfig, UInt16.toUInt32_inj, hx]]
    simp +decide [write_queueSel, write_queueConfig, inUse]
  | modern =>
    simp only [MmioTransport.queueUnset]
    refine ⟨_, (runs_write32 s _ _).bind ((runs_write32 _ _ _).bind
      ((runs_waitQueueReady _ hfuel ?_).bind ((runs_write32 _ _ _).bind ((runs_write64 _ _ _).bind
        ((runs_write64 _ _ _).bind (runs_write64 _ _ _)))))), by simp, ?_⟩
    · simp +decide [write_queueSel, write_queueConfig]
    rw [inUse_eq_update s _ queue fun x hx ↦ by
      simp +decide [write_queueSel, write_queueConfig, UInt16.toUInt32_inj, hx]]
    simp +decide [write_queueSel, write_queueConfig, inUse]

end RegisterFile

/-! ## The queues in use over a run of the transport's calls -/

/-- A call of the `Transport` trait, as a driver makes it. -/
inductive TransportCall
  | readDeviceFeatures
  | writeDriverFeatures (driverFeatures : UInt64)
  | maxQueueSize (queue : UInt16)
  | notify (queue : UInt16)
  | setStatus (status : UInt32)
  | setGuestPageSize (guestPageSize : UInt32)
  | queueSet (queue : UInt16) (size : UInt32) (descriptors driverArea deviceArea : ℕ)
  | queueUnset (queue : UInt16)
  | queueUsed (queue : UInt16)
  | ackInterrupt

namespace TransportCall

/-- The call on the MMIO transport `t`, its result dropped; `queue_unset` waits for at most
`fuel` reads. -/
def run (t : MmioTransport) (fuel : ℕ) : TransportCall → Mmio Unit
  | readDeviceFeatures => do let _ ← MmioTransport.readDeviceFeatures; pure ()
  | writeDriverFeatures driverFeatures => MmioTransport.writeDriverFeatures driverFeatures
  | maxQueueSize queue => do let _ ← MmioTransport.maxQueueSize queue; pure ()
  | notify queue => MmioTransport.notify queue
  | setStatus status => MmioTransport.setStatus status
  | setGuestPageSize guestPageSize => t.setGuestPageSize guestPageSize
  | queueSet queue size descriptors driverArea deviceArea =>
    t.queueSet queue size descriptors driverArea deviceArea
  | queueUnset queue => t.queueUnset fuel queue
  | queueUsed queue => do let _ ← t.queueUsed queue; pure ()
  | ackInterrupt => do let _ ← MmioTransport.ackInterrupt; pure ()

/-- The calls one after another. -/
def runAll (t : MmioTransport) (fuel : ℕ) : List TransportCall → Mmio Unit
  | [] => pure ()
  | c :: cs => do c.run t fuel; runAll t fuel cs

/-- The queues in use, as the calls mean to keep them: `queue_set` adds its queue,
`queue_unset` removes it, writing the status `0` resets the device and empties the set, and no
other call changes it. -/
def inUse : TransportCall → (UInt16 → Bool) → (UInt16 → Bool)
  | queueSet queue .., live => Function.update live queue true
  | queueUnset queue, live => Function.update live queue false
  | setStatus status, live => if status = 0 then fun _ ↦ false else live
  | _, live => live

/-- A call whose record the device keeps: a legacy `queue_set` must pass its assertions and
place the queue above page `0`, whose frame number the legacy layout reserves for no queue. -/
def Valid (t : MmioTransport) : TransportCall → Prop
  | queueSet _ size descriptors driverArea deviceArea =>
    (t.version = .legacy → driverArea - descriptors = 16 * size.toNat ∧
      deviceArea - descriptors = alignUp (16 * size.toNat + 2 * (size.toNat + 3))) ∧
      RegisterFile.recorded t descriptors = true
  | _ => True

variable {t : MmioTransport} {fuel : ℕ}

/-- One call keeps the register file's record of the queues in use as the set the calls mean,
and the size the device offers. -/
theorem run_tracks_inUse (hfuel : 0 < fuel) (c : TransportCall) (hc : c.Valid t)
    (s : RegisterFile) :
    ∃ s', registerFile.Runs (c.run t fuel) s (.ok ()) s' ∧ s'.queueNumMax = s.queueNumMax ∧
      s'.inUse t = c.inUse (s.inUse t) := by
  cases c with
  | readDeviceFeatures =>
    exact ⟨s, (s.runs_readDeviceFeatures).bind (IoLog.Device.Runs.pure _ _), rfl, rfl⟩
  | writeDriverFeatures driverFeatures =>
    exact ⟨s, s.runs_writeDriverFeatures driverFeatures, rfl, rfl⟩
  | maxQueueSize queue =>
    exact ⟨_, (s.runs_maxQueueSize queue).bind (IoLog.Device.Runs.pure _ _), rfl, rfl⟩
  | notify queue => exact ⟨s, s.runs_notify queue, rfl, rfl⟩
  | setStatus status =>
    refine ⟨_, s.runs_setStatus status, by simp, ?_⟩
    by_cases h0 : status = 0
    · subst h0
      funext x
      cases hv : t.version <;> simp [RegisterFile.write_status_zero, RegisterFile.inUse, inUse, hv]
    · rw [RegisterFile.write_status_of_ne s h0]
      simp [inUse, h0]
  | setGuestPageSize guestPageSize =>
    exact ⟨s, s.runs_setGuestPageSize t guestPageSize, rfl, rfl⟩
  | queueSet queue size descriptors driverArea deviceArea =>
    obtain ⟨hasserts, hrecorded⟩ := hc
    have hset := s.runs_queueSet t queue size descriptors driverArea deviceArea hasserts
    rwa [hrecorded] at hset
  | queueUnset queue => exact s.runs_queueUnset t hfuel queue
  | queueUsed queue =>
    exact ⟨_, (s.runs_queueUsed t queue).bind (IoLog.Device.Runs.pure _ _), rfl, rfl⟩
  | ackInterrupt =>
    exact ⟨s, (s.runs_ackInterrupt).bind (IoLog.Device.Runs.pure _ _), rfl, rfl⟩

/-- Over every run of valid calls, from every register file, the register file's record of the
queues in use is the set the calls mean, and `queue_used` reads it back: the transport selects
each queue before it touches the queue's registers and reads back the register it writes. -/
theorem runAll_tracks_inUse (hfuel : 0 < fuel) (cs : List TransportCall)
    (hcs : ∀ c ∈ cs, c.Valid t) (s : RegisterFile) :
    ∃ s', registerFile.Runs (runAll t fuel cs) s (.ok ()) s' ∧ s'.queueNumMax = s.queueNumMax ∧
      s'.inUse t = cs.foldl (fun live c ↦ c.inUse live) (s.inUse t) := by
  induction cs generalizing s with
  | nil => exact ⟨s, IoLog.Device.Runs.pure () s, rfl, rfl⟩
  | cons c cs ih =>
    obtain ⟨s₁, hrun₁, hmax₁, hlive₁⟩ := run_tracks_inUse hfuel c (hcs c (by simp)) s
    obtain ⟨s₂, hrun₂, hmax₂, hlive₂⟩ := ih (fun c' hc' ↦ hcs c' (by simp [hc'])) s₁
    refine ⟨s₂, hrun₁.bind hrun₂, hmax₂.trans hmax₁, ?_⟩
    rw [hlive₂, hlive₁, List.foldl_cons]

/-- Over every run of valid calls, from every register file, `queue_used` reports exactly the
queues the calls mean to have in use: the transport selects each queue before it touches the
queue's registers, and reads back the register its layout writes. -/
theorem calls_track_inUse (hfuel : 0 < fuel) (cs : List TransportCall)
    (hcs : ∀ c ∈ cs, c.Valid t) (s : RegisterFile) :
    ∃ s', registerFile.Runs (runAll t fuel cs) s (.ok ()) s' ∧
      ∀ queue, ∃ s'', registerFile.Runs (t.queueUsed queue) s'
        (.ok (cs.foldl (fun live c ↦ c.inUse live) (s.inUse t) queue)) s'' := by
  obtain ⟨s', hrun, -, hlive⟩ := runAll_tracks_inUse hfuel cs hcs s
  refine ⟨s', hrun, fun queue ↦ ⟨{ s' with queueSel := queue.toUInt32 }, ?_⟩⟩
  rw [← hlive]
  exact s'.runs_queueUsed t queue

/-- Two queues set up on the modern layout and the first one released: `queue_used` then
reports the second one only. -/
theorem calls_track_inUse_two :
    0 < 1 ∧ (∀ c ∈ [setStatus 0, queueSet 0 16 0x1000 0x1100 0x2000,
        queueSet 1 16 0x3000 0x3100 0x4000, queueUnset 0], c.Valid ⟨.modern⟩) ∧
      ∃ s', registerFile.Runs (runAll ⟨.modern⟩ 1 [setStatus 0, queueSet 0 16 0x1000 0x1100 0x2000,
          queueSet 1 16 0x3000 0x3100 0x4000, queueUnset 0]) RegisterFile.fresh (.ok ()) s' ∧
        ∀ queue, ∃ s'', registerFile.Runs (MmioTransport.queueUsed ⟨.modern⟩ queue) s'
          (.ok ([setStatus 0, queueSet 0 16 0x1000 0x1100 0x2000,
            queueSet 1 16 0x3000 0x3100 0x4000, queueUnset 0].foldl (fun live c ↦ c.inUse live)
              (RegisterFile.fresh.inUse ⟨.modern⟩) queue)) s'' := by
  have hvalid : ∀ c ∈ [setStatus 0, queueSet 0 16 0x1000 0x1100 0x2000,
      queueSet 1 16 0x3000 0x3100 0x4000, queueUnset 0], c.Valid ⟨.modern⟩ := by
    simp [Valid, RegisterFile.recorded]
  exact ⟨by decide, hvalid, calls_track_inUse (by decide) _ hvalid _⟩

end TransportCall

/-! ## Setting a queue up -/

namespace VirtIoQueue

variable (SIZE : ℕ) (hal : Hal) (t : MmioTransport) (queueIdx : UInt16) (s : RegisterFile)

theorem new_of_inUse (hused : s.inUse t queueIdx = true) :
    registerFile.Runs (new SIZE hal t queueIdx) s (.error .alreadyUsed)
      { s with queueSel := queueIdx.toUInt32 } := by
  unfold new
  refine (s.runs_queueUsed t queueIdx).bind ?_
  rw [hused, if_pos rfl]
  exact IoLog.Device.Runs.throw _ _

/-- `new` sets up a free queue whose size it accepts and the device offers, and changes no
other queue; the queue is recorded as in use unless the legacy layout puts it at page frame
`0`. -/
theorem new_of_free (hfree : s.inUse t queueIdx = false) (hpow : isPowerOfTwo SIZE = true)
    (hsize : SIZE ≤ 65535) (hmax : SIZE.toUInt32 ≤ s.queueNumMax) :
    ∃ s', registerFile.Runs (new SIZE hal t queueIdx) s (.ok (init SIZE queueIdx)) s' ∧
      s'.queueNumMax = s.queueNumMax ∧ s'.inUse t = Function.update (s.inUse t) queueIdx
        (RegisterFile.recorded t (hal.dmaAlloc (pages (totalSize SIZE)))) := by
  have hlegacy : t.version = .legacy →
      hal.dmaAlloc (pages (totalSize SIZE)) + AVAIL_RING_OFFSET SIZE -
          hal.dmaAlloc (pages (totalSize SIZE)) = 16 * SIZE.toUInt16.toUInt32.toNat ∧
        hal.dmaAlloc (pages (totalSize SIZE)) + USED_RING_OFFSET SIZE -
          hal.dmaAlloc (pages (totalSize SIZE)) = alignUp (16 * SIZE.toUInt16.toUInt32.toNat +
            2 * (SIZE.toUInt16.toUInt32.toNat + 3)) := fun _ ↦
    ⟨by simp [toUInt32_toUInt16_toNat hsize, AVAIL_RING_OFFSET, descriptorSize],
      by simp [toUInt32_toUInt16_toNat hsize, USED_RING_OFFSET, descriptorSize, availRingSize]⟩
  obtain ⟨s', hset, hmax', hlive'⟩ := RegisterFile.runs_queueSet { s with queueSel := queueIdx.toUInt32 }
    t queueIdx SIZE.toUInt16.toUInt32 _ _ _ hlegacy
  refine ⟨s', ?_, by simpa using hmax', by simpa using hlive'⟩
  unfold new
  refine (s.runs_queueUsed t queueIdx).bind ?_
  rw [hfree, if_neg Bool.false_ne_true,
    if_neg (by simp [hpow, hsize])]
  refine (RegisterFile.runs_maxQueueSize _ queueIdx).bind ?_
  rw [if_neg (by simpa using hmax)]
  exact hset.bind (IoLog.Device.Runs.pure _ _)

/-- The life of a queue against the register file: `new` sets a free queue up, every later
`new` on its index is refused until the queue is unset, and `new` then sets it up again. -/
theorem queue_lifecycle {fuel : ℕ} (hfuel : 0 < fuel) (hfree : s.inUse t queueIdx = false)
    (hpow : isPowerOfTwo SIZE = true) (hsize : SIZE ≤ 65535)
    (hmax : SIZE.toUInt32 ≤ s.queueNumMax)
    (hpage : RegisterFile.recorded t (hal.dmaAlloc (pages (totalSize SIZE))) = true)
    (SIZE' : ℕ) (hal' : Hal) :
    ∃ s₁ s₂ s₃ s₄, registerFile.Runs (new SIZE hal t queueIdx) s (.ok (init SIZE queueIdx)) s₁ ∧
      registerFile.Runs (new SIZE' hal' t queueIdx) s₁ (.error .alreadyUsed) s₂ ∧
      registerFile.Runs (t.queueUnset fuel queueIdx) s₂ (.ok ()) s₃ ∧
      registerFile.Runs (new SIZE hal t queueIdx) s₃ (.ok (init SIZE queueIdx)) s₄ := by
  obtain ⟨s₁, hnew₁, hmax₁, hlive₁⟩ := new_of_free SIZE hal t queueIdx s hfree hpow hsize hmax
  have hused : s₁.inUse t queueIdx = true := by
    rw [hlive₁, hpage, Function.update_self]
  have hrefused := new_of_inUse SIZE' hal' t queueIdx s₁ hused
  obtain ⟨s₃, hunset, hmax₃, hlive₃⟩ :=
    RegisterFile.runs_queueUnset { s₁ with queueSel := queueIdx.toUInt32 } t hfuel queueIdx
  have hfree₃ : s₃.inUse t queueIdx = false := by
    rw [hlive₃, Function.update_self]
  have hmax₃' : SIZE.toUInt32 ≤ s₃.queueNumMax := by
    rw [hmax₃]
    exact hmax₁ ▸ hmax
  obtain ⟨s₄, hnew₄, -⟩ := new_of_free SIZE hal t queueIdx s₃ hfree₃ hpow hsize hmax₃'
  exact ⟨s₁, _, s₃, s₄, hnew₁, hrefused, hunset, hnew₄⟩

/-- A queue of 16 entries on queue 0 of a freshly reset modern device. -/
theorem queue_lifecycle_fresh :
    0 < 1 ∧ RegisterFile.fresh.inUse ⟨.modern⟩ 0 = false ∧ isPowerOfTwo 16 = true ∧
      16 ≤ 65535 ∧ (16 : ℕ).toUInt32 ≤ RegisterFile.fresh.queueNumMax ∧
      RegisterFile.recorded ⟨.modern⟩ (identityHal.dmaAlloc (pages (totalSize 16))) = true ∧
      ∃ s₁ s₂ s₃ s₄,
        registerFile.Runs (new 16 identityHal ⟨.modern⟩ 0) RegisterFile.fresh (.ok (init 16 0)) s₁ ∧
        registerFile.Runs (new 8 identityHal ⟨.modern⟩ 0) s₁ (.error .alreadyUsed) s₂ ∧
        registerFile.Runs (MmioTransport.queueUnset ⟨.modern⟩ 1 0) s₂ (.ok ()) s₃ ∧
        registerFile.Runs (new 16 identityHal ⟨.modern⟩ 0) s₃ (.ok (init 16 0)) s₄ :=
  ⟨by decide, rfl, rfl, by decide, by decide, rfl,
    queue_lifecycle 16 identityHal ⟨.modern⟩ 0 RegisterFile.fresh (by decide) rfl rfl (by decide)
      (by decide) rfl 8 identityHal⟩

/-- A legacy queue whose descriptor table lies in page `0` is set up with page frame `0`, which
reads as no queue: a second `new` on its index is not refused, and sets the queue up again over
the first one's rings. -/
theorem new_legacy_page_zero (hlegacy : t.version = .legacy) (hfree : s.inUse t queueIdx = false)
    (hpow : isPowerOfTwo SIZE = true) (hsize : SIZE ≤ 65535)
    (hmax : SIZE.toUInt32 ≤ s.queueNumMax) (hpage : hal.dmaAlloc (pages (totalSize SIZE)) < PAGE_SIZE) :
    ∃ s₁ s₂, registerFile.Runs (new SIZE hal t queueIdx) s (.ok (init SIZE queueIdx)) s₁ ∧
      registerFile.Runs (new SIZE hal t queueIdx) s₁ (.ok (init SIZE queueIdx)) s₂ := by
  have hzero : RegisterFile.recorded t (hal.dmaAlloc (pages (totalSize SIZE))) = false := by
    simp [RegisterFile.recorded, hlegacy, Nat.div_eq_of_lt hpage]
  obtain ⟨s₁, hnew₁, hmax₁, hlive₁⟩ := new_of_free SIZE hal t queueIdx s hfree hpow hsize hmax
  have hfree₁ : s₁.inUse t queueIdx = false := by
    rw [hlive₁, hzero, Function.update_self]
  obtain ⟨s₂, hnew₂, -⟩ := new_of_free SIZE hal t queueIdx s₁ hfree₁ hpow hsize (hmax₁ ▸ hmax)
  exact ⟨s₁, s₂, hnew₁, hnew₂⟩

/-- A HAL whose allocations all start at address `0`. -/
def pageZeroHal : Hal := { toPaddr := id, dmaAlloc := fun _ ↦ 0 }

/-- Queue 0 of a freshly reset legacy device, with its rings in page `0`, is set up twice. -/
theorem new_legacy_page_zero_twice :
    MmioTransport.version ⟨.legacy⟩ = .legacy ∧ RegisterFile.fresh.inUse ⟨.legacy⟩ 0 = false ∧
      isPowerOfTwo 16 = true ∧ 16 ≤ 65535 ∧
      (16 : ℕ).toUInt32 ≤ RegisterFile.fresh.queueNumMax ∧
      pageZeroHal.dmaAlloc (pages (totalSize 16)) < PAGE_SIZE ∧
      ∃ s₁ s₂,
        registerFile.Runs (new 16 pageZeroHal ⟨.legacy⟩ 0) RegisterFile.fresh (.ok (init 16 0)) s₁ ∧
        registerFile.Runs (new 16 pageZeroHal ⟨.legacy⟩ 0) s₁ (.ok (init 16 0)) s₂ :=
  ⟨rfl, rfl, rfl, by decide, by decide, by decide,
    new_legacy_page_zero 16 pageZeroHal ⟨.legacy⟩ 0 RegisterFile.fresh rfl rfl rfl (by decide)
      (by decide) (by decide)⟩

end VirtIoQueue

/-! ## Releasing queues: the drops of the drivers -/

/-- `queue_unset(queue).expect(..)` for each queue in order, the body the drops of the drivers
share: a failed unset panics. -/
def unsetQueues (t : MmioTransport) (fuel : ℕ) : List UInt16 → Mmio Unit
  | [] => pure ()
  | queue :: queues => do
    match ← IoLog.Io.attempt (t.queueUnset fuel queue) with
    | .ok () => unsetQueues t fuel queues
    | .error _ => IoLog.Io.panic

/-- `Drop for VirtIOBlk`, before the fields are dropped. -/
def VirtIOBlk.drop (fuel : ℕ) (blk : VirtIOBlk) : Mmio Unit := unsetQueues blk.transport fuel [0]

/-- `Drop for VirtIOConsole`, before the fields are dropped. -/
def VirtIOConsole.drop (fuel : ℕ) (console : VirtIOConsole) : Mmio Unit :=
  unsetQueues console.transport fuel
    [VirtIOConsole.QUEUE_RECEIVEQ_PORT_0, VirtIOConsole.QUEUE_TRANSMITQ_PORT_0]

/-- `Drop for VirtIOGpu`, before the fields are dropped. -/
def VirtIOGpu.drop (fuel : ℕ) (gpu : VirtIOGpu) : Mmio Unit :=
  unsetQueues gpu.transport fuel [VirtIOGpu.QUEUE_TRANSMIT, VirtIOGpu.QUEUE_CURSOR]

/-- `Drop for VirtIOInput`, before the fields are dropped. -/
def VirtIOInput.drop (fuel : ℕ) (input : VirtIOInput) : Mmio Unit :=
  unsetQueues input.transport fuel [VirtIOInput.QUEUE_EVENT, VirtIOInput.QUEUE_STATUS]

/-- The drop of a driver releases its queues: against the register file it returns, records
none of them in use, and leaves every other queue as it was. -/
theorem unsetQueues_releases {t : MmioTransport} {fuel : ℕ} (hfuel : 0 < fuel)
    (queues : List UInt16) (s : RegisterFile) :
    ∃ s', registerFile.Runs (unsetQueues t fuel queues) s (.ok ()) s' ∧
      s'.queueNumMax = s.queueNumMax ∧
      s'.inUse t = fun queue ↦ if queue ∈ queues then false else s.inUse t queue := by
  induction queues generalizing s with
  | nil => exact ⟨s, IoLog.Device.Runs.pure () s, rfl, by simp⟩
  | cons queue queues ih =>
    obtain ⟨s₁, hunset, hmax₁, hlive₁⟩ := s.runs_queueUnset t hfuel queue
    obtain ⟨s₂, hrest, hmax₂, hlive₂⟩ := ih s₁
    refine ⟨s₂, hunset.attempt_ok.bind hrest, hmax₂.trans hmax₁, ?_⟩
    funext x
    rw [hlive₂, hlive₁]
    by_cases hx : x = queue
    · simp [hx]
    · simp [hx]

/-- The input driver's drop, on a modern device, releases its event and status queues. -/
theorem unsetQueues_releases_input :
    0 < 1 ∧ ∃ s', registerFile.Runs
      (unsetQueues ⟨.modern⟩ 1 [VirtIOInput.QUEUE_EVENT, VirtIOInput.QUEUE_STATUS])
      RegisterFile.fresh (.ok ()) s' ∧ s'.queueNumMax = RegisterFile.fresh.queueNumMax ∧
      s'.inUse ⟨.modern⟩ = fun queue ↦
        if queue ∈ [VirtIOInput.QUEUE_EVENT, VirtIOInput.QUEUE_STATUS] then false
        else RegisterFile.fresh.inUse ⟨.modern⟩ queue :=
  ⟨by decide, unsetQueues_releases (by decide) _ _⟩

end SafeVirtio
