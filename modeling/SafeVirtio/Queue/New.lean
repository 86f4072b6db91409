import SafeVirtio.Queue.Basic
import SafeVirtio.Transport.Mmio

/-!
# `VirtIoQueue::new`

The constructor refuses a queue the device already uses and a `SIZE` that is not a power of two,
does not fit in `u16` or exceeds the device's maximum; it then allocates the queue's pages and
hands their three regions to the transport with `queue_set`.  The layout constants are the sizes
of the `repr(C)` ring structures of `queue.rs`.
-/

namespace SafeVirtio

namespace VirtIoQueue

/-- `size_of::<Descriptor>()`: `repr(C, align(16))` over 8 + 4 + 2 + 2 bytes. -/
def descriptorSize : ℕ := 16

/-- `size_of::<AvailRing<SIZE>>()`: `flags`, `idx`, `SIZE` entries and `used_event`, all `u16`. -/
def availRingSize (SIZE : ℕ) : ℕ := 2 * (SIZE + 3)

/-- `size_of::<UsedRing<SIZE>>()`: `flags` and `idx`, `SIZE` entries of 8 bytes and
`avail_event`, padded to the entries' alignment of 4. -/
def usedRingSize (SIZE : ℕ) : ℕ := 8 * SIZE + 8

def AVAIL_RING_OFFSET (SIZE : ℕ) : ℕ := descriptorSize * SIZE

def USED_RING_OFFSET (SIZE : ℕ) : ℕ := alignUp (descriptorSize * SIZE + availRingSize SIZE)

def totalSize (SIZE : ℕ) : ℕ :=
  alignUp (descriptorSize * SIZE + availRingSize SIZE) + alignUp (usedRingSize SIZE)

/-- `usize::is_power_of_two`. -/
def isPowerOfTwo (n : ℕ) : Bool := n != 0 && n &&& (n - 1) == 0

/-- `VirtIoQueue::new`.  The size check short-circuits as `||` does: the device's maximum is read
only for a power of two that fits in `u16`. -/
def new (SIZE : ℕ) (hal : Hal) (transport : MmioTransport) (queueIdx : UInt16) :
    Mmio (VirtIoQueue SIZE) := do
  if ← transport.queueUsed queueIdx then IoLog.Io.throw .alreadyUsed else
  if !isPowerOfTwo SIZE || SIZE > 65535 then IoLog.Io.throw .invalidParam else
  if (← MmioTransport.maxQueueSize queueIdx) < SIZE.toUInt32 then IoLog.Io.throw .invalidParam else
  let size := SIZE.toUInt16
  let descriptorsPaddr := hal.dmaAlloc (pages (totalSize SIZE))
  let driverAreaPaddr := descriptorsPaddr + AVAIL_RING_OFFSET SIZE
  let deviceAreaPaddr := descriptorsPaddr + USED_RING_OFFSET SIZE
  transport.queueSet queueIdx size.toUInt32 descriptorsPaddr driverAreaPaddr deviceAreaPaddr
  pure (init SIZE queueIdx)

theorem new_returns (SIZE : ℕ) (hal : Hal) (transport : MmioTransport) (queueIdx : UInt16) :
    IoLog.Returns (new SIZE hal transport queueIdx) (· = init SIZE queueIdx) := by
  unfold new
  refine IoLog.Returns.bind_any fun used ↦ ?_
  refine IoLog.Returns.ite (fun _ ↦ IoLog.Returns.throw) fun _ ↦ ?_
  refine IoLog.Returns.ite (fun _ ↦ IoLog.Returns.throw) fun _ ↦ ?_
  refine IoLog.Returns.bind_any fun max ↦ ?_
  refine IoLog.Returns.ite (fun _ ↦ IoLog.Returns.throw) fun _ ↦ ?_
  exact IoLog.Returns.bind_any fun _ ↦
    IoLog.Returns.pure rfl

/-- A queue `new` returns has a `SIZE` that passed the size check: a power of two that fits
`u16`. -/
theorem new_returns_accepted (SIZE : ℕ) (hal : Hal) (transport : MmioTransport)
    (queueIdx : UInt16) :
    IoLog.Returns (new SIZE hal transport queueIdx) fun q ↦
      q = init SIZE queueIdx ∧ isPowerOfTwo SIZE = true ∧ SIZE ≤ 65535 := by
  unfold new
  refine IoLog.Returns.bind_any fun used ↦ ?_
  refine IoLog.Returns.ite (fun _ ↦ IoLog.Returns.throw) fun _ ↦ ?_
  refine IoLog.Returns.ite (fun _ ↦ IoLog.Returns.throw) fun hsize ↦ ?_
  have hok : isPowerOfTwo SIZE = true ∧ SIZE ≤ 65535 := by
    simp only [Bool.or_eq_true, Bool.not_eq_eq_eq_not, Bool.not_true, decide_eq_true_eq,
      not_or] at hsize
    exact ⟨by simpa using hsize.1, by omega⟩
  refine IoLog.Returns.bind_any fun max ↦ ?_
  refine IoLog.Returns.ite (fun _ ↦ IoLog.Returns.throw) fun _ ↦ ?_
  exact IoLog.Returns.bind_any fun _ ↦
    IoLog.Returns.pure ⟨rfl, hok⟩

/-- The offset of the used ring from the descriptor table, as a legacy device computes it for a
queue of `num` entries and an alignment `align`: past the table and the available ring
(`flags`, `idx`, `num` entries and `used_event`), rounded up to `align`. -/
def legacyUsedOffset (num align : ℕ) : ℕ := (16 * num + 2 * (num + 3) + align - 1) / align * align

theorem isPowerOfTwo_iff {n : ℕ} : isPowerOfTwo n = true ↔ n.isPowerOfTwo := by
  simp only [isPowerOfTwo, Bool.and_eq_true, bne_iff_ne, ne_eq, beq_iff_eq]
  exact Nat.ne_zero_and_sub_one_eq_zero_iff_isPowerOfTwo

theorem ring_end_not_aligned {SIZE : ℕ} (hpow : SIZE.isPowerOfTwo) :
    (descriptorSize * SIZE + availRingSize SIZE) % PAGE_SIZE ≠ 0 := by
  obtain ⟨k, rfl⟩ := hpow
  unfold descriptorSize availRingSize PAGE_SIZE
  cases k with
  | zero => decide
  | succ k =>
    rw [pow_succ]
    omega

/-- For every size `new` accepts, a legacy device finds the used ring where the driver put
it. -/
theorem USED_RING_OFFSET_eq_legacy {SIZE : ℕ} (hpow : isPowerOfTwo SIZE = true) :
    USED_RING_OFFSET SIZE = legacyUsedOffset SIZE PAGE_SIZE := by
  have hend := ring_end_not_aligned (isPowerOfTwo_iff.mp hpow)
  unfold USED_RING_OFFSET alignUp legacyUsedOffset
  unfold descriptorSize availRingSize PAGE_SIZE at *
  generalize 16 * SIZE + 2 * (SIZE + 3) = x at hend ⊢
  omega

/-- For every size, the available ring ends before the used ring starts, the used ring starts on
a page boundary, and it ends inside the pages `new` allocates. -/
theorem rings_inside (SIZE : ℕ) :
    AVAIL_RING_OFFSET SIZE + availRingSize SIZE < USED_RING_OFFSET SIZE ∧
      USED_RING_OFFSET SIZE % PAGE_SIZE = 0 ∧
      USED_RING_OFFSET SIZE + usedRingSize SIZE ≤ pages (totalSize SIZE) * PAGE_SIZE := by
  have havail := alignUp_bounds (descriptorSize * SIZE + availRingSize SIZE)
  have hused := alignUp_bounds (usedRingSize SIZE)
  have htotal : totalSize SIZE = USED_RING_OFFSET SIZE + alignUp (usedRingSize SIZE) := rfl
  refine ⟨havail.1, havail.2.2, ?_⟩
  calc USED_RING_OFFSET SIZE + usedRingSize SIZE
      ≤ totalSize SIZE := by
        rw [htotal]
        exact Nat.add_le_add_left hused.1.le _
    _ ≤ pages (totalSize SIZE) * PAGE_SIZE := le_pages_mul _

/-- Every queue `new` returns lies in its pages as the device expects: the used ring after the
available ring, on a page boundary, inside the allocation, and where a legacy device computes
it. -/
theorem new_rings_layout (SIZE : ℕ) (hal : Hal) (transport : MmioTransport) (queueIdx : UInt16) :
    IoLog.Returns (new SIZE hal transport queueIdx) fun _ ↦
      AVAIL_RING_OFFSET SIZE + availRingSize SIZE < USED_RING_OFFSET SIZE ∧
      USED_RING_OFFSET SIZE % PAGE_SIZE = 0 ∧
      USED_RING_OFFSET SIZE + usedRingSize SIZE ≤ pages (totalSize SIZE) * PAGE_SIZE ∧
      USED_RING_OFFSET SIZE = legacyUsedOffset SIZE PAGE_SIZE :=
  (new_returns_accepted SIZE hal transport queueIdx).mono fun _ h ↦ by
    obtain ⟨hbefore, haligned, hinside⟩ := rings_inside SIZE
    exact ⟨hbefore, haligned, hinside, USED_RING_OFFSET_eq_legacy h.2.1⟩

end VirtIoQueue

end SafeVirtio
