import SafeVirtio.Basic
import SafeVirtio.Lib.WrapWindow
import SafeVirtio.Lib.LinkedChain

/-!
# The split virtqueue of `queue.rs`

`VirtIoQueue<H, SIZE>` keeps three regions of a DMA page that the device reads and writes (the
descriptor table, the available ring and the used ring) and three fields only the driver sees:
the deque of free descriptor ids `avail_desc_index`, the used-ring position `last_seen_used` up
to which every completion has been popped, and the set `poped_used` of positions after it that
were popped out of order.  The model keeps all six under the source's names; the rings are
functions of the slot, read and written only below `SIZE` as the code's `% SIZE` ensures, and
the counters are `UInt16` as in the code, so that every index wraps at `2 ^ 16` on its own.

Each function below follows one function of `queue.rs`.  `can_pop` and the header search of
`pop_used` are the loop `WrapWindow.scan` over the used window; the descriptor walk of
`pop_used` is `LinkedChain.follow` over the table's `NEXT` links; the loop that advances
`last_seen_used` over popped positions is `advanceLastSeen`.
-/

namespace SafeVirtio

/-- One entry of the descriptor table: a buffer address and length, flags and a link. -/
structure Descriptor where
  addr : UInt64
  len : UInt32
  flags : UInt16
  next : UInt16
  deriving DecidableEq, Repr, Inhabited

namespace DescFlag

def EMPTY : UInt16 := 0
def NEXT : UInt16 := 1
def WRITE : UInt16 := 2

end DescFlag

/-- The `Hal` a driver is instantiated with: the physical address of a buffer, and the physical
address of the zeroed pages `dma_alloc` returns for a request of that many pages.  Nothing the
model proves depends on which addresses these are. -/
structure Hal where
  toPaddr : ℕ → ℕ
  dmaAlloc : ℕ → ℕ

/-- `Descriptor::new`: translate the buffer address; the link starts at zero. -/
def Descriptor.new (hal : Hal) (vaddr : ℕ) (len : UInt32) (flags : UInt16) : Descriptor where
  addr := (hal.toPaddr vaddr).toUInt64
  len := len
  flags := flags
  next := 0

/-- `if let Some(nex) = last { d.next = nex }`: link a descriptor to the one placed before it. -/
def Descriptor.setNext (d : Descriptor) : Option UInt16 → Descriptor
  | some nex => { d with next := nex }
  | none => d

/-- Whether a descriptor carries `DescFlag::NEXT`. -/
def Descriptor.hasNext (d : Descriptor) : Bool := d.flags &&& DescFlag.NEXT != 0

structure AvailRing where
  flags : UInt16
  idx : UInt16
  ring : ℕ → UInt16
  usedEvent : UInt16

structure UsedElem where
  id : UInt32
  len : UInt32
  deriving DecidableEq, Repr, Inhabited

structure UsedRing where
  flags : UInt16
  idx : UInt16
  ring : ℕ → UsedElem
  availEvent : UInt16

/-- `AvailRing::push`: publish `id` at `idx % SIZE` and bump `idx`; it never fails. -/
def AvailRing.push (SIZE : ℕ) (r : AvailRing) (id : UInt16) : VirtIoResult UInt16 × AvailRing :=
  let res := r.idx
  (.ok res, { r with ring := Function.update r.ring (res.toNat % SIZE) id, idx := res + 1 })

structure VirtIoQueue (SIZE : ℕ) where
  descriptorTable : ℕ → Descriptor
  availRing : AvailRing
  usedRing : UsedRing
  availDescIndex : List UInt16
  lastSeenUsed : UInt16
  popedUsed : Finset UInt16
  queueIdx : UInt16

namespace VirtIoQueue

variable {SIZE : ℕ}

/-- The queue `VirtIoQueue::new` returns, on a page whose rings start zeroed: every id of
`0..SIZE` is free (the constructor has checked `SIZE ≤ u16::MAX`, so the ids fit). -/
def init (SIZE : ℕ) (queueIdx : UInt16) : VirtIoQueue SIZE where
  descriptorTable := fun _ ↦ default
  availRing := { flags := 0, idx := 0, ring := fun _ ↦ 0, usedEvent := 0 }
  usedRing := { flags := 0, idx := 0, ring := fun _ ↦ default, availEvent := 0 }
  availDescIndex := (List.range SIZE).map Nat.toUInt16
  lastSeenUsed := 0
  popedUsed := ∅
  queueIdx := queueIdx

/-- The loop of `add`: walk the buffers last to first, take each one's id from the front of
the free deque, link it to the previously placed one and store it at `id % SIZE`.  The
`unwrap` of `pop_front` panics on an empty deque. -/
def fill (SIZE : ℕ) : List Descriptor → (ℕ → Descriptor) → List UInt16 → Option UInt16 →
    Option ((ℕ → Descriptor) × List UInt16 × Option UInt16)
  | [], desc, free, last => some (desc, free, last)
  | _ :: _, _, [], _ => none
  | d :: data, desc, id :: free, last =>
    fill SIZE data (Function.update desc (id.toNat % SIZE) (d.setNext last)) free (some id)

/-- `add`: place a chain and publish its head on the available ring. -/
def add (q : VirtIoQueue SIZE) (data : List Descriptor) :
    Option (VirtIoResult UInt16 × VirtIoQueue SIZE) :=
  -- `assert_ne!(data.len(), 0)`
  if data.length = 0 then none
  else if q.availDescIndex.length < data.length then some (.error .queueFull, q)
  else
    match fill SIZE data.reverse q.descriptorTable q.availDescIndex none with
    | none => none
    | some (_, _, none) => none
    | some (desc, free, some head) =>
      let q : VirtIoQueue SIZE := { q with descriptorTable := desc, availDescIndex := free }
      match AvailRing.push SIZE q.availRing head with
      | (.error e, availRing) => some (.error e, { q with availRing })
      | (.ok _, availRing) => some (.ok head, { q with availRing })

/-- Whether the used entry at ring position `pos` names the chain `id`. -/
def usedMatches (q : VirtIoQueue SIZE) (id : UInt16) (pos : UInt16) : Bool :=
  (q.usedRing.ring (pos.toNat % SIZE)).id == id.toUInt32

/-- The number of used-ring positions the driver has not yet passed. -/
def skip (q : VirtIoQueue SIZE) : ℕ := (q.usedRing.idx - q.lastSeenUsed).toNat

/-- `can_pop`: whether some entry of the window `last_seen_used .. used.idx` names `id`.
The source returns it as `Ok`; it never fails. -/
def canPop (q : VirtIoQueue SIZE) (id : UInt16) : Bool :=
  if q.lastSeenUsed = q.usedRing.idx then false
  else (WrapWindow.scan (q.usedMatches id) q.lastSeenUsed q.skip).isSome

/-- `peek_used`: the id of the used entry at `last_seen_used`, truncated to `u16`. -/
def peekUsed (q : VirtIoQueue SIZE) : Option UInt16 :=
  if q.lastSeenUsed = q.usedRing.idx then none
  else some (q.usedRing.ring (q.lastSeenUsed.toNat % SIZE)).id.toUInt16

/-- `get_desc_len`: the length of a descriptor, indexed without `% SIZE` (so it panics past
the table). -/
def getDescLen (q : VirtIoQueue SIZE) (id : UInt16) : Option ℕ :=
  if id.toNat < SIZE then some (q.descriptorTable id.toNat).len.toNat else none

/-- `available_desc`: the number of free descriptors. -/
def availableDesc (q : VirtIoQueue SIZE) : ℕ := q.availDescIndex.length

/-- `should_notify`: the device has not set `VIRTQ_USED_F_NO_NOTIFY`. -/
def shouldNotify (q : VirtIoQueue SIZE) : Bool := q.usedRing.flags &&& 1 == 0

/-- The link the chain walk of `pop_used` follows: `desc[now]` decides whether to go on and
`desc[now % SIZE].next` is the next slot. -/
def chainLink (SIZE : ℕ) (desc : ℕ → Descriptor) (now : ℕ) : Option ℕ :=
  if (desc now).hasNext then some (desc (now % SIZE)).next.toNat else none

/-- The loop that moves `last_seen_used` over positions popped out of order, storing each new
value in `used_event`.  Every turn erases one element of the set, so the loop runs at most as
many turns as the set has elements, and that many turns of fuel are exact. -/
def advanceLastSeen : ℕ → Finset UInt16 → UInt16 → UInt16 → Finset UInt16 × UInt16 × UInt16
  | 0, poped, last, event => (poped, last, event)
  | fuel + 1, poped, last, event =>
    if last ∈ poped then advanceLastSeen fuel (poped.erase last) (last + 1) (last + 1)
    else (poped, last, event)

/-- `pop_used`: if the window holds an entry naming `id`, record its position as popped,
return the chain starting at `id` to the back of the free deque, advance `last_seen_used`
and return the length the device wrote.  The walk is given `SIZE` steps, which is exact (see
`LinkedChain.follow`); a walk that needs more panics or never ends. -/
def popUsed (q : VirtIoQueue SIZE) (id : UInt16) :
    Option (VirtIoResult UInt32 × VirtIoQueue SIZE) :=
  if !q.canPop id then some (.error .notReady, q)
  -- `assert_ne!(self.last_seen_used, idx)`
  else if q.lastSeenUsed = q.usedRing.idx then none
  else
    let header := (WrapWindow.scan (q.usedMatches id) q.lastSeenUsed q.skip).getD
      (q.lastSeenUsed - 1)
    -- `assert_ne!(header, self.last_seen_used.wrapping_sub(1))`
    if header = q.lastSeenUsed - 1 then none
    else
      let poped := insert header q.popedUsed
      let len := (q.usedRing.ring (header.toNat % SIZE)).len
      match LinkedChain.follow SIZE (chainLink SIZE q.descriptorTable) SIZE id.toNat with
      | none => none
      | some chain =>
        let (poped, last, event) :=
          advanceLastSeen poped.card poped q.lastSeenUsed q.availRing.usedEvent
        some (.ok len, { q with
          availDescIndex := q.availDescIndex ++ chain.map Nat.toUInt16
          popedUsed := poped
          lastSeenUsed := last
          availRing := { q.availRing with usedEvent := event } })

end VirtIoQueue

end SafeVirtio
