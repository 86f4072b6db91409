import SafeVirtio.Queue.Pop
import SafeVirtio.Lib.Reachable

/-!
# A virtqueue together with its device

The device side of a split virtqueue is not code of this crate, so it is modelled by what every
device may do: read the available ring strictly in order up to `avail.idx`, and complete any
chain it has read and not yet completed, in any order and once, by writing `(head, len)` at
`used.ring[used.idx % SIZE]` and bumping `used.idx` (wrapping at `2 ^ 16`).  `DeviceQueue`
holds the device's own view: how far it has read and which heads it is still working on.

A `QueueSystem` is the driver's queue, the device, and the tokens `add` has returned that
`pop_used` has not yet taken back: the only requests a driver may pop.  Its events are the
driver's calls `add` (of the shape every driver passes) and `pop_used` (of an outstanding token)
and the device's two moves; `step` performs one, and a state is reachable when some sequence of
events leads to it from the queue `VirtIoQueue::new` builds.  A call that panics has no next
state, so every reachable state lies on a run without panics.
-/

namespace SafeVirtio

/-- The device's view of one virtqueue. -/
structure DeviceQueue where
  /-- The next available-ring position the device will read. -/
  nextAvail : UInt16
  /-- Heads the device has read and not yet completed. -/
  inFlight : List UInt16
  deriving DecidableEq, Repr

namespace DeviceQueue

variable {SIZE : ℕ}

/-- Read the next published head, if the driver has published one. -/
def fetch (q : VirtIoQueue SIZE) (d : DeviceQueue) : Option DeviceQueue :=
  if d.nextAvail = q.availRing.idx then none
  else some
    { nextAvail := d.nextAvail + 1
      inFlight := d.inFlight ++ [q.availRing.ring (d.nextAvail.toNat % SIZE)] }

/-- The used ring after the device writes `(head, len)` at `used.idx` and bumps the index. -/
def pushUsed (SIZE : ℕ) (r : UsedRing) (head : UInt16) (len : UInt32) : UsedRing :=
  { r with
    ring := Function.update r.ring (r.idx.toNat % SIZE) { id := head.toUInt32, len := len }
    idx := r.idx + 1 }

/-- Complete a chain the device has read. -/
def complete (q : VirtIoQueue SIZE) (d : DeviceQueue) (head : UInt16) (len : UInt32) :
    Option (VirtIoQueue SIZE × DeviceQueue) :=
  if head ∈ d.inFlight then
    some ({ q with usedRing := pushUsed SIZE q.usedRing head len },
      { d with inFlight := d.inFlight.erase head })
  else none

/-- When the driver has seen every completion and popped nothing out of order, the completion
the device pushes next is the one `pop_used` of its head takes: the driver gets the length the
device wrote, the chain goes back to the free deque and `last_seen_used` moves past it. -/
theorem popUsed_pushUsed {q : VirtIoQueue SIZE} {head : UInt16} {len : UInt32} {chain : List ℕ}
    (hdrained : q.lastSeenUsed = q.usedRing.idx) (hpoped : q.popedUsed = ∅)
    (hchain : LinkedChain.IsChain SIZE (VirtIoQueue.chainLink SIZE q.descriptorTable) head.toNat chain)
    (hnodup : chain.Nodup) :
    ({ q with usedRing := pushUsed SIZE q.usedRing head len } : VirtIoQueue SIZE).popUsed head =
      some (.ok len, { q with
        usedRing := pushUsed SIZE q.usedRing head len
        availDescIndex := q.availDescIndex ++ chain.map Nat.toUInt16
        popedUsed := ∅
        lastSeenUsed := q.lastSeenUsed + 1
        availRing := { q.availRing with usedEvent := q.lastSeenUsed + 1 } }) := by
  have hne : q.lastSeenUsed ≠ (pushUsed SIZE q.usedRing head len).idx := by
    simp [pushUsed, hdrained]
  have hmatch : ({ q with usedRing := pushUsed SIZE q.usedRing head len } : VirtIoQueue SIZE).usedMatches
      head q.lastSeenUsed = true := by
    simp [VirtIoQueue.usedMatches, pushUsed, hdrained]
  rw [VirtIoQueue.popUsed_front_chain hne hmatch hpoped hchain hnodup]
  simp [pushUsed, hdrained]

end DeviceQueue

/-- A driver's virtqueue, its device, and the tokens the driver may still pop. -/
structure QueueSystem (SIZE : ℕ) where
  queue : VirtIoQueue SIZE
  device : DeviceQueue
  tokens : List UInt16

/-- One move of the driver or of the device. -/
inductive QueueEvent
  | add (data : List Descriptor)
  | popUsed (token : UInt16)
  | fetch
  | complete (head : UInt16) (len : UInt32)

namespace QueueSystem

variable {SIZE : ℕ}

/-- The system right after `VirtIoQueue::new`: nothing published, nothing read. -/
def init (SIZE : ℕ) (queueIdx : UInt16) : QueueSystem SIZE where
  queue := VirtIoQueue.init SIZE queueIdx
  device := { nextAvail := 0, inFlight := [] }
  tokens := []

/-- Perform one event; `none` when the event is not enabled or the driver's call panics. -/
def step (s : QueueSystem SIZE) : QueueEvent → Option (QueueSystem SIZE)
  | .add data =>
    if ChainShape data then
      (s.queue.add data).map fun
        | (.ok token, q) => { s with queue := q, tokens := s.tokens ++ [token] }
        | (.error _, q) => { s with queue := q }
    else none
  | .popUsed token =>
    if token ∈ s.tokens then
      (s.queue.popUsed token).map fun
        | (.ok _, q) => { s with queue := q, tokens := s.tokens.erase token }
        | (.error _, q) => { s with queue := q }
    else none
  | .fetch => (DeviceQueue.fetch s.queue s.device).map fun d ↦ { s with device := d }
  | .complete head len =>
    (DeviceQueue.complete s.queue s.device head len).map fun (q, d) ↦
      { s with queue := q, device := d }

/-! ## What one step can do -/

theorem step_add {s s' : QueueSystem SIZE} {data : List Descriptor}
    (h : s.step (.add data) = some s') :
    ChainShape data ∧
      ((∃ token q, s.queue.add data = some (.ok token, q) ∧
          s' = { s with queue := q, tokens := s.tokens ++ [token] }) ∨
        ∃ e q, s.queue.add data = some (.error e, q) ∧ s' = { s with queue := q }) := by
  simp only [step] at h
  split_ifs at h with hshape
  obtain ⟨⟨r, q⟩, hadd, hres⟩ := Option.map_eq_some_iff.mp h
  refine ⟨hshape, ?_⟩
  cases r with
  | ok token => exact .inl ⟨token, q, hadd, hres.symm⟩
  | error e => exact .inr ⟨e, q, hadd, hres.symm⟩

theorem step_popUsed {s s' : QueueSystem SIZE} {token : UInt16}
    (h : s.step (.popUsed token) = some s') :
    token ∈ s.tokens ∧
      ((∃ len q, s.queue.popUsed token = some (.ok len, q) ∧
          s' = { s with queue := q, tokens := s.tokens.erase token }) ∨
        ∃ e q, s.queue.popUsed token = some (.error e, q) ∧ s' = { s with queue := q }) := by
  simp only [step] at h
  split_ifs at h with hmem
  obtain ⟨⟨r, q⟩, hpop, hres⟩ := Option.map_eq_some_iff.mp h
  refine ⟨hmem, ?_⟩
  cases r with
  | ok len => exact .inl ⟨len, q, hpop, hres.symm⟩
  | error e => exact .inr ⟨e, q, hpop, hres.symm⟩

theorem step_fetch {s s' : QueueSystem SIZE} (h : s.step .fetch = some s') :
    ∃ d, DeviceQueue.fetch s.queue s.device = some d ∧ s' = { s with device := d } := by
  obtain ⟨d, hd, rfl⟩ := Option.map_eq_some_iff.mp h
  exact ⟨d, hd, rfl⟩

theorem step_complete {s s' : QueueSystem SIZE} {head : UInt16} {len : UInt32}
    (h : s.step (.complete head len) = some s') :
    head ∈ s.device.inFlight ∧
      s' = { s with
        queue := { s.queue with usedRing := DeviceQueue.pushUsed SIZE s.queue.usedRing head len }
        device := { s.device with inFlight := s.device.inFlight.erase head } } := by
  obtain ⟨⟨q, d⟩, hc, rfl⟩ := Option.map_eq_some_iff.mp h
  simp only [DeviceQueue.complete] at hc
  split_ifs at hc with hmem
  cases hc
  exact ⟨hmem, rfl⟩

/-- The states reachable from a fresh queue. -/
def Reachable (SIZE : ℕ) (queueIdx : UInt16) : QueueSystem SIZE → Prop :=
  Reach.Reachable (· = init SIZE queueIdx) fun s s' ↦ ∃ e, s.step e = some s'

/-- Perform a sequence of events. -/
def run (s : QueueSystem SIZE) : List QueueEvent → Option (QueueSystem SIZE)
  | [] => some s
  | e :: es => (s.step e).bind fun s' ↦ run s' es

theorem reachable_of_run {queueIdx : UInt16} :
    ∀ {s s' : QueueSystem SIZE} (es : List QueueEvent), Reachable SIZE queueIdx s →
      s.run es = some s' → Reachable SIZE queueIdx s'
  | _, _, [], hs, h => by cases h; exact hs
  | s, _, e :: es, hs, h => by
    obtain ⟨s₁, hstep, hrun⟩ := Option.bind_eq_some_iff.mp h
    exact reachable_of_run es (Reach.Reachable.step hs ⟨e, hstep⟩) hrun

end QueueSystem

end SafeVirtio
