import SafeVirtio.Queue.Blocking
import SafeVirtio.Queue.Device

/-!
# A request on an idle queue

The block, GPU and console drivers wait for each request before they make the next, so between
two calls their queues are idle: the device has read every published head and completed it,
the driver has popped every completion and every descriptor is free (`Idle`).  One call is one
turn of the queue.  `add` of a chain that fits posts it (`Idle.add`, with `Posted` saying what it
leaves: the head published where the device reads next, the table holding a chain of distinct
slots at it, and the ids still free with the chain's making up the ids that were free); the
device completes the chain at the position the driver has seen up to; and the wait pops it with
the length the device wrote (`Posted.addNotifyWaitPop`) and leaves the queue idle again
(`Posted.idle`).  A device that serves a chain as soon as it reads it does so in one turn
(`DeviceQueue.serveNext`), which on a posted chain is the completion the pop expects
(`Posted.serveNext`).
-/

namespace SafeVirtio

namespace VirtIoQueue

variable {SIZE : ℕ}

/-- A queue and its device's view of it between two requests: the device has read every
published head and completed it, the driver has popped every completion and all `SIZE`
descriptors are free. -/
structure Idle (q : VirtIoQueue SIZE) (dq : DeviceQueue) : Prop where
  caught_up : dq.nextAvail = q.availRing.idx
  none_in_flight : dq.inFlight = []
  drained : q.lastSeenUsed = q.usedRing.idx
  none_parked : q.popedUsed = ∅
  free_nodup : q.availDescIndex.Nodup
  free_lt : ∀ x ∈ q.availDescIndex, x.toNat < SIZE
  free_length : q.availDescIndex.length = SIZE

theorem idle_init (hsize : SIZE ≤ 2 ^ 16) (queueIdx : UInt16) :
    Idle (init SIZE queueIdx) ⟨0, []⟩ where
  caught_up := rfl
  none_in_flight := rfl
  drained := rfl
  none_parked := rfl
  free_nodup := init_availDescIndex_nodup hsize queueIdx
  free_lt := init_availDescIndex_lt hsize queueIdx
  free_length := by simp [init]

variable {q q₁ : VirtIoQueue SIZE} {dq : DeviceQueue} {data : List Descriptor} {token : UInt16}
  {chain : List ℕ}

/-- What `add` leaves on an idle queue `q`: the chain's head published where the device reads
next, the table holding a chain of distinct slots at it, the used side untouched, and the ids
still free together with the chain's making up the ids that were free. -/
structure Posted (q q₁ : VirtIoQueue SIZE) (token : UInt16) (chain : List ℕ) : Prop where
  ring : q₁.availRing.ring (q.availRing.idx.toNat % SIZE) = token
  idx : q₁.availRing.idx = q.availRing.idx + 1
  used : q₁.usedRing = q.usedRing
  last_seen : q₁.lastSeenUsed = q.lastSeenUsed
  poped : q₁.popedUsed = q.popedUsed
  queue_idx : q₁.queueIdx = q.queueIdx
  walk : LinkedChain.IsChain SIZE (chainLink SIZE q₁.descriptorTable) token.toNat chain
  walk_nodup : chain.Nodup
  free : List.Perm (q₁.availDescIndex ++ chain.map Nat.toUInt16) q.availDescIndex

/-- On an idle queue `add` of a chain that fits goes through, and the chain it stores holds the
buffers' addresses and lengths in order. -/
theorem Idle.add (hidle : Idle q dq) (hshape : ChainShape data) (hlen : data.length ≤ SIZE) :
    ∃ token q₁ chain, q.add data = some (.ok token, q₁) ∧ Posted q q₁ token chain ∧
      (chain.map q₁.descriptorTable).map (fun d ↦ (d.addr, d.len)) =
        data.map (fun d ↦ (d.addr, d.len)) := by
  have hle : data.length ≤ q.availDescIndex.length := hlen.trans_eq hidle.free_length.symm
  have hpos : 0 < data.length := List.length_pos_of_ne_nil hshape.1
  have hnodup := hidle.free_nodup.sublist (List.take_sublist data.length _)
  have hlt : ∀ x ∈ q.availDescIndex.take data.length, x.toNat < SIZE :=
    fun x hx ↦ hidle.free_lt x (List.mem_of_mem_take hx)
  obtain ⟨desc', hadd, hplaced, -⟩ := add_of_le hpos hle hnodup hlt
  obtain ⟨hchain, hchain_nodup⟩ := placed_chain hshape hpos hle hnodup hlt hplaced
  have hfree : List.Perm (q.availDescIndex.drop data.length ++
      ((q.availDescIndex.take data.length).reverse.map UInt16.toNat).map Nat.toUInt16)
      q.availDescIndex := by
    rw [map_toUInt16_map_toNat]
    calc List.Perm (q.availDescIndex.drop data.length ++ (q.availDescIndex.take data.length).reverse)
          (q.availDescIndex.drop data.length ++ q.availDescIndex.take data.length) :=
          (List.reverse_perm _).append_left _
      List.Perm _ (q.availDescIndex.take data.length ++ q.availDescIndex.drop data.length) :=
          List.perm_append_comm
      _ = q.availDescIndex := List.take_append_drop _ _
  refine ⟨_, _, _, hadd, ⟨by simp, rfl, rfl, rfl, rfl, rfl, hchain, hchain_nodup, hfree⟩,
    placed_addr_len hle hplaced⟩

/-- The queue after the driver pops the completion of a chain `add` posted on an idle queue. -/
def popPosted (q₁ : VirtIoQueue SIZE) (token : UInt16) (chain : List ℕ) (len : UInt32) :
    VirtIoQueue SIZE :=
  { q₁ with
    usedRing := DeviceQueue.pushUsed SIZE q₁.usedRing token len
    availDescIndex := q₁.availDescIndex ++ chain.map Nat.toUInt16
    popedUsed := ∅
    lastSeenUsed := q₁.lastSeenUsed + 1
    availRing := { q₁.availRing with usedEvent := q₁.lastSeenUsed + 1 } }

theorem Posted.popUsed (hidle : Idle q dq) (hpost : Posted q q₁ token chain) (len : UInt32) :
    ({ q₁ with usedRing := DeviceQueue.pushUsed SIZE q₁.usedRing token len } :
      VirtIoQueue SIZE).popUsed token = some (.ok len, popPosted q₁ token chain len) :=
  DeviceQueue.popUsed_pushUsed (by rw [hpost.last_seen, hpost.used, hidle.drained])
    (by rw [hpost.poped, hidle.none_parked]) hpost.walk hpost.walk_nodup

/-- After the pop the queue is idle again, against the device that has read the head and
completed it. -/
theorem Posted.idle (hidle : Idle q dq) (hpost : Posted q q₁ token chain) (len : UInt32) :
    Idle (popPosted q₁ token chain len) ⟨dq.nextAvail + 1, []⟩ where
  caught_up := by simp [popPosted, hpost.idx, hidle.caught_up]
  none_in_flight := rfl
  drained := by simp [popPosted, DeviceQueue.pushUsed, hpost.last_seen, hpost.used, hidle.drained]
  none_parked := rfl
  free_nodup := hpost.free.nodup_iff.mpr hidle.free_nodup
  free_lt x hx := hidle.free_lt x (hpost.free.subset hx)
  free_length := hpost.free.length_eq.trans hidle.free_length

/-- `add_notify_wait_pop` of a chain posted on an idle queue, against a register file that
accepts the notification, returns the length the device wrote when it completed the chain. -/
theorem Posted.addNotifyWaitPop (hidle : Idle q dq) (hadd : q.add data = some (.ok token, q₁))
    (hpost : Posted q q₁ token chain) {o : IoLog.Oracle Access UInt32 VirtIoError} {h : List Access}
    (hnotify : ∀ e, o h (.write32 VirtIOHeader.queueNotify q.queueIdx.toUInt32) ≠ .error e)
    (len : UInt32) :
    ∃ log, (q.addNotifyWaitPop data (DeviceQueue.pushUsed SIZE q₁.usedRing token len)
        (DeviceQueue.pushUsed SIZE q₁.usedRing token len)).run o h =
      (.ok (.ok len, popPosted q₁ token chain len), log) :=
  addNotifyWaitPop_of_add hadd (hpost.popUsed hidle len) hnotify

end VirtIoQueue

namespace DeviceQueue

/-- One turn of a device that serves a chain as soon as it reads it: read the next published
head, walk its chain, let `work` serve the descriptors, and complete the chain with the number
of bytes `work` wrote.  With nothing published the device does nothing; a chain it cannot walk
stays in flight. -/
def serveNext {σ : Type} (SIZE : ℕ) (work : List Descriptor → σ → σ × ℕ) (q : VirtIoQueue SIZE)
    (d : DeviceQueue) (s : σ) : UsedRing × DeviceQueue × σ :=
  match fetch q d with
  | none => (q.usedRing, d, s)
  | some dq =>
    let head := q.availRing.ring (d.nextAvail.toNat % SIZE)
    match LinkedChain.follow SIZE (VirtIoQueue.chainLink SIZE q.descriptorTable) SIZE head.toNat with
    | none => (q.usedRing, dq, s)
    | some ids =>
      let (s, written) := work (ids.map q.descriptorTable) s
      match complete q dq head written.toUInt32 with
      | some (q, dq) => (q.usedRing, dq, s)
      | none => (q.usedRing, dq, s)

/-- The device's turn while a driver waits in `add_notify_wait_pop` of `descriptors`: it serves
what `add` publishes, so the wait finds the used ring the turn leaves.  A chain that `add`
refuses gives the device nothing to do. -/
def turn {σ : Type} (SIZE : ℕ) (work : List Descriptor → σ → σ × ℕ) (q : VirtIoQueue SIZE)
    (descriptors : List Descriptor) (d : DeviceQueue) (s : σ) : UsedRing × DeviceQueue × σ :=
  match q.add descriptors with
  | some (.ok _, q₁) => serveNext SIZE work q₁ d s
  | _ => (q.usedRing, d, s)

end DeviceQueue

namespace VirtIoQueue

variable {SIZE : ℕ} {q q₁ : VirtIoQueue SIZE} {dq : DeviceQueue} {token : UInt16} {chain : List ℕ}

/-- Once `add` has published a chain on an idle queue, the device's turn reads its head, serves
the chain as stored and completes it with the number of bytes it wrote, and is left with
nothing in flight. -/
theorem Posted.serveNext {σ : Type} (hidle : Idle q dq) (hpost : Posted q q₁ token chain)
    {work : List Descriptor → σ → σ × ℕ} {s s' : σ} {written : ℕ}
    (hwork : work (chain.map q₁.descriptorTable) s = (s', written)) :
    DeviceQueue.serveNext SIZE work q₁ dq s =
      (DeviceQueue.pushUsed SIZE q₁.usedRing token written.toUInt32, ⟨dq.nextAvail + 1, []⟩, s') := by
  have hfetch : DeviceQueue.fetch q₁ dq = some ⟨q.availRing.idx + 1, [token]⟩ := by
    simp [DeviceQueue.fetch, hpost.idx, hidle.caught_up, hidle.none_in_flight, hpost.ring]
  have hcomplete : DeviceQueue.complete q₁ ⟨q.availRing.idx + 1, [token]⟩ token written.toUInt32 =
      some ({ q₁ with usedRing := DeviceQueue.pushUsed SIZE q₁.usedRing token written.toUInt32 },
        ⟨q.availRing.idx + 1, []⟩) := by
    simp [DeviceQueue.complete]
  simp only [DeviceQueue.serveNext, hfetch, hidle.caught_up, hpost.ring,
    LinkedChain.follow_size_of_isChain hpost.walk hpost.walk_nodup, hwork, hcomplete]

variable {data : List Descriptor}

/-- On an idle queue, `add_notify_wait_pop` of a chain that fits, against a register file that
accepts the notification and a device that takes its turn while the driver waits: the device
serves buffers with the addresses and lengths the driver gave, the call returns the number of
bytes the device wrote, and the queue is idle again. -/
theorem Idle.addNotifyWaitPop_turn {σ : Type} (hidle : Idle q dq) (hshape : ChainShape data)
    (hlen : data.length ≤ SIZE) {o : IoLog.Oracle Access UInt32 VirtIoError} {h : List Access}
    (hnotify : ∀ e, o h (.write32 VirtIOHeader.queueNotify q.queueIdx.toUInt32) ≠ .error e)
    (work : List Descriptor → σ → σ × ℕ) (s : σ) :
    ∃ descs : List Descriptor,
      descs.map (fun d ↦ (d.addr, d.len)) = data.map (fun d ↦ (d.addr, d.len)) ∧
      ∃ q' log, (q.addNotifyWaitPop data (DeviceQueue.turn SIZE work q data dq s).1
          (DeviceQueue.turn SIZE work q data dq s).1).run o h =
          (.ok (.ok (work descs s).2.toUInt32, q'), log) ∧
        (DeviceQueue.turn SIZE work q data dq s).2 = (⟨dq.nextAvail + 1, []⟩, (work descs s).1) ∧
        Idle q' ⟨dq.nextAvail + 1, []⟩ ∧ q'.queueIdx = q.queueIdx := by
  obtain ⟨token, q₁, chain, hadd, hpost, hfields⟩ := hidle.add hshape hlen
  have hturn : DeviceQueue.turn SIZE work q data dq s =
      (DeviceQueue.pushUsed SIZE q₁.usedRing token (work (chain.map q₁.descriptorTable) s).2.toUInt32,
        ⟨dq.nextAvail + 1, []⟩, (work (chain.map q₁.descriptorTable) s).1) := by
    simp only [DeviceQueue.turn, hadd]
    exact hpost.serveNext hidle rfl
  obtain ⟨log, hwait⟩ :=
    hpost.addNotifyWaitPop hidle hadd hnotify (work (chain.map q₁.descriptorTable) s).2.toUInt32
  refine ⟨chain.map q₁.descriptorTable, hfields,
    popPosted q₁ token chain (work (chain.map q₁.descriptorTable) s).2.toUInt32, log, ?_, ?_,
    hpost.idle hidle _, hpost.queue_idx⟩
  · rw [hturn]
    exact hwait
  · rw [hturn]

end VirtIoQueue

end SafeVirtio
