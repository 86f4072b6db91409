import SafeVirtio.Device.Net

/-!
# What a failed submission leaves behind

`add` fails only for want of descriptors, and then changes nothing.  But every submission notifies
the device after `add` has taken the chain's descriptors off the free deque and published its
head, and a failed notification is returned with `?` as it stands: the request stays published,
its descriptors stay taken, and the caller, who got an error and no token, can never pop it.
`SubmitError` says exactly what an error leaves, and `failed_submission_leaves` proves it of the
three operations that submit through `add`; `add_notify_wait_pop` can also fail after a
notification that went through, when `pop_used`'s read of the used ring no longer finds the token,
and leaves the chain published then too.
-/

namespace SafeVirtio

namespace VirtIoQueue

variable {SIZE : ℕ} {α : Type}

/-- The wait fails only by `pop_used` reporting `NotReady` on its read of the ring, and then the
queue is the one it waited on, with the used ring as that read found it. -/
theorem waitPop_error {q q' : VirtIoQueue SIZE} {token : UInt16} {seen used : UsedRing}
    {o : IoLog.Oracle Access UInt32 VirtIoError} {h : List Access} {e : VirtIoError}
    {log : List (Access × Except VirtIoError UInt32)}
    (hrun : (q.waitPop token seen used).run o h = (.ok (.error e, q'), log)) :
    e = .notReady ∧ q' = { q with usedRing := used } ∧ log = [] := by
  unfold waitPop at hrun
  split_ifs at hrun
  · cases hpop : ({ q with usedRing := used } : VirtIoQueue SIZE).popUsed token with
    | none => simp [hpop] at hrun
    | some r =>
      simp only [hpop, IoLog.Io.pure_eq, IoLog.Io.run_pure, Prod.mk.injEq,
        IoLog.Outcome.ok.injEq] at hrun
      obtain ⟨rfl, rfl⟩ := hrun
      obtain ⟨rfl, rfl⟩ := popUsed_error_cases hpop
      exact ⟨rfl, rfl, rfl⟩
  · simp at hrun

/-- An error of a submission comes from `add`, which then changed nothing; from the notification
after `add` took the chain; or from the continuation, run on the token and the queue `add` left,
after a notification that went through if one was due. -/
theorem addNotify_error {q q' : VirtIoQueue SIZE} {ds : List Descriptor} {queue : UInt16}
    {next : UInt16 → VirtIoQueue SIZE → Mmio (VirtIoResult α × VirtIoQueue SIZE)}
    {o : IoLog.Oracle Access UInt32 VirtIoError} {h : List Access} {e : VirtIoError}
    {log : List (Access × Except VirtIoError UInt32)}
    (hrun : (q.addNotify ds queue next).run o h = (.ok (.error e, q'), log)) :
    (q.add ds = some (.error e, q') ∧ log = []) ∨
      ∃ token q₁, q.add ds = some (.ok token, q₁) ∧
        ((q' = q₁ ∧ log = [(.write32 VirtIOHeader.queueNotify queue.toUInt32, .error e)]) ∨
          ∃ pre log', log = pre ++ log' ∧
            (pre = [] ∨ ∃ v, pre = [(.write32 VirtIOHeader.queueNotify queue.toUInt32, .ok v)]) ∧
            (next token q₁).run o (h ++ pre.map Prod.fst) = (.ok (.error e, q'), log')) := by
  unfold addNotify at hrun
  rcases hadd : q.add ds with _ | ⟨_ | token, q₁⟩
  · simp [hadd] at hrun
  · simp only [hadd, IoLog.Io.pure_eq, IoLog.Io.run_pure, Prod.mk.injEq, IoLog.Outcome.ok.injEq,
      Except.error.injEq] at hrun
    obtain ⟨⟨rfl, rfl⟩, rfl⟩ := hrun
    exact .inl ⟨rfl, rfl⟩
  · refine .inr ⟨token, q₁, rfl, ?_⟩
    simp only [hadd, IoLog.Io.run_ite] at hrun
    split_ifs at hrun
    · simp only [IoLog.Io.run_question, MmioTransport.notify, Mmio.write32, IoLog.Io.bind_eq,
        IoLog.Io.run_bind, IoLog.Io.run_access] at hrun
      cases ho : o h (.write32 VirtIOHeader.queueNotify queue.toUInt32) with
      | error e' =>
        simp only [ho, Prod.mk.injEq, IoLog.Outcome.ok.injEq, Except.error.injEq] at hrun
        obtain ⟨⟨rfl, rfl⟩, rfl⟩ := hrun
        exact .inl ⟨rfl, rfl⟩
      | ok v =>
        simp only [ho, IoLog.Io.pure_eq, IoLog.Io.run_pure, List.append_nil] at hrun
        exact .inr ⟨_, _, (Prod.ext_iff.mp hrun).2.symm, .inr ⟨v, rfl⟩,
          Prod.ext (Prod.ext_iff.mp hrun).1 rfl⟩
    · exact .inr ⟨[], log, rfl, .inl rfl, by simpa using hrun⟩

/-- What `add` does to the free deque and the available ring when it takes a chain: the first
`n` free slots leave the deque, and the last of them, the chain's head, is published at the
available position `avail.idx`, which moves on by one. -/
def Published (q q' : VirtIoQueue SIZE) (data : List Descriptor) : Prop :=
  q'.availDescIndex = q.availDescIndex.drop data.length ∧
    q'.availRing.idx = q.availRing.idx + 1 ∧
    ∃ head, q.availDescIndex[data.length - 1]? = some head ∧
      q'.availRing.ring (q.availRing.idx.toNat % SIZE) = head

theorem published_of_add {q q₁ : VirtIoQueue SIZE} {data : List Descriptor} {token : UInt16}
    (hshape : ChainShape data) (hnodup : q.availDescIndex.Nodup)
    (hlt : ∀ x ∈ q.availDescIndex, x.toNat < SIZE) (hadd : q.add data = some (.ok token, q₁)) :
    Published q q₁ data := by
  have hpos : 0 < data.length := List.length_pos_of_ne_nil hshape.1
  have hle : data.length ≤ q.availDescIndex.length := le_of_add_ok hshape.1 hadd
  obtain ⟨desc', hadd', -⟩ := add_of_le hpos hle (hnodup.sublist (List.take_sublist _ _))
    fun x hx ↦ hlt x (List.mem_of_mem_take hx)
  rw [hadd'] at hadd
  cases hadd
  exact ⟨rfl, rfl, _, List.getElem?_eq_getElem (by omega), by simp⟩

/-- What an error of a submission of `data` leaves in `q'`, with the accesses `log` it made:
nothing at all when `add` refused the chain for want of descriptors; otherwise the notification
failed with that error after `add` had taken the chain's slots and published its head. -/
def SubmitError (q q' : VirtIoQueue SIZE) (data : List Descriptor) (queue : UInt16)
    (e : VirtIoError) (log : List (Access × Except VirtIoError UInt32)) : Prop :=
  (e = .queueFull ∧ q' = q ∧ log = []) ∨
    (Published q q' data ∧ log = [(.write32 VirtIOHeader.queueNotify queue.toUInt32, .error e)])

theorem submitError_of_addNotify {q q' : VirtIoQueue SIZE} {data : List Descriptor}
    {queue : UInt16} {next : UInt16 → VirtIoQueue SIZE → Mmio (VirtIoResult α × VirtIoQueue SIZE)}
    (hshape : ChainShape data) (hnodup : q.availDescIndex.Nodup)
    (hlt : ∀ x ∈ q.availDescIndex, x.toNat < SIZE)
    (hnext : ∀ token q₁ o h e q₂, ((next token q₁).run o h).1 ≠ .ok (.error e, q₂))
    {o : IoLog.Oracle Access UInt32 VirtIoError} {h : List Access} {e : VirtIoError}
    {log : List (Access × Except VirtIoError UInt32)}
    (hrun : (q.addNotify data queue next).run o h = (.ok (.error e, q'), log)) :
    SubmitError q q' data queue e log := by
  rcases addNotify_error hrun with ⟨hadd, rfl⟩ | ⟨token, q₁, hadd, ⟨rfl, rfl⟩ | ⟨_, _, -, -, hnext'⟩⟩
  · obtain ⟨rfl, rfl, -⟩ := add_error_cases hadd
    exact .inl ⟨rfl, rfl, rfl⟩
  · exact .inr ⟨published_of_add hshape hnodup hlt hadd, rfl⟩
  · exact absurd (congrArg Prod.fst hnext') (hnext _ _ _ _ _ _)

/-- An error of `add_notify_wait_pop` is one of a submission, or `NotReady` from the second read
of the ring after the notification went through: then too the chain's slots stay taken and its
head stays published, while the caller has no token to pop it with. -/
theorem addNotifyWaitPop_error {q q' : VirtIoQueue SIZE} {data : List Descriptor}
    {seen used : UsedRing} (hshape : ChainShape data) (hnodup : q.availDescIndex.Nodup)
    (hlt : ∀ x ∈ q.availDescIndex, x.toNat < SIZE)
    {o : IoLog.Oracle Access UInt32 VirtIoError} {h : List Access} {e : VirtIoError}
    {log : List (Access × Except VirtIoError UInt32)}
    (hrun : (q.addNotifyWaitPop data seen used).run o h = (.ok (.error e, q'), log)) :
    SubmitError q q' data q.queueIdx e log ∨
      (e = .notReady ∧ Published q q' data ∧ q'.usedRing = used ∧
        (log = [] ∨ ∃ v, log = [(.write32 VirtIOHeader.queueNotify q.queueIdx.toUInt32, .ok v)])) := by
  rcases addNotify_error hrun with ⟨hadd, rfl⟩ | ⟨token, q₁, hadd, ⟨rfl, rfl⟩ | ⟨pre, log', rfl, hpre, hwait⟩⟩
  · obtain ⟨rfl, rfl, -⟩ := add_error_cases hadd
    exact .inl (.inl ⟨rfl, rfl, rfl⟩)
  · exact .inl (.inr ⟨published_of_add hshape hnodup hlt hadd, rfl⟩)
  · obtain ⟨rfl, rfl, rfl⟩ := waitPop_error hwait
    have hpub : Published q q₁ data := published_of_add hshape hnodup hlt hadd
    exact .inr ⟨rfl, hpub, rfl, by simpa using hpre⟩

end VirtIoQueue

namespace VirtIONetRaw

variable {QUEUE_SIZE : ℕ}

theorem checkTxBufHeader_error {txBuf : List UInt8} {e : VirtIoError}
    (h : checkTxBufHeader txBuf = .error e) : e = .invalidParam := by
  unfold checkTxBufHeader at h
  split_ifs at h with hlen
  · cases h
    rfl
  · obtain ⟨b, hb⟩ := VirtioNetHdr.equal_eq_ok default (Nat.le_of_not_lt hlen)
    rw [hb] at h
    cases b <;> cases h
    rfl

theorem checkRxBufLen_error {rxLen : ℕ} {e : VirtIoError} (h : checkRxBufLen rxLen = .error e) :
    e = .invalidParam := by
  unfold checkRxBufLen at h
  split_ifs at h
  cases h
  rfl

theorem returnToken_ne_error (token : UInt16) (q₁ : VirtIoQueue QUEUE_SIZE)
    (o : IoLog.Oracle Access UInt32 VirtIoError) (h : List Access) (e : VirtIoError)
    (q₂ : VirtIoQueue QUEUE_SIZE) :
    ((pure (.ok token, q₁) : Mmio (VirtIoResult UInt16 × VirtIoQueue QUEUE_SIZE)).run o h).1 ≠
      .ok (.error e, q₂) := by
  simp

/-- The submission both network operations make once the buffer passed its check: one
descriptor, then the driver's state rebuilt around the queue by `k`. -/
theorem submitOne_error {σ : Type} {q : VirtIoQueue QUEUE_SIZE} {d : Descriptor} {queue : UInt16}
    {k : VirtIoResult UInt16 × VirtIoQueue QUEUE_SIZE → Mmio (VirtIoResult UInt16 × σ)}
    {set : VirtIoQueue QUEUE_SIZE → σ} (hk : ∀ r q o h, (k (r, q)).run o h = (.ok (r, set q), []))
    (hd : d.hasNext = false) (hnodup : q.availDescIndex.Nodup)
    (hlt : ∀ x ∈ q.availDescIndex, x.toNat < QUEUE_SIZE)
    {o : IoLog.Oracle Access UInt32 VirtIoError} {h : List Access} {e : VirtIoError} {s' : σ}
    {log : List (Access × Except VirtIoError UInt32)}
    (hrun : (IoLog.Io.bind (q.addNotify [d] queue fun token q ↦ pure (.ok token, q)) k).run o h =
      (.ok (.error e, s'), log)) :
    ∃ q', s' = set q' ∧ VirtIoQueue.SubmitError q q' [d] queue e log := by
  rw [IoLog.Io.run_bind] at hrun
  split at hrun
  · next rq log₁ hsub =>
    obtain ⟨r, q'⟩ := rq
    simp only [hk, List.append_nil, Prod.mk.injEq, IoLog.Outcome.ok.injEq] at hrun
    obtain ⟨⟨rfl, rfl⟩, rfl⟩ := hrun
    exact ⟨q', rfl, VirtIoQueue.submitError_of_addNotify (chainShape_single hd) hnodup hlt
      returnToken_ne_error hsub⟩
  · simp at hrun
  · simp at hrun

theorem transmitBegin_error {net net' : VirtIONetRaw QUEUE_SIZE} {hal : Hal} {txAddr : ℕ}
    {txBuf : List UInt8} (hnodup : net.sendQueue.availDescIndex.Nodup)
    (hlt : ∀ x ∈ net.sendQueue.availDescIndex, x.toNat < QUEUE_SIZE)
    {o : IoLog.Oracle Access UInt32 VirtIoError} {h : List Access} {e : VirtIoError}
    {log : List (Access × Except VirtIoError UInt32)}
    (hrun : (net.transmitBegin hal txAddr txBuf).run o h = (.ok (.error e, net'), log)) :
    (e = .invalidParam ∧ net' = net ∧ log = []) ∨
      (net'.recvQueue = net.recvQueue ∧
        VirtIoQueue.SubmitError net.sendQueue net'.sendQueue
          [Descriptor.new hal txAddr txBuf.length.toUInt32 DescFlag.EMPTY] QUEUE_TRANSMIT e log) := by
  unfold transmitBegin at hrun
  cases hcheck : checkTxBufHeader txBuf with
  | error e' =>
    simp only [hcheck, IoLog.Io.pure_eq, IoLog.Io.run_pure, Prod.mk.injEq,
      IoLog.Outcome.ok.injEq, Except.error.injEq] at hrun
    obtain ⟨⟨rfl, rfl⟩, rfl⟩ := hrun
    exact .inl ⟨checkTxBufHeader_error hcheck, rfl, rfl⟩
  | ok u =>
    cases u
    have hd : (Descriptor.new hal txAddr txBuf.length.toUInt32 DescFlag.EMPTY).hasNext = false := by
      rw [Descriptor.new_hasNext]
      decide
    rw [hcheck] at hrun
    obtain ⟨q', rfl, hq⟩ := submitOne_error (fun _ _ _ _ ↦ rfl) hd hnodup hlt hrun
    exact .inr ⟨rfl, hq⟩

theorem receiveBegin_error {net net' : VirtIONetRaw QUEUE_SIZE} {hal : Hal} {rxAddr rxLen : ℕ}
    (hnodup : net.recvQueue.availDescIndex.Nodup)
    (hlt : ∀ x ∈ net.recvQueue.availDescIndex, x.toNat < QUEUE_SIZE)
    {o : IoLog.Oracle Access UInt32 VirtIoError} {h : List Access} {e : VirtIoError}
    {log : List (Access × Except VirtIoError UInt32)}
    (hrun : (net.receiveBegin hal rxAddr rxLen).run o h = (.ok (.error e, net'), log)) :
    (e = .invalidParam ∧ net' = net ∧ log = []) ∨
      (net'.sendQueue = net.sendQueue ∧
        VirtIoQueue.SubmitError net.recvQueue net'.recvQueue
          [Descriptor.new hal rxAddr rxLen.toUInt32 DescFlag.WRITE] QUEUE_RECEIVE e log) := by
  unfold receiveBegin at hrun
  cases hcheck : checkRxBufLen rxLen with
  | error e' =>
    simp only [hcheck, IoLog.Io.pure_eq, IoLog.Io.run_pure, Prod.mk.injEq,
      IoLog.Outcome.ok.injEq, Except.error.injEq] at hrun
    obtain ⟨⟨rfl, rfl⟩, rfl⟩ := hrun
    exact .inl ⟨checkRxBufLen_error hcheck, rfl, rfl⟩
  | ok u =>
    cases u
    have hd : (Descriptor.new hal rxAddr rxLen.toUInt32 DescFlag.WRITE).hasNext = false := by
      rw [Descriptor.new_hasNext]
      decide
    rw [hcheck] at hrun
    obtain ⟨q', rfl, hq⟩ := submitOne_error (fun _ _ _ _ ↦ rfl) hd hnodup hlt hrun
    exact .inr ⟨rfl, hq⟩

end VirtIONetRaw

end SafeVirtio

namespace SafeVirtio

/-- An error of `add_notify_wait_pop`, `transmit_begin` or `receive_begin` on queues whose free
deques hold distinct slots (as every reachable queue's does) leaves the queue unchanged only
when `add` refused the chain, or a network buffer failed its check.  Every other error comes
after `add` took the chain: the notification failed, or `pop_used` found the token gone on its
second read of the used ring; either way the chain's descriptors stay taken and its head stays
published. -/
theorem failed_submission_leaves {SIZE : ℕ} (q : VirtIoQueue SIZE) (net : VirtIONetRaw SIZE)
    (hal : Hal) (data : List Descriptor) (hshape : ChainShape data)
    (hnodup : q.availDescIndex.Nodup) (hlt : ∀ x ∈ q.availDescIndex, x.toNat < SIZE)
    (hsendNodup : net.sendQueue.availDescIndex.Nodup)
    (hsendLt : ∀ x ∈ net.sendQueue.availDescIndex, x.toNat < SIZE)
    (hrecvNodup : net.recvQueue.availDescIndex.Nodup)
    (hrecvLt : ∀ x ∈ net.recvQueue.availDescIndex, x.toNat < SIZE)
    (o : IoLog.Oracle Access UInt32 VirtIoError) (h : List Access) :
    (∀ seen used e q' log,
      (q.addNotifyWaitPop data seen used).run o h = (.ok (.error e, q'), log) →
      VirtIoQueue.SubmitError q q' data q.queueIdx e log ∨
        (e = .notReady ∧ VirtIoQueue.Published q q' data ∧ q'.usedRing = used ∧
          (log = [] ∨
            ∃ v, log = [(.write32 VirtIOHeader.queueNotify q.queueIdx.toUInt32, .ok v)]))) ∧
    (∀ txAddr txBuf e net' log,
      (net.transmitBegin hal txAddr txBuf).run o h = (.ok (.error e, net'), log) →
      (e = .invalidParam ∧ net' = net ∧ log = []) ∨
        (net'.recvQueue = net.recvQueue ∧
          VirtIoQueue.SubmitError net.sendQueue net'.sendQueue
            [Descriptor.new hal txAddr txBuf.length.toUInt32 DescFlag.EMPTY]
            VirtIONetRaw.QUEUE_TRANSMIT e log)) ∧
    ∀ rxAddr rxLen e net' log,
      (net.receiveBegin hal rxAddr rxLen).run o h = (.ok (.error e, net'), log) →
      (e = .invalidParam ∧ net' = net ∧ log = []) ∨
        (net'.sendQueue = net.sendQueue ∧
          VirtIoQueue.SubmitError net.recvQueue net'.recvQueue
            [Descriptor.new hal rxAddr rxLen.toUInt32 DescFlag.WRITE]
            VirtIONetRaw.QUEUE_RECEIVE e log) :=
  ⟨fun _ _ _ _ _ hrun ↦ VirtIoQueue.addNotifyWaitPop_error hshape hnodup hlt hrun,
    fun _ _ _ _ _ hrun ↦ VirtIONetRaw.transmitBegin_error hsendNodup hsendLt hrun,
    fun _ _ _ _ _ hrun ↦ VirtIONetRaw.receiveBegin_error hrecvNodup hrecvLt hrun⟩

/-- One device-readable buffer of 64 bytes. -/
def singleBuffer : List Descriptor :=
  [{ addr := 0x1000, len := 64, flags := DescFlag.EMPTY, next := 0 }]

/-- A raw network driver on fresh queues of two descriptors. -/
def freshNet : VirtIONetRaw 2 :=
  { transport := ⟨.modern⟩, mac := [], recvQueue := VirtIoQueue.init 2 0,
    sendQueue := VirtIoQueue.init 2 1 }

/-- A register file whose every access fails. -/
def failingRegisters : IoLog.Oracle Access UInt32 VirtIoError := fun _ _ ↦ .error .ioError

/-- On a fresh queue of two descriptors whose notify register fails, `add_notify_wait_pop`
returns the write's error with descriptor `0` taken from the free deque and published at
available position `0`: the caller never receives its token. -/
theorem failed_notify_keeps_descriptor :
    ∃ q', ((VirtIoQueue.init 2 0).addNotifyWaitPop singleBuffer (VirtIoQueue.init 2 0).usedRing
        (VirtIoQueue.init 2 0).usedRing).run failingRegisters [] =
        (.ok (.error .ioError, q'), [(.write32 VirtIOHeader.queueNotify 0, .error .ioError)]) ∧
      (VirtIoQueue.init 2 0).availDescIndex = [0, 1] ∧ q'.availDescIndex = [1] ∧
      q'.availRing.idx = 1 ∧ q'.availRing.ring 0 = 0 :=
  ⟨_, rfl, rfl, rfl, rfl, rfl⟩

/-- The theorem at a fresh queue of two descriptors whose notify register fails: the error
leaves the chain published. -/
theorem failed_submission_leaves_failing :
    ChainShape singleBuffer ∧ (VirtIoQueue.init 2 0).availDescIndex.Nodup ∧
      (∀ x ∈ (VirtIoQueue.init 2 0).availDescIndex, x.toNat < 2) ∧
      ∃ q', ((VirtIoQueue.init 2 0).addNotifyWaitPop singleBuffer (VirtIoQueue.init 2 0).usedRing
          (VirtIoQueue.init 2 0).usedRing).run failingRegisters [] =
          (.ok (.error .ioError, q'), [(.write32 VirtIOHeader.queueNotify 0, .error .ioError)]) ∧
        VirtIoQueue.Published (VirtIoQueue.init 2 0) q' singleBuffer := by
  have hsize : 2 ≤ 2 ^ 16 := by norm_num
  have hshape : ChainShape singleBuffer := by decide
  have hnodup := VirtIoQueue.init_availDescIndex_nodup hsize 0
  have hlt := VirtIoQueue.init_availDescIndex_lt hsize 0
  have hnodup₁ := VirtIoQueue.init_availDescIndex_nodup hsize 1
  have hlt₁ := VirtIoQueue.init_availDescIndex_lt hsize 1
  obtain ⟨q', hrun⟩ : ∃ q', ((VirtIoQueue.init 2 0).addNotifyWaitPop singleBuffer
      (VirtIoQueue.init 2 0).usedRing (VirtIoQueue.init 2 0).usedRing).run failingRegisters [] =
      (.ok (.error .ioError, q'), [(.write32 VirtIOHeader.queueNotify 0, .error .ioError)]) :=
    ⟨_, rfl⟩
  have hleaves := (failed_submission_leaves (VirtIoQueue.init 2 0) freshNet ⟨id, fun _ ↦ 0⟩
    singleBuffer hshape hnodup hlt hnodup₁ hlt₁ hnodup hlt failingRegisters []).1 _ _ _ _ _ hrun
  refine ⟨hshape, hnodup, hlt, q', hrun, ?_⟩
  rcases hleaves with (⟨hfull, -⟩ | ⟨hpub, -⟩) | ⟨hready, -⟩
  · cases hfull
  · exact hpub
  · cases hready

end SafeVirtio
