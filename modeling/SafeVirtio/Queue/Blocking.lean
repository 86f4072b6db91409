import SafeVirtio.Queue.Add
import SafeVirtio.Queue.Pop
import SafeVirtio.Transport.Mmio

/-!
# Submitting a chain

Three functions of the crate submit a request the same way: `add` the chain, then notify the
device unless it has suppressed notifications, with `?` on both.  `addNotify` is that shared
half, with what each function does next as a parameter: `add_notify_wait_pop` of `queue.rs`
spins until `can_pop` sees the token and pops it, while `transmit_begin` and `receive_begin` of
the network driver return the token.  Every blocking request of the block, GPU and console
drivers goes through `add_notify_wait_pop`.

The wait reads the used ring twice: the spin loop's last `can_pop` sees the token, then
`pop_used` calls `can_pop` again and reloads `used.idx`.  `waitPop` takes the ring as each read
finds it, so a device that rewrites the ring in between makes `add_notify_wait_pop` return
`NotReady` with the chain still outstanding (`waitPop_notReady`).  The drivers' methods are run
against a device that has finished the request before the loop sees it, and pass one ring as
both reads.
-/

namespace SafeVirtio

namespace VirtIoQueue

variable {SIZE : ℕ} {α : Type}

/-- `let token = q.add(descriptors)?; if q.should_notify() { transport.notify(queue)?; }`,
followed by `next token q`.  An error of `add` or of the notification is returned with the
queue as it stands. -/
def addNotify (q : VirtIoQueue SIZE) (descriptors : List Descriptor) (queue : UInt16)
    (next : UInt16 → VirtIoQueue SIZE → Mmio (VirtIoResult α × VirtIoQueue SIZE)) :
    Mmio (VirtIoResult α × VirtIoQueue SIZE) :=
  match q.add descriptors with
  | none => IoLog.Io.panic
  | some (.error e, q) => pure (.error e, q)
  | some (.ok token, q) =>
    if q.shouldNotify then IoLog.Io.question (MmioTransport.notify queue) q fun _ ↦ next token q
    else next token q

/-- The loop `while !can_pop(token)? { spin_loop() }` and the `pop_used` after it.  While the
driver spins, the device writes the used ring: `seen` is the ring as the loop's last `can_pop`
finds it, the first time it sees the token, and `used` the ring as `pop_used` reads it after.
A device that never completes the request keeps the loop spinning, which the model counts with
the panics. -/
def waitPop (q : VirtIoQueue SIZE) (token : UInt16) (seen used : UsedRing) :
    Mmio (VirtIoResult UInt32 × VirtIoQueue SIZE) :=
  if ({ q with usedRing := seen } : VirtIoQueue SIZE).canPop token then
    match ({ q with usedRing := used } : VirtIoQueue SIZE).popUsed token with
    | none => IoLog.Io.panic
    | some r => pure r
  else IoLog.Io.panic

/-- `add_notify_wait_pop`: notify on the queue's own index, then wait for the device and pop. -/
def addNotifyWaitPop (q : VirtIoQueue SIZE) (descriptors : List Descriptor)
    (seen used : UsedRing) : Mmio (VirtIoResult UInt32 × VirtIoQueue SIZE) :=
  q.addNotify descriptors q.queueIdx fun token q ↦ q.waitPop token seen used

/-- A submission whose `add` goes through runs its continuation on the token and the queue `add`
left, after the notification when one is due and the register file accepts it: its log is the
notification's, if any, followed by the continuation's. -/
theorem addNotify_of_add {q q₁ : VirtIoQueue SIZE} {descriptors : List Descriptor}
    {queue token : UInt16} (next : UInt16 → VirtIoQueue SIZE → Mmio (VirtIoResult α × VirtIoQueue SIZE))
    (hadd : q.add descriptors = some (.ok token, q₁)) {o : IoLog.Oracle Access UInt32 VirtIoError}
    {h : List Access} (hnotify : ∀ e, o h (.write32 VirtIOHeader.queueNotify queue.toUInt32) ≠ .error e) :
    ∃ pre : List (Access × Except VirtIoError UInt32),
      (q.addNotify descriptors queue next).run o h =
        (((next token q₁).run o (h ++ pre.map Prod.fst)).1,
          pre ++ ((next token q₁).run o (h ++ pre.map Prod.fst)).2) := by
  unfold addNotify
  simp only [hadd, IoLog.Io.run_ite]
  split
  · cases hv : o h (.write32 VirtIOHeader.queueNotify queue.toUInt32) with
    | error e => exact absurd hv (hnotify e)
    | ok v =>
      refine ⟨[(.write32 VirtIOHeader.queueNotify queue.toUInt32, .ok v)], ?_⟩
      simp [IoLog.Io.run_question, MmioTransport.notify, Mmio.write32, IoLog.Io.run_bind,
        IoLog.Io.run_access, hv]
  · exact ⟨[], by simp⟩

/-- Once the loop has seen the token, the wait returns what `pop_used` returns on the ring it
reads next, with no access. -/
theorem waitPop_of_canPop {q : VirtIoQueue SIZE} {token : UInt16} {seen used : UsedRing}
    {r : VirtIoResult UInt32 × VirtIoQueue SIZE}
    (hcan : ({ q with usedRing := seen } : VirtIoQueue SIZE).canPop token = true)
    (hpop : ({ q with usedRing := used } : VirtIoQueue SIZE).popUsed token = some r)
    (o : IoLog.Oracle Access UInt32 VirtIoError) (h : List Access) :
    (q.waitPop token seen used).run o h = (.ok r, []) := by
  simp [waitPop, hcan, hpop]

/-- When both reads find the same ring and `pop_used` takes the token, the wait returns what it
popped, with no access. -/
theorem waitPop_of_popUsed {q q' : VirtIoQueue SIZE} {token : UInt16} {used : UsedRing}
    {len : UInt32} (hpop : ({ q with usedRing := used } : VirtIoQueue SIZE).popUsed token =
      some (.ok len, q')) (o : IoLog.Oracle Access UInt32 VirtIoError) (h : List Access) :
    (q.waitPop token used used).run o h = (.ok (.ok len, q'), []) := by
  have hcan : ({ q with usedRing := used } : VirtIoQueue SIZE).canPop token = true := by
    obtain ⟨p, chain, hscan, -⟩ := popUsed_ok_cases hpop
    rw [canPop_eq_scan, hscan]
    rfl
  exact waitPop_of_canPop hcan hpop o h

/-- `add_notify_wait_pop` whose `add` goes through, whose notification the register file
accepts, and whose wait finds the token completed returns what `pop_used` returns. -/
theorem addNotifyWaitPop_of_add {q q₁ q₂ : VirtIoQueue SIZE} {descriptors : List Descriptor}
    {token : UInt16} {used : UsedRing} {len : UInt32}
    (hadd : q.add descriptors = some (.ok token, q₁))
    (hpop : ({ q₁ with usedRing := used } : VirtIoQueue SIZE).popUsed token = some (.ok len, q₂))
    {o : IoLog.Oracle Access UInt32 VirtIoError} {h : List Access}
    (hnotify : ∀ e, o h (.write32 VirtIOHeader.queueNotify q.queueIdx.toUInt32) ≠ .error e) :
    ∃ log, (q.addNotifyWaitPop descriptors used used).run o h = (.ok (.ok len, q₂), log) := by
  obtain ⟨pre, hrun⟩ := addNotify_of_add (fun token q ↦ q.waitPop token used used) hadd hnotify
  refine ⟨pre, ?_⟩
  simp only [addNotifyWaitPop, hrun, waitPop_of_popUsed hpop, List.append_nil]

end VirtIoQueue

end SafeVirtio
