import SafeVirtio.Queue.Conservation

/-!
# Matching completions to requests

`can_pop` and `pop_used` look for a token among the used entries at positions
`last_seen_used .. used.idx`.  What `pop_used` guarantees of every queue is exactly that: its
`Ok` comes with an entry of that window naming the token, and the length is that entry's
(`popUsed_ok_entry`).  The window is not the set of completions the driver has still to take:
after an out-of-order pop the popped position stays in it, parked in `poped_used`, until every
earlier position has been popped, while the ids of the popped chain are already back in the free
deque.  A new request that gets one of those ids as its head matches the parked entry before the
device has read it (`stale_completion_popped`); and the parked entries occupy slots of the used
ring that the device, which only counts outstanding chains, writes over
(`used_ring_overflow`).
-/

namespace SafeVirtio

namespace VirtIoQueue

variable {SIZE : ℕ}

end VirtIoQueue

namespace QueueSystem

variable {SIZE : ℕ}

/-- One device-readable buffer of 64 bytes at `addr`. -/
def oneBuffer (addr : UInt64) : List Descriptor :=
  [{ addr := addr, len := 64, flags := DescFlag.EMPTY, next := 0 }]

/-- On a queue of two descriptors: two requests take ids `0` and `1`; the device reads both and
completes both; the driver pops `1` out of order, which parks position `1` and frees id `1`; a
third request gets id `1` again and is published at available position `2`. -/
def staleRun : List QueueEvent :=
  [.add (oneBuffer 0x1000), .add (oneBuffer 0x2000), .fetch, .fetch, .complete 0 10,
    .complete 1 20, .popUsed 1, .add (oneBuffer 0x3000)]

/-- The state `staleRun` ends in is reachable, and there both outstanding tokens head chains that
`pop_used` walks to the end. -/
theorem descriptor_conservation_stale :
    2 ≤ 2 ^ 16 ∧ ∃ s, (init 2 0).run staleRun = some s ∧ Reachable 2 0 s ∧ s.tokens = [0, 1] ∧
      ∀ t ∈ s.tokens, (s.queue.popUsed t).isSome := by
  have hsize : 2 ≤ 2 ^ 16 := by norm_num
  obtain ⟨s, hrun, htokens⟩ : ∃ s, (init 2 0).run staleRun = some s ∧ s.tokens = [0, 1] :=
    ⟨_, rfl, rfl⟩
  have hs : Reachable 2 0 s := reachable_of_run staleRun (Reach.Reachable.init rfl) hrun
  exact ⟨hsize, s, hrun, hs, htokens, (descriptor_conservation hsize hs).2.2.2.2.2.2.2⟩

/-- Before the last request of `staleRun` the free deque is `[1]`: `add` takes `1` as the head,
and the stale completion lets `pop_used(1)` succeed at once, which puts `1` back. -/
theorem add_popUsed_chain_stale :
    ∃ s, (init 2 0).run (staleRun.take 7) = some s ∧ s.queue.availDescIndex = [1] ∧
      s.queue.availDescIndex.Nodup ∧ (∀ x ∈ s.queue.availDescIndex, x.toNat < 2) ∧
      ∃ q' q'', s.queue.add (oneBuffer 0x3000) = some (.ok 1, q') ∧
        q'.popUsed 1 = some (.ok 20, q'') ∧ q''.availDescIndex = [1] := by
  obtain ⟨s, hrun, hfree, q', hadd', q'', hpop'⟩ : ∃ s, (init 2 0).run (staleRun.take 7) = some s ∧
      s.queue.availDescIndex = [1] ∧ ∃ q', s.queue.add (oneBuffer 0x3000) = some (.ok 1, q') ∧
        ∃ q'', q'.popUsed 1 = some (.ok 20, q'') :=
    ⟨_, rfl, rfl, _, rfl, _, rfl⟩
  have hs : Reachable 2 0 s := reachable_of_run (staleRun.take 7) (Reach.Reachable.init rfl) hrun
  have hpart := partition_reachable (by norm_num) hs
  have hshape : ChainShape (oneBuffer 0x3000) := by decide
  obtain ⟨head, q₀, hhead, hadd, hdrop, -, -, -, -, hpop⟩ :=
    (VirtIoQueue.add_popUsed_chain hshape hpart.free_nodup hpart.free_lt).2 (by simp [hfree, oneBuffer])
  have hone : head = 1 := by simpa [hfree, oneBuffer] using hhead.symm
  subst hone
  obtain rfl : q₀ = q' := (Prod.mk.inj (Option.some.inj (hadd.symm.trans hadd'))).2
  refine ⟨s, hrun, hfree, hpart.free_nodup, hpart.free_lt, q₀, q'', hadd', hpop', ?_⟩
  rw [hpop q₀ q'' 20 (fun _ _ ↦ rfl) hpop', hdrop, hfree]
  rfl

/-- Where `staleRun` ends, `can_pop(1)` holds through the parked entry, and `pop_used`'s search
stops at it; id `3` names no entry, and `pop_used(3)` reports `NotReady`. -/
theorem popUsed_agrees_canPop_stale :
    0 < 2 ∧ ∃ s, (init 2 0).run staleRun = some s ∧ s.queue.canPop 1 = true ∧
      (∃ p ∈ s.queue.usedWindow, s.queue.usedMatches 1 p = true) ∧
      (∃ p, s.queue.usedWindow.find? (s.queue.usedMatches 1) = some p ∧
        p ≠ s.queue.lastSeenUsed - 1) ∧
      s.queue.popUsed 3 = some (.error .notReady, s.queue) := by
  obtain ⟨s, hrun, hcan, hthree⟩ : ∃ s, (init 2 0).run staleRun = some s ∧
      s.queue.canPop 1 = true ∧ s.queue.canPop 3 = false := ⟨_, rfl, rfl, rfl⟩
  have hone := VirtIoQueue.popUsed_agrees_canPop (by norm_num) s.queue 1
  obtain ⟨p, hfind, -, -, hsentinel, -⟩ := hone.2.2 hcan
  exact ⟨by norm_num, s, hrun, hcan, hone.1.mp hcan, ⟨p, hfind, hsentinel⟩,
    (VirtIoQueue.popUsed_agrees_canPop (by norm_num) s.queue 3).2.1.mpr hthree⟩

/-- After `staleRun` the device has not read the request token `1` now stands for, yet
`can_pop(1)` holds and `pop_used(1)` returns the length of the earlier request's completion. -/
theorem stale_completion_popped :
    ∃ s, (init 2 0).run staleRun = some s ∧
      1 ∈ s.tokens ∧ s.queue.availRing.idx = 3 ∧ s.queue.availRing.ring (2 % 2) = 1 ∧
      s.device.nextAvail = 2 ∧ 1 ∉ s.device.inFlight ∧
      s.queue.canPop 1 = true ∧ ∃ q', s.queue.popUsed 1 = some (.ok 20, q') := by
  refine ⟨_, rfl, by decide, rfl, rfl, rfl, by decide, rfl, _, rfl⟩

/-- The used-ring positions the driver has not passed, plus the published chains the device has
not completed, read or not. -/
def pending (s : QueueSystem SIZE) : ℕ :=
  s.queue.skip + s.device.inFlight.length + (s.queue.availRing.idx - s.device.nextAvail).toNat

/-- After `staleRun` and one more read by the device, three entries are pending on a ring of
two: the device's next completion goes to the slot of token `0`'s completion, which the driver
has not popped.  Once it has, token `0` is outstanding with the device idle, and `can_pop(0)` is
false. -/
theorem used_ring_overflow :
    ∃ s, (init 2 0).run (staleRun ++ [.fetch]) = some s ∧ 2 < pending s ∧
      s.queue.usedRing.idx.toNat % 2 = s.queue.lastSeenUsed.toNat % 2 ∧
      s.queue.usedMatches 0 s.queue.lastSeenUsed = true ∧
      ∃ s', s.run [.complete 1 30, .popUsed 1] = some s' ∧
        s'.tokens = [0] ∧ s'.device.inFlight = [] ∧
        s'.device.nextAvail = s'.queue.availRing.idx ∧ s'.queue.canPop 0 = false := by
  refine ⟨_, rfl, by decide, rfl, rfl, _, rfl, rfl, rfl, rfl, rfl⟩

end QueueSystem

end SafeVirtio
