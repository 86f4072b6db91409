import SafeVirtio.Queue.Completion

/-!
# The used window

`last_seen_used` and `poped_used` record which completions the driver has taken: every position
before `last_seen_used` has been popped, and `poped_used` holds the positions after it that were
popped out of order.  Positions are `u16` counters that come round every `2 ^ 16` completions, so
the set means something only while all of it lies in the window `last_seen_used .. used.idx`
and `last_seen_used` itself is not in it (`WindowInv`).

The loop at the end of `pop_used` sweeps `last_seen_used` over the run of parked positions in
front of it.  On a window that holds every parked position it stops after the longest such run,
at the first position of the window that has not been popped or at `used.idx`
(`advanceLastSeen_window`, `popUsed_sweep`).  So a pop keeps the invariant, and a device that
appends a completion keeps it as long as the window stays shorter than a full turn
(`used_window_bookkeeping`).

A sweep, one more parked position and a second sweep end where one sweep over both positions
ends (`advanceLastSeen_insert`), so two pops whose entries are not parked commute: the same
lengths, `last_seen_used`, `poped_used` and `used_event`, and free deques that differ only in
order (`popUsed_comm`).  A parked entry is where that fails: after `staleRun` token `1` names the
parked completion of an earlier request, and popping token `0` first sweeps it out of the window
(`stale_pops_do_not_commute`).
-/

namespace SafeVirtio

namespace VirtIoQueue

variable {SIZE : ℕ}

/-! ## The sweep of `last_seen_used` -/

/-- With as many turns as the set has elements, the loop takes one turn per parked position it
meets and stops at the first position that is not parked. -/
theorem advanceLastSeen_card (S : Finset UInt16) (last event : UInt16) :
    advanceLastSeen S.card S last event =
      if last ∈ S then advanceLastSeen (S.erase last).card (S.erase last) (last + 1) (last + 1)
      else (S, last, event) := by
  split_ifs with h
  · rw [← Finset.card_erase_add_one h, advanceLastSeen, if_pos h]
  · cases S.card with
    | zero => rfl
    | succ n => rw [advanceLastSeen, if_neg h]

/-- Sweeping, parking one more position and sweeping again ends where one sweep over both
ends. -/
theorem advanceLastSeen_insert {x : UInt16} (S : Finset UInt16) (hx : x ∉ S) (last event : UInt16) :
    advanceLastSeen (insert x (advanceLastSeen S.card S last event).1).card
        (insert x (advanceLastSeen S.card S last event).1)
        (advanceLastSeen S.card S last event).2.1 (advanceLastSeen S.card S last event).2.2 =
      advanceLastSeen (insert x S).card (insert x S) last event := by
  induction S using Finset.strongInduction generalizing last event with
  | H S ih =>
    by_cases hlast : last ∈ S
    · have hne : x ≠ last := fun h ↦ hx (h ▸ hlast)
      rw [advanceLastSeen_card S, if_pos hlast, advanceLastSeen_card (insert x S),
        if_pos (Finset.mem_insert_of_mem hlast), Finset.erase_insert_of_ne hne]
      exact ih _ (Finset.erase_ssubset hlast) (fun h ↦ hx (Finset.mem_of_mem_erase h)) _ _
    · rw [advanceLastSeen_card S, if_neg hlast]

/-- On a window of `n` positions that holds every parked position, the sweep takes the longest
run of parked positions at the start of the window, `k` of them: it stops at the first position
that is not parked (the window's end when all are), unparks the run, and stores the new position
in `used_event` when it moved. -/
theorem advanceLastSeen_window {n : ℕ} (hn : n < 2 ^ 16) :
    ∀ {S : Finset UInt16} {last : UInt16} (event : UInt16),
      (∀ x ∈ S, x ∈ WrapWindow.window last n) →
      ∃ k ≤ n, (∀ j < k, last + j.toUInt16 ∈ S) ∧ last + k.toUInt16 ∉ S ∧
        advanceLastSeen S.card S last event =
          (S \ (WrapWindow.window last k).toFinset, last + k.toUInt16,
            if k = 0 then event else last + k.toUInt16) := by
  induction n with
  | zero =>
    intro S last event hS
    have hempty : S = ∅ := Finset.eq_empty_of_forall_notMem fun x hx ↦ by simpa using hS x hx
    subst hempty
    refine ⟨0, le_rfl, fun j hj ↦ absurd hj (Nat.not_lt_zero j), by simp, ?_⟩
    simp [advanceLastSeen]
  | succ n ih =>
    intro S last event hS
    by_cases hlast : last ∈ S
    · have hrest : ∀ x ∈ S.erase last, x ∈ WrapWindow.window (last + 1) n := by
        intro x hx
        have hmem := hS x (Finset.mem_of_mem_erase hx)
        rw [WrapWindow.window_succ_left] at hmem
        exact (List.mem_cons.mp hmem).resolve_left (Finset.ne_of_mem_erase hx)
      obtain ⟨k, hk, hrun, hstop, hadv⟩ := ih (by omega) (last + 1) hrest
      have hshift := WrapWindow.add_one_add_toUInt16 last k
      refine ⟨k + 1, by omega, fun j hj ↦ ?_, ?_, ?_⟩
      · cases j with
        | zero => simpa using hlast
        | succ j =>
          rw [← WrapWindow.add_one_add_toUInt16]
          exact Finset.mem_of_mem_erase (hrun j (by omega))
      · have hne : last + (k + 1).toUInt16 ≠ last :=
          WrapWindow.add_toUInt16_ne last (by omega) (by omega)
        rw [← hshift] at hne ⊢
        exact fun hmem ↦ hstop (Finset.mem_erase.mpr ⟨hne, hmem⟩)
      · rw [advanceLastSeen_card, if_pos hlast, hadv, ← hshift, WrapWindow.window_succ_left,
          List.toFinset_cons, Finset.sdiff_insert, Finset.erase_sdiff_comm]
        by_cases hk0 : k = 0 <;> simp [hk0]
    · refine ⟨0, by omega, fun j hj ↦ absurd hj (Nat.not_lt_zero j), by simpa using hlast, ?_⟩
      rw [advanceLastSeen_card, if_neg hlast]
      simp

/-! ## The window invariant -/

/-- Every parked position lies in the used window, and `last_seen_used` is not parked. -/
structure WindowInv (q : VirtIoQueue SIZE) : Prop where
  poped_mem : ∀ p ∈ q.popedUsed, p ∈ q.usedWindow
  last_not_mem : q.lastSeenUsed ∉ q.popedUsed

theorem WindowInv.of_same {q q' : VirtIoQueue SIZE} (h : WindowInv q)
    (hlast : q'.lastSeenUsed = q.lastSeenUsed) (hpoped : q'.popedUsed = q.popedUsed)
    (hidx : q'.usedRing.idx = q.usedRing.idx) : WindowInv q' where
  poped_mem := by
    have hwin : q'.usedWindow = q.usedWindow := by simp only [usedWindow, skip, hlast, hidx]
    rw [hwin, hpoped]
    exact h.poped_mem
  last_not_mem := by
    rw [hlast, hpoped]
    exact h.last_not_mem

theorem WindowInv.pushUsed {q : VirtIoQueue SIZE} (h : WindowInv q) (hlen : q.skip + 1 < 2 ^ 16)
    (head : UInt16) (len : UInt32) :
    WindowInv ({ q with usedRing := DeviceQueue.pushUsed SIZE q.usedRing head len } :
      VirtIoQueue SIZE) where
  poped_mem p hp := by
    have hwin : ({ q with usedRing := DeviceQueue.pushUsed SIZE q.usedRing head len } :
        VirtIoQueue SIZE).usedWindow = q.usedWindow ++ [q.usedRing.idx] :=
      WrapWindow.window_sub_succ_right hlen
    rw [hwin]
    exact List.mem_append_left _ (h.poped_mem p hp)
  last_not_mem := h.last_not_mem

/-- `pop_used` parks the position `p` it found in the window and sweeps.  With `k` the length of
the run of parked positions at the start of the window, `last_seen_used` moves `k` positions on,
the run is unparked, `used_event` is stored when `k ≠ 0`, and the window loses its first `k`
positions. -/
theorem popped_sweep {q : VirtIoQueue SIZE} (hq : WindowInv q) {p : UInt16} (hp : p ∈ q.usedWindow)
    (chain : List ℕ) :
    ∃ k ≤ q.skip, (∀ j < k, q.lastSeenUsed + j.toUInt16 ∈ insert p q.popedUsed) ∧
      q.lastSeenUsed + k.toUInt16 ∉ insert p q.popedUsed ∧
      (q.popped p chain).lastSeenUsed = q.lastSeenUsed + k.toUInt16 ∧
      (q.popped p chain).popedUsed =
        insert p q.popedUsed \ (WrapWindow.window q.lastSeenUsed k).toFinset ∧
      (q.popped p chain).availRing.usedEvent =
        (if k = 0 then q.availRing.usedEvent else q.lastSeenUsed + k.toUInt16) ∧
      (q.popped p chain).usedWindow = q.usedWindow.drop k := by
  have hS : ∀ x ∈ insert p q.popedUsed, x ∈ WrapWindow.window q.lastSeenUsed q.skip := by
    intro x hx
    rcases Finset.mem_insert.mp hx with rfl | hx
    · exact hp
    · exact hq.poped_mem x hx
  obtain ⟨k, hk, hrun, hstop, hadv⟩ := advanceLastSeen_window q.skip_lt q.availRing.usedEvent hS
  have hlast : (q.popped p chain).lastSeenUsed = q.lastSeenUsed + k.toUInt16 := by
    rw [popped_lastSeenUsed, hadv]
  refine ⟨k, hk, hrun, hstop, hlast, by rw [popped_popedUsed, hadv], by rw [popped_availRing, hadv],
    ?_⟩
  have hk' : k ≤ (q.usedRing.idx - q.lastSeenUsed).toNat := hk
  simp only [usedWindow, skip, hlast, popped_usedRing]
  rw [WrapWindow.toNat_sub_add_toUInt16 hk', WrapWindow.window_drop _ hk']

theorem WindowInv.popped {q : VirtIoQueue SIZE} (hq : WindowInv q) {p : UInt16}
    (hp : p ∈ q.usedWindow) (chain : List ℕ) : WindowInv (q.popped p chain) := by
  obtain ⟨k, hk, hrun, hstop, hlast, hpoped, -, hwin⟩ := popped_sweep hq hp chain
  refine ⟨fun x hx ↦ ?_, ?_⟩
  · rw [hpoped, Finset.mem_sdiff, List.mem_toFinset] at hx
    have hmem : x ∈ q.usedWindow := by
      rcases Finset.mem_insert.mp hx.1 with rfl | hx'
      · exact hp
      · exact hq.poped_mem x hx'
    rw [hwin]
    exact WrapWindow.mem_drop_of_mem hk hmem hx.2
  · rw [hlast, hpoped, Finset.mem_sdiff]
    exact fun h ↦ hstop h.1

/-- After a successful `pop_used` on a queue that keeps the invariant: the position popped is the
first of the window naming the token; `last_seen_used` stops at the first position of the old
window that is neither parked nor the one just popped, or at `used.idx` if there is none, so it
never moves past `used.idx`; `used_event` is stored exactly when it moved; and the invariant
holds again, so the loop ended on a position that is not parked. -/
theorem popUsed_sweep {q q' : VirtIoQueue SIZE} (hq : WindowInv q) {id : UInt16} {len : UInt32}
    (h : q.popUsed id = some (.ok len, q')) :
    ∃ p, q.usedWindow.find? (q.usedMatches id) = some p ∧
      q'.lastSeenUsed = (q.usedWindow.find? (· ∉ insert p q.popedUsed)).getD q.usedRing.idx ∧
      (q'.lastSeenUsed - q.lastSeenUsed).toNat ≤ q.skip ∧
      (q'.lastSeenUsed ≠ q.lastSeenUsed → q'.availRing.usedEvent = q'.lastSeenUsed) ∧
      (q'.lastSeenUsed = q.lastSeenUsed → q'.availRing.usedEvent = q.availRing.usedEvent) ∧
      WindowInv q' := by
  obtain ⟨p, chain, hscan, -, -, rfl⟩ := popUsed_ok_cases h
  have hp := (WrapWindow.scan_mem hscan).1
  obtain ⟨k, hk, hrun, hstop, hlast, -, hevent, -⟩ := popped_sweep hq hp chain
  have hklt : k < 2 ^ 16 := lt_of_le_of_lt hk q.skip_lt
  have hmoved : q.lastSeenUsed + k.toUInt16 = q.lastSeenUsed ↔ k = 0 := by
    refine ⟨fun h ↦ ?_, fun h ↦ by simp [h]⟩
    by_contra hk0
    exact WrapWindow.add_toUInt16_ne q.lastSeenUsed (Nat.pos_of_ne_zero hk0) hklt h
  refine ⟨p, by rw [usedWindow, ← WrapWindow.scan_eq_find?, hscan], ?_, ?_, fun hne ↦ ?_,
    fun heq ↦ ?_, hq.popped hp chain⟩
  · rw [hlast, ← WrapWindow.add_toNat_sub q.lastSeenUsed q.usedRing.idx]
    exact (WrapWindow.find?_window_getD hk (fun j hj ↦ decide_eq_false fun h ↦ h (hrun j hj))
      (fun _ ↦ decide_eq_true hstop)).symm
  · rw [hlast, add_sub_cancel_left]
    simp only [Nat.toUInt16, UInt16.toNat_ofNat']
    omega
  · rw [hlast] at hne ⊢
    rw [hevent, if_neg (mt hmoved.mpr hne)]
  · rw [hlast] at heq
    rw [hevent, if_pos (hmoved.mp heq)]

/-! ## Pops in either order -/

/-- Two pops in a row, the second at a position that the first did not find parked: one sweep
over both positions. -/
theorem popped_popped (q : VirtIoQueue SIZE) {p₁ p₂ : UInt16} (c₁ c₂ : List ℕ)
    (hp₂ : p₂ ∉ insert p₁ q.popedUsed) :
    ((q.popped p₁ c₁).popped p₂ c₂).lastSeenUsed = (advanceLastSeen
        (insert p₂ (insert p₁ q.popedUsed)).card (insert p₂ (insert p₁ q.popedUsed))
        q.lastSeenUsed q.availRing.usedEvent).2.1 ∧
      ((q.popped p₁ c₁).popped p₂ c₂).popedUsed = (advanceLastSeen
        (insert p₂ (insert p₁ q.popedUsed)).card (insert p₂ (insert p₁ q.popedUsed))
        q.lastSeenUsed q.availRing.usedEvent).1 ∧
      ((q.popped p₁ c₁).popped p₂ c₂).availRing = { q.availRing with usedEvent := (advanceLastSeen
        (insert p₂ (insert p₁ q.popedUsed)).card (insert p₂ (insert p₁ q.popedUsed))
        q.lastSeenUsed q.availRing.usedEvent).2.2 } ∧
      ((q.popped p₁ c₁).popped p₂ c₂).availDescIndex =
        q.availDescIndex ++ c₁.map Nat.toUInt16 ++ c₂.map Nat.toUInt16 := by
  have hsweep := advanceLastSeen_insert (insert p₁ q.popedUsed) hp₂ q.lastSeenUsed
    q.availRing.usedEvent
  simp only [popped_lastSeenUsed, popped_popedUsed, popped_availRing] at hsweep ⊢
  refine ⟨by rw [hsweep], by rw [hsweep], by rw [hsweep], ?_⟩
  simp

theorem popUsed_of_filter {q : VirtIoQueue SIZE} {t p : UInt16} {c : List ℕ}
    (h : q.usedWindow.filter (q.usedMatches t) = [p])
    (hc : LinkedChain.follow SIZE (chainLink SIZE q.descriptorTable) SIZE t.toNat = some c) :
    q.popUsed t = some (.ok (q.usedRing.ring (p.toNat % SIZE)).len, q.popped p c) := by
  have hscan : WrapWindow.scan (q.usedMatches t) q.lastSeenUsed q.skip = some p := by
    rw [WrapWindow.scan_eq_find?, ← List.head?_filter]
    exact congrArg List.head? h
  rw [popUsed_of_scan hscan, hc, Option.map_some]

/-- A pop leaves alone an entry named by exactly one entry of the window, if it did not find the
entry parked. -/
theorem filter_popped {q : VirtIoQueue SIZE} (hq : WindowInv q) {p t p' : UInt16}
    (hp : p ∈ q.usedWindow) (c : List ℕ) (h : q.usedWindow.filter (q.usedMatches t) = [p'])
    (hp' : p' ∉ insert p q.popedUsed) :
    (q.popped p c).usedWindow.filter ((q.popped p c).usedMatches t) = [p'] := by
  obtain ⟨k, hk, hrun, -, -, -, -, hwin⟩ := popped_sweep hq hp c
  have hmatch : (q.popped p c).usedMatches t = q.usedMatches t := by
    funext pos
    simp [usedMatches]
  have hmem := List.mem_filter.mp (h ▸ List.mem_singleton_self p')
  have hdrop : p' ∈ q.usedWindow.drop k :=
    WrapWindow.mem_drop_of_mem hk hmem.1 (WrapWindow.not_mem_window_of_forall hrun hp')
  have hsub : List.Sublist ((q.usedWindow.drop k).filter (q.usedMatches t)) [p'] :=
    h ▸ (List.drop_sublist k q.usedWindow).filter _
  rw [hwin, hmatch]
  rcases List.sublist_singleton.mp hsub with hnil | hone
  · have hin : p' ∈ (q.usedWindow.drop k).filter (q.usedMatches t) :=
      List.mem_filter.mpr ⟨hdrop, hmem.2⟩
    rw [hnil] at hin
    cases hin
  · exact hone

/-- Two pops of distinct tokens, each named by exactly one entry of the window and neither entry
parked, return the same lengths in either order and end with the same `last_seen_used`,
`poped_used` and available ring; the free deques hold the same ids in another order. -/
theorem popUsed_comm {q : VirtIoQueue SIZE} (hq : WindowInv q) {t₁ t₂ p₁ p₂ : UInt16}
    {c₁ c₂ : List ℕ} (ht : t₁ ≠ t₂)
    (h₁ : q.usedWindow.filter (q.usedMatches t₁) = [p₁])
    (h₂ : q.usedWindow.filter (q.usedMatches t₂) = [p₂])
    (hp₁ : p₁ ∉ q.popedUsed) (hp₂ : p₂ ∉ q.popedUsed)
    (hc₁ : LinkedChain.follow SIZE (chainLink SIZE q.descriptorTable) SIZE t₁.toNat = some c₁)
    (hc₂ : LinkedChain.follow SIZE (chainLink SIZE q.descriptorTable) SIZE t₂.toNat = some c₂) :
    ∃ q₁ q₂ q₁₂ q₂₁ : VirtIoQueue SIZE,
      q.popUsed t₁ = some (.ok (q.usedRing.ring (p₁.toNat % SIZE)).len, q₁) ∧
      q₁.popUsed t₂ = some (.ok (q.usedRing.ring (p₂.toNat % SIZE)).len, q₁₂) ∧
      q.popUsed t₂ = some (.ok (q.usedRing.ring (p₂.toNat % SIZE)).len, q₂) ∧
      q₂.popUsed t₁ = some (.ok (q.usedRing.ring (p₁.toNat % SIZE)).len, q₂₁) ∧
      q₁₂.lastSeenUsed = q₂₁.lastSeenUsed ∧ q₁₂.popedUsed = q₂₁.popedUsed ∧
      q₁₂.availRing = q₂₁.availRing ∧ q₁₂.availDescIndex.Perm q₂₁.availDescIndex := by
  have hmem₁ := List.mem_filter.mp (h₁ ▸ List.mem_singleton_self p₁)
  have hmem₂ := List.mem_filter.mp (h₂ ▸ List.mem_singleton_self p₂)
  have hne : p₁ ≠ p₂ := by
    rintro rfl
    have hid₁ := hmem₁.2
    have hid₂ := hmem₂.2
    simp only [usedMatches, beq_iff_eq] at hid₁ hid₂
    exact ht (UInt16.toUInt32_inj.mp (hid₁.symm.trans hid₂))
  have hfree₂ : p₂ ∉ insert p₁ q.popedUsed := by simp [hne.symm, hp₂]
  have hfree₁ : p₁ ∉ insert p₂ q.popedUsed := by simp [hne, hp₁]
  have hpop₁₂ := popUsed_of_filter (filter_popped hq hmem₁.1 c₁ h₂ hfree₂) (by simpa using hc₂)
  have hpop₂₁ := popUsed_of_filter (filter_popped hq hmem₂.1 c₂ h₁ hfree₁) (by simpa using hc₁)
  obtain ⟨hl₁₂, hs₁₂, ha₁₂, hd₁₂⟩ := popped_popped q c₁ c₂ hfree₂
  obtain ⟨hl₂₁, hs₂₁, ha₂₁, hd₂₁⟩ := popped_popped q c₂ c₁ hfree₁
  refine ⟨_, _, _, _, popUsed_of_filter h₁ hc₁, hpop₁₂, popUsed_of_filter h₂ hc₂, hpop₂₁,
    ?_, ?_, ?_, ?_⟩
  · rw [hl₁₂, hl₂₁, Finset.insert_comm]
  · rw [hs₁₂, hs₂₁, Finset.insert_comm]
  · rw [ha₁₂, ha₂₁, Finset.insert_comm]
  · rw [hd₁₂, hd₂₁, List.append_assoc, List.append_assoc]
    exact List.Perm.append_left _ List.perm_append_comm

end VirtIoQueue

namespace QueueSystem

variable {SIZE : ℕ}

/-- The states reachable from a fresh queue along runs whose used window never holds more than
`SIZE` entries. -/
def WindowReachable (SIZE : ℕ) (queueIdx : UInt16) : QueueSystem SIZE → Prop :=
  Reach.Reachable (· = init SIZE queueIdx) fun s s' ↦
    (∃ e, s.step e = some s') ∧ s'.queue.skip ≤ SIZE

/-- Perform a sequence of events, failing where one fails or leaves more than `SIZE` entries in
the used window. -/
def runWithin (s : QueueSystem SIZE) : List QueueEvent → Option (QueueSystem SIZE)
  | [] => some s
  | e :: es => (s.step e).bind fun s' ↦ if s'.queue.skip ≤ SIZE then s'.runWithin es else none

theorem windowReachable_of_runWithin {queueIdx : UInt16} :
    ∀ {s s' : QueueSystem SIZE} (es : List QueueEvent), WindowReachable SIZE queueIdx s →
      s.runWithin es = some s' → WindowReachable SIZE queueIdx s'
  | _, _, [], hs, h => by cases h; exact hs
  | s, _, e :: es, hs, h => by
    obtain ⟨s₁, hstep, hrun⟩ := Option.bind_eq_some_iff.mp h
    split_ifs at hrun with hskip
    exact windowReachable_of_runWithin es (Reach.Reachable.step hs ⟨⟨e, hstep⟩, hskip⟩) hrun

theorem windowInv_init (SIZE : ℕ) (queueIdx : UInt16) :
    VirtIoQueue.WindowInv (init SIZE queueIdx).queue where
  poped_mem p hp := by simp [init, VirtIoQueue.init] at hp
  last_not_mem := by simp [init, VirtIoQueue.init]

/-- Every event keeps the invariant, a completion because the window it lengthens holds at most
`SIZE` entries. -/
theorem windowInv_step (hsize : SIZE + 1 < 2 ^ 16) {s s' : QueueSystem SIZE} {e : QueueEvent}
    (h : VirtIoQueue.WindowInv s.queue) (hskip : s.queue.skip ≤ SIZE)
    (hstep : s.step e = some s') : VirtIoQueue.WindowInv s'.queue := by
  cases e with
  | add data =>
    obtain ⟨-, ⟨_, q, hadd, rfl⟩ | ⟨_, q, hadd, rfl⟩⟩ := step_add hstep
    all_goals
      obtain ⟨hused, hlast, hpoped⟩ := VirtIoQueue.add_leaves_used hadd
      exact h.of_same hlast hpoped (by rw [hused])
  | popUsed token =>
    obtain ⟨-, ⟨len, q, hpop, rfl⟩ | ⟨e, q, hpop, rfl⟩⟩ := step_popUsed hstep
    · obtain ⟨-, -, -, -, -, -, hinv⟩ := VirtIoQueue.popUsed_sweep h hpop
      exact hinv
    · obtain ⟨-, rfl⟩ := VirtIoQueue.popUsed_error_cases hpop
      exact h
  | fetch =>
    obtain ⟨d, -, rfl⟩ := step_fetch hstep
    exact h
  | complete head len =>
    obtain ⟨-, rfl⟩ := step_complete hstep
    exact h.pushUsed (by omega) head len

theorem windowInv_reachable (hsize : SIZE + 1 < 2 ^ 16) {queueIdx : UInt16}
    {s : QueueSystem SIZE} (hs : WindowReachable SIZE queueIdx s) :
    VirtIoQueue.WindowInv s.queue ∧ s.queue.skip ≤ SIZE := by
  have hinit : ∀ s₀ : QueueSystem SIZE, s₀ = init SIZE queueIdx →
      VirtIoQueue.WindowInv s₀.queue ∧ s₀.queue.skip ≤ SIZE := by
    rintro _ rfl
    exact ⟨windowInv_init SIZE queueIdx, by simp [init, VirtIoQueue.init, VirtIoQueue.skip]⟩
  have hstep : ∀ s₁ s₂ : QueueSystem SIZE,
      VirtIoQueue.WindowInv s₁.queue ∧ s₁.queue.skip ≤ SIZE →
      ((∃ e, s₁.step e = some s₂) ∧ s₂.queue.skip ≤ SIZE) →
      VirtIoQueue.WindowInv s₂.queue ∧ s₂.queue.skip ≤ SIZE := by
    rintro s₁ s₂ ⟨h, hskip⟩ ⟨⟨e, hstep⟩, hskip'⟩
    exact ⟨windowInv_step hsize h hskip hstep, hskip'⟩
  exact Reach.Reachable.invariant hinit hstep hs

/-- Along every run from a fresh queue in which the used window never holds more than `SIZE`
entries, for `SIZE + 1 < 2 ^ 16`: every parked position lies in the window and `last_seen_used` is
not parked; and every successful `pop_used` stops `last_seen_used` at the first position of the
old window that is neither parked nor the one it popped (at `used.idx` if there is none), so never
past `used.idx`, stores `used_event` exactly when `last_seen_used` moved, and leaves both facts
true. -/
theorem used_window_bookkeeping (hsize : SIZE + 1 < 2 ^ 16) {queueIdx : UInt16}
    {s : QueueSystem SIZE} (hs : WindowReachable SIZE queueIdx s) :
    (∀ p ∈ s.queue.popedUsed, p ∈ s.queue.usedWindow) ∧ s.queue.lastSeenUsed ∉ s.queue.popedUsed ∧
    ∀ (id : UInt16) (len : UInt32) (q' : VirtIoQueue SIZE),
      s.queue.popUsed id = some (.ok len, q') →
      ∃ p, s.queue.usedWindow.find? (s.queue.usedMatches id) = some p ∧
        q'.lastSeenUsed =
          (s.queue.usedWindow.find? (· ∉ insert p s.queue.popedUsed)).getD s.queue.usedRing.idx ∧
        (q'.lastSeenUsed - s.queue.lastSeenUsed).toNat ≤ s.queue.skip ∧
        (q'.lastSeenUsed ≠ s.queue.lastSeenUsed → q'.availRing.usedEvent = q'.lastSeenUsed) ∧
        (q'.lastSeenUsed = s.queue.lastSeenUsed →
          q'.availRing.usedEvent = s.queue.availRing.usedEvent) ∧
        (∀ p' ∈ q'.popedUsed, p' ∈ q'.usedWindow) ∧ q'.lastSeenUsed ∉ q'.popedUsed := by
  obtain ⟨h, -⟩ := windowInv_reachable hsize hs
  refine ⟨h.poped_mem, h.last_not_mem, fun id len q' hpop ↦ ?_⟩
  obtain ⟨p, hfind, hlast, hle, hmoved, hstay, hinv⟩ := VirtIoQueue.popUsed_sweep h hpop
  exact ⟨p, hfind, hlast, hle, hmoved, hstay, hinv.poped_mem, hinv.last_not_mem⟩

/-- `staleRun` never lets the window hold more than two entries.  Where it ends, the parked
position `1` lies in the window, and popping `0` moves `last_seen_used` at most across the window
and onto a position that is not parked. -/
theorem used_window_bookkeeping_stale :
    2 + 1 < 2 ^ 16 ∧ ∃ s, (init 2 0).runWithin staleRun = some s ∧ WindowReachable 2 0 s ∧
      s.queue.popedUsed = {1} ∧ 1 ∈ s.queue.usedWindow ∧
      ∃ q', s.queue.popUsed 0 = some (.ok 10, q') ∧
        (q'.lastSeenUsed - s.queue.lastSeenUsed).toNat ≤ s.queue.skip ∧
        q'.lastSeenUsed ∉ q'.popedUsed := by
  have hsize : 2 + 1 < 2 ^ 16 := by norm_num
  obtain ⟨s, hrun, hpoped, q', hpop⟩ : ∃ s, (init 2 0).runWithin staleRun = some s ∧
      s.queue.popedUsed = {1} ∧ ∃ q', s.queue.popUsed 0 = some (.ok 10, q') :=
    ⟨_, rfl, by decide, _, rfl⟩
  have hs : WindowReachable 2 0 s :=
    windowReachable_of_runWithin staleRun (Reach.Reachable.init rfl) hrun
  obtain ⟨hmem, -, hpops⟩ := used_window_bookkeeping hsize hs
  obtain ⟨p, -, -, hle, -, -, -, hlast⟩ := hpops 0 10 q' hpop
  exact ⟨hsize, s, hrun, hs, hpoped, hmem 1 (by simp [hpoped]), q', hpop, hle, hlast⟩

/-- After the first six events of `staleRun` both completions wait and neither is parked: the two
tokens pop in either order to the same bookkeeping. -/
theorem popUsed_comm_completed :
    ∃ s, (init 2 0).runWithin (staleRun.take 6) = some s ∧ VirtIoQueue.WindowInv s.queue ∧
      ∃ q₁ q₂ q₁₂ q₂₁ : VirtIoQueue 2,
        s.queue.popUsed 0 = some (.ok 10, q₁) ∧ q₁.popUsed 1 = some (.ok 20, q₁₂) ∧
        s.queue.popUsed 1 = some (.ok 20, q₂) ∧ q₂.popUsed 0 = some (.ok 10, q₂₁) ∧
        q₁₂.lastSeenUsed = q₂₁.lastSeenUsed ∧ q₁₂.availDescIndex.Perm q₂₁.availDescIndex := by
  obtain ⟨s, hrun, h₁, h₂, hp₁, hp₂, ⟨c₁, hc₁⟩, ⟨c₂, hc₂⟩, hlen₀, hlen₁⟩ :
      ∃ s, (init 2 0).runWithin (staleRun.take 6) = some s ∧
        s.queue.usedWindow.filter (s.queue.usedMatches 0) = [0] ∧
        s.queue.usedWindow.filter (s.queue.usedMatches 1) = [1] ∧
        (0 : UInt16) ∉ s.queue.popedUsed ∧ (1 : UInt16) ∉ s.queue.popedUsed ∧
        (∃ c, LinkedChain.follow 2 (VirtIoQueue.chainLink 2 s.queue.descriptorTable) 2
          (0 : UInt16).toNat = some c) ∧
        (∃ c, LinkedChain.follow 2 (VirtIoQueue.chainLink 2 s.queue.descriptorTable) 2
          (1 : UInt16).toNat = some c) ∧
        (s.queue.usedRing.ring 0).len = 10 ∧ (s.queue.usedRing.ring 1).len = 20 :=
    ⟨_, rfl, rfl, rfl, by decide, by decide, ⟨_, rfl⟩, ⟨_, rfl⟩, rfl, rfl⟩
  have hs : WindowReachable 2 0 s := windowReachable_of_runWithin _ (Reach.Reachable.init rfl) hrun
  have hq := (windowInv_reachable (by norm_num) hs).1
  obtain ⟨q₁, q₂, q₁₂, q₂₁, hpop₁, hpop₁₂, hpop₂, hpop₂₁, hlast, -, -, hperm⟩ :=
    VirtIoQueue.popUsed_comm hq (by decide) h₁ h₂ hp₁ hp₂ hc₁ hc₂
  have hlen₀' : (s.queue.usedRing.ring ((0 : UInt16).toNat % 2)).len = 10 := hlen₀
  have hlen₁' : (s.queue.usedRing.ring ((1 : UInt16).toNat % 2)).len = 20 := hlen₁
  rw [hlen₀'] at hpop₁ hpop₂₁
  rw [hlen₁'] at hpop₁₂ hpop₂
  exact ⟨s, hrun, hq, q₁, q₂, q₁₂, q₂₁, hpop₁, hpop₁₂, hpop₂, hpop₂₁, hlast, hperm⟩

/-- After `staleRun` tokens `0` and `1` are outstanding and each names exactly one entry of the
window `0, 1`: token `0` its completion at position `0`, token `1` the parked completion of the
earlier request at position `1`.  Popping `1` and then `0` returns `20` and `10` and frees both
ids; popping `0` first returns `10` and sweeps position `1` out of the window, so `1` then
answers `NotReady` and only id `0` is freed. -/
theorem stale_pops_do_not_commute :
    ∃ s, (init 2 0).run staleRun = some s ∧ s.tokens = [0, 1] ∧ s.queue.usedWindow = [0, 1] ∧
      s.queue.usedWindow.filter (s.queue.usedMatches 0) = [0] ∧
      s.queue.usedWindow.filter (s.queue.usedMatches 1) = [1] ∧ s.queue.popedUsed = {1} ∧
      (∃ q₁, s.queue.popUsed 0 = some (.ok 10, q₁) ∧ q₁.popUsed 1 = some (.error .notReady, q₁) ∧
        q₁.availDescIndex = [0]) ∧
      ∃ q₂ q₂₁, s.queue.popUsed 1 = some (.ok 20, q₂) ∧ q₂.popUsed 0 = some (.ok 10, q₂₁) ∧
        q₂₁.availDescIndex = [1, 0] := by
  refine ⟨_, rfl, rfl, rfl, rfl, rfl, by decide, ⟨_, rfl, rfl, rfl⟩, _, _, rfl, rfl, rfl⟩

end QueueSystem

end SafeVirtio
