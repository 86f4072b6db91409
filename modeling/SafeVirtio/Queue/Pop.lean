import SafeVirtio.Queue.Add

/-!
# What `pop_used` returns

`can_pop` and the header search of `pop_used` walk the same window `last_seen_used ..
used.idx`, which is never longer than `2 ^ 16 - 1` positions.  So whenever `can_pop` finds an
entry, `pop_used`'s search finds the same position, and neither of its `assert_ne!`s can fire:
the window is not empty, and the sentinel `last_seen_used - 1` lies outside it.  What is left
of `pop_used` is the descriptor walk, which returns exactly the chain that starts at the
token whenever the table holds one (`popUsed_of_isChain`).

The last theorem of the module puts `add` and `pop_used` together: a chain placed by `add`
comes back to the free deque slot for slot, in the order the walk meets them.
-/

namespace SafeVirtio

namespace VirtIoQueue

variable {SIZE : ℕ}

theorem skip_lt (q : VirtIoQueue SIZE) : q.skip < 2 ^ 16 := UInt16.toNat_lt _

/-- The window that `can_pop` and `pop_used` scan. -/
def usedWindow (q : VirtIoQueue SIZE) : List UInt16 := WrapWindow.window q.lastSeenUsed q.skip

theorem skip_eq_zero_iff {q : VirtIoQueue SIZE} : q.skip = 0 ↔ q.lastSeenUsed = q.usedRing.idx := by
  rw [skip, ← UInt16.toNat_zero, UInt16.toNat_inj, sub_eq_zero, eq_comm]

theorem canPop_eq_scan (q : VirtIoQueue SIZE) (id : UInt16) :
    q.canPop id = (WrapWindow.scan (q.usedMatches id) q.lastSeenUsed q.skip).isSome := by
  unfold canPop
  split_ifs with h
  · rw [skip_eq_zero_iff.mpr h]
    rfl
  · rfl

theorem canPop_iff {q : VirtIoQueue SIZE} {id : UInt16} :
    q.canPop id = true ↔ ∃ p ∈ q.usedWindow, q.usedMatches id p = true := by
  rw [canPop_eq_scan, WrapWindow.scan_isSome_iff, usedWindow]

theorem popUsed_of_canPop_false {q : VirtIoQueue SIZE} {id : UInt16} (h : q.canPop id = false) :
    q.popUsed id = some (.error .notReady, q) := by
  simp [popUsed, h]

theorem popUsed_of_scan_none {q : VirtIoQueue SIZE} {id : UInt16}
    (h : WrapWindow.scan (q.usedMatches id) q.lastSeenUsed q.skip = none) :
    q.popUsed id = some (.error .notReady, q) := by
  have hcan : q.canPop id = false := by rw [canPop_eq_scan, h]; rfl
  exact popUsed_of_canPop_false hcan

theorem scan_of_canPop {q : VirtIoQueue SIZE} {id : UInt16} (h : q.canPop id = true) :
    ∃ p, WrapWindow.scan (q.usedMatches id) q.lastSeenUsed q.skip = some p :=
  Option.isSome_iff_exists.mp ((canPop_eq_scan q id).symm.trans h)

theorem peekUsed_eq_some {q : VirtIoQueue SIZE} {t : UInt16} (h : q.peekUsed = some t) :
    q.lastSeenUsed ≠ q.usedRing.idx ∧
      (q.usedRing.ring (q.lastSeenUsed.toNat % SIZE)).id.toUInt16 = t := by
  have hne : q.lastSeenUsed ≠ q.usedRing.idx := by
    intro heq
    simp [peekUsed, heq] at h
  exact ⟨hne, by simpa [peekUsed, hne] using h⟩

theorem scan_of_usedMatches_last {q : VirtIoQueue SIZE} {id : UInt16}
    (hne : q.lastSeenUsed ≠ q.usedRing.idx) (hmatch : q.usedMatches id q.lastSeenUsed = true) :
    WrapWindow.scan (q.usedMatches id) q.lastSeenUsed q.skip = some q.lastSeenUsed := by
  obtain ⟨n, hn⟩ := Nat.exists_eq_succ_of_ne_zero (mt skip_eq_zero_iff.mp hne)
  rw [hn, WrapWindow.scan, if_pos hmatch]

/-- The queue `pop_used` leaves after popping the entry at position `p` whose chain is `chain`. -/
def popped (q : VirtIoQueue SIZE) (p : UInt16) (chain : List ℕ) : VirtIoQueue SIZE :=
  let poped := insert p q.popedUsed
  let (poped, last, event) := advanceLastSeen poped.card poped q.lastSeenUsed q.availRing.usedEvent
  { q with
    availDescIndex := q.availDescIndex ++ chain.map Nat.toUInt16
    popedUsed := poped
    lastSeenUsed := last
    availRing := { q.availRing with usedEvent := event } }

@[simp]
theorem popped_availDescIndex (q : VirtIoQueue SIZE) (p : UInt16) (chain : List ℕ) :
    (q.popped p chain).availDescIndex = q.availDescIndex ++ chain.map Nat.toUInt16 := rfl

@[simp]
theorem popped_descriptorTable (q : VirtIoQueue SIZE) (p : UInt16) (chain : List ℕ) :
    (q.popped p chain).descriptorTable = q.descriptorTable := rfl

@[simp]
theorem popped_usedRing (q : VirtIoQueue SIZE) (p : UInt16) (chain : List ℕ) :
    (q.popped p chain).usedRing = q.usedRing := rfl

theorem popped_lastSeenUsed (q : VirtIoQueue SIZE) (p : UInt16) (chain : List ℕ) :
    (q.popped p chain).lastSeenUsed = (advanceLastSeen (insert p q.popedUsed).card
      (insert p q.popedUsed) q.lastSeenUsed q.availRing.usedEvent).2.1 := rfl

theorem popped_popedUsed (q : VirtIoQueue SIZE) (p : UInt16) (chain : List ℕ) :
    (q.popped p chain).popedUsed = (advanceLastSeen (insert p q.popedUsed).card
      (insert p q.popedUsed) q.lastSeenUsed q.availRing.usedEvent).1 := rfl

theorem popped_availRing (q : VirtIoQueue SIZE) (p : UInt16) (chain : List ℕ) :
    (q.popped p chain).availRing = { q.availRing with usedEvent := (advanceLastSeen
      (insert p q.popedUsed).card (insert p q.popedUsed) q.lastSeenUsed q.availRing.usedEvent).2.2 } :=
  rfl

section Scan

variable {q : VirtIoQueue SIZE} {id p : UInt16}
  (hscan : WrapWindow.scan (q.usedMatches id) q.lastSeenUsed q.skip = some p)
include hscan

theorem ne_idx_of_scan : q.lastSeenUsed ≠ q.usedRing.idx := by
  intro h
  rw [skip_eq_zero_iff.mpr h] at hscan
  cases hscan

theorem ne_sentinel_of_scan : p ≠ q.lastSeenUsed - 1 := by
  intro h
  exact WrapWindow.sub_one_not_mem_window _ q.skip_lt (h ▸ (WrapWindow.scan_mem hscan).1)

/-- Once the scan has found position `p`, both assertions of `pop_used` hold and what remains
is the descriptor walk. -/
theorem popUsed_of_scan :
    q.popUsed id = (LinkedChain.follow SIZE (chainLink SIZE q.descriptorTable) SIZE id.toNat).map
      fun chain ↦ (.ok (q.usedRing.ring (p.toNat % SIZE)).len, q.popped p chain) := by
  have hcan : q.canPop id = true := by rw [canPop_eq_scan, hscan]; rfl
  simp only [popUsed, hcan, Bool.not_true, Bool.false_eq_true, if_false, ne_idx_of_scan hscan,
    hscan, Option.getD_some, ne_sentinel_of_scan hscan]
  cases LinkedChain.follow SIZE (chainLink SIZE q.descriptorTable) SIZE id.toNat <;> rfl

end Scan

theorem popUsed_ne_error_of_canPop {q : VirtIoQueue SIZE} {id : UInt16} (hcan : q.canPop id)
    (e : VirtIoError) (q' : VirtIoQueue SIZE) : q.popUsed id ≠ some (.error e, q') := by
  obtain ⟨p, hscan⟩ := scan_of_canPop hcan
  rw [popUsed_of_scan hscan]
  intro h
  obtain ⟨_, _, hres⟩ := Option.map_eq_some_iff.mp h
  cases hres

theorem popUsed_ok_cases {q q' : VirtIoQueue SIZE} {id : UInt16} {len : UInt32}
    (h : q.popUsed id = some (.ok len, q')) :
    ∃ p chain, WrapWindow.scan (q.usedMatches id) q.lastSeenUsed q.skip = some p ∧
      LinkedChain.follow SIZE (chainLink SIZE q.descriptorTable) SIZE id.toNat = some chain ∧
      len = (q.usedRing.ring (p.toNat % SIZE)).len ∧ q' = q.popped p chain := by
  cases hscan : WrapWindow.scan (q.usedMatches id) q.lastSeenUsed q.skip with
  | none =>
    rw [popUsed_of_scan_none hscan] at h
    cases h
  | some p =>
    rw [popUsed_of_scan hscan] at h
    obtain ⟨chain, hchain, hres⟩ := Option.map_eq_some_iff.mp h
    cases hres
    exact ⟨p, chain, rfl, hchain, rfl, rfl⟩

theorem popUsed_error_cases {q q' : VirtIoQueue SIZE} {id : UInt16} {e : VirtIoError}
    (h : q.popUsed id = some (.error e, q')) : e = .notReady ∧ q' = q := by
  cases hcan : q.canPop id with
  | false =>
    rw [popUsed_of_canPop_false hcan] at h
    cases h
    exact ⟨rfl, rfl⟩
  | true => exact absurd h (popUsed_ne_error_of_canPop hcan e q')

/-- For every `SIZE` that `new` accepts (a power of two, so not zero), every queue and every id:
`pop_used` answers `NotReady` and changes nothing exactly when `can_pop` answers `false`.  When
`can_pop` answers `true`, the header search of `pop_used` stops where the scan of `can_pop`
stops, at the first position of the window whose entry names the id; the window is not empty and
that position is not the sentinel `last_seen_used - 1`, so neither `assert_ne!` fires and the
result is decided by the descriptor walk alone; and every slot the search reads is below
`SIZE`. -/
theorem popUsed_agrees_canPop (hsize : 0 < SIZE) (q : VirtIoQueue SIZE) (id : UInt16) :
    (q.canPop id = true ↔ ∃ p ∈ q.usedWindow, q.usedMatches id p = true) ∧
    (q.popUsed id = some (.error .notReady, q) ↔ q.canPop id = false) ∧
    (q.canPop id = true → ∃ p, q.usedWindow.find? (q.usedMatches id) = some p ∧
      WrapWindow.scan (q.usedMatches id) q.lastSeenUsed q.skip = some p ∧
      q.lastSeenUsed ≠ q.usedRing.idx ∧ p ≠ q.lastSeenUsed - 1 ∧
      (∀ pos ∈ q.usedWindow, pos.toNat % SIZE < SIZE) ∧
      q.popUsed id = (LinkedChain.follow SIZE (chainLink SIZE q.descriptorTable) SIZE id.toNat).map
        fun chain ↦ (.ok (q.usedRing.ring (p.toNat % SIZE)).len, q.popped p chain)) := by
  refine ⟨canPop_iff, ⟨fun hpop ↦ ?_, popUsed_of_canPop_false⟩, fun hcan ↦ ?_⟩
  · cases hcan : q.canPop id with
    | false => rfl
    | true => exact absurd hpop (popUsed_ne_error_of_canPop hcan _ _)
  · obtain ⟨p, hscan⟩ := scan_of_canPop hcan
    refine ⟨p, ?_, hscan, ne_idx_of_scan hscan, ne_sentinel_of_scan hscan,
      fun pos _ ↦ Nat.mod_lt _ hsize, popUsed_of_scan hscan⟩
    rw [usedWindow, ← WrapWindow.scan_eq_find?, hscan]

/-- When the table holds a chain of distinct slots at `id`, `pop_used` returns exactly that
chain to the back of the free deque. -/
theorem popUsed_of_isChain {q : VirtIoQueue SIZE} {id p : UInt16} {chain : List ℕ}
    (hscan : WrapWindow.scan (q.usedMatches id) q.lastSeenUsed q.skip = some p)
    (hchain : LinkedChain.IsChain SIZE (chainLink SIZE q.descriptorTable) id.toNat chain)
    (hnodup : chain.Nodup) :
    q.popUsed id = some (.ok (q.usedRing.ring (p.toNat % SIZE)).len, q.popped p chain) := by
  rw [popUsed_of_scan hscan, LinkedChain.follow_size_of_isChain hchain hnodup, Option.map_some]

/-- `pop_used` of a token whose walk ends within `SIZE` steps never panics or hangs: it answers
`Ok` or `NotReady`. -/
theorem popUsed_isSome_of_follow {q : VirtIoQueue SIZE} {id : UInt16} {chain : List ℕ}
    (hfollow : LinkedChain.follow SIZE (chainLink SIZE q.descriptorTable) SIZE id.toNat =
      some chain) :
    (q.popUsed id).isSome := by
  cases hscan : WrapWindow.scan (q.usedMatches id) q.lastSeenUsed q.skip with
  | none =>
    rw [popUsed_of_scan_none hscan]
    rfl
  | some p =>
    rw [popUsed_of_scan hscan, hfollow]
    rfl

/-- `pop_used` of the token at `last_seen_used`, when nothing was popped out of order and the
table holds a chain of distinct slots at the token: the chain goes back to the free deque and
`last_seen_used` moves on by one, the in-order pop of a driver that waits for each request. -/
theorem popUsed_front_chain {q : VirtIoQueue SIZE} {id : UInt16} {chain : List ℕ}
    (hne : q.lastSeenUsed ≠ q.usedRing.idx) (hmatch : q.usedMatches id q.lastSeenUsed = true)
    (hpoped : q.popedUsed = ∅)
    (hchain : LinkedChain.IsChain SIZE (chainLink SIZE q.descriptorTable) id.toNat chain)
    (hnodup : chain.Nodup) :
    q.popUsed id = some (.ok (q.usedRing.ring (q.lastSeenUsed.toNat % SIZE)).len, { q with
      availDescIndex := q.availDescIndex ++ chain.map Nat.toUInt16
      popedUsed := ∅
      lastSeenUsed := q.lastSeenUsed + 1
      availRing := { q.availRing with usedEvent := q.lastSeenUsed + 1 } }) := by
  rw [popUsed_of_isChain (scan_of_usedMatches_last hne hmatch) hchain hnodup]
  simp [popped, hpoped, advanceLastSeen]

/-- `pop_used` of the token at `last_seen_used`, when nothing was popped out of order and the
token's descriptor ends its chain: the token goes back to the free deque and `last_seen_used`
moves on by one, the in-order pop of a driver that posts single buffers. -/
theorem popUsed_front {q : VirtIoQueue SIZE} {id : UInt16} (hne : q.lastSeenUsed ≠ q.usedRing.idx)
    (hmatch : q.usedMatches id q.lastSeenUsed = true) (hpoped : q.popedUsed = ∅)
    (hid : id.toNat < SIZE) (hlast : (q.descriptorTable id.toNat).hasNext = false) :
    q.popUsed id = some (.ok (q.usedRing.ring (q.lastSeenUsed.toNat % SIZE)).len, { q with
      availDescIndex := q.availDescIndex ++ [id]
      popedUsed := ∅
      lastSeenUsed := q.lastSeenUsed + 1
      availRing := { q.availRing with usedEvent := q.lastSeenUsed + 1 } }) := by
  have hchain : LinkedChain.IsChain SIZE (chainLink SIZE q.descriptorTable) id.toNat [id.toNat] :=
    .last hid (by simp [chainLink, hlast])
  rw [popUsed_front_chain hne hmatch hpoped hchain (List.nodup_singleton _)]
  simp [Nat.toUInt16]

theorem map_toUInt16_map_toNat (l : List UInt16) : (l.map UInt16.toNat).map Nat.toUInt16 = l := by
  simp [Function.comp_def, Nat.toUInt16]

/-- `add` refuses a chain longer than the free deque and leaves everything as it was; otherwise it
returns `F[n - 1]`, removes `F[0 .. n)` from the front of the deque, stores buffer `i` in slot
`F[n - 1 - i]` linked to `F[n - 2 - i]` and publishes the head on the available ring.  A later
successful `pop_used` of that head, while those slots are untouched, appends exactly
`F[n - 1], …, F[0]` to the back of the free deque. -/
theorem add_popUsed_chain {q : VirtIoQueue SIZE} {data : List Descriptor}
    (hshape : ChainShape data) (hnodup : q.availDescIndex.Nodup)
    (hlt : ∀ x ∈ q.availDescIndex, x.toNat < SIZE) :
    (q.availDescIndex.length < data.length → q.add data = some (.error .queueFull, q)) ∧
    ∀ hle : data.length ≤ q.availDescIndex.length,
      ∃ (head : UInt16) (q' : VirtIoQueue SIZE),
        q.availDescIndex[data.length - 1]? = some head ∧
        q.add data = some (.ok head, q') ∧
        q'.availDescIndex = q.availDescIndex.drop data.length ∧
        (∀ i (hi : i < data.length),
          (q'.descriptorTable q.availDescIndex[data.length - 1 - i].toNat).addr = data[i].addr ∧
          (q'.descriptorTable q.availDescIndex[data.length - 1 - i].toNat).len = data[i].len ∧
          (q'.descriptorTable q.availDescIndex[data.length - 1 - i].toNat).flags =
            data[i].flags) ∧
        (∀ i (hi : i + 1 < data.length),
          (q'.descriptorTable q.availDescIndex[data.length - 1 - i].toNat).next =
            q.availDescIndex[data.length - 2 - i]) ∧
        q'.availRing.ring (q.availRing.idx.toNat % SIZE) = head ∧
        q'.availRing.idx = q.availRing.idx + 1 ∧
        ∀ (q'' q''' : VirtIoQueue SIZE) (len : UInt32),
          (∀ x ∈ q.availDescIndex.take data.length,
            q''.descriptorTable x.toNat = q'.descriptorTable x.toNat) →
          q''.popUsed head = some (.ok len, q''') →
          q'''.availDescIndex = q''.availDescIndex ++ (q.availDescIndex.take data.length).reverse := by
  have hpos : 0 < data.length := List.length_pos_of_ne_nil hshape.1
  refine ⟨add_of_lt hshape.1, fun hle ↦ ?_⟩
  obtain ⟨desc', hadd, hplaced, hframe⟩ := add_of_le hpos hle
    (hnodup.sublist (List.take_sublist _ _)) fun x hx ↦ hlt x (List.mem_of_mem_take hx)
  refine ⟨_, _, List.getElem?_eq_getElem (by omega), hadd, rfl, fun i hi ↦ ?_, fun i hi ↦ ?_,
    by simp, rfl, ?_⟩
  · have hslot := hplaced (data.length - 1 - i) (by omega) (by omega)
    have hback : data.length - 1 - (data.length - 1 - i) = i := by omega
    simp only [hslot, hback, Descriptor.setNext_addr, Descriptor.setNext_len,
      Descriptor.setNext_flags, and_self]
  · have hslot := hplaced (data.length - 1 - i) (by omega) (by omega)
    have hback : data.length - 1 - (data.length - 1 - i) = i := by omega
    have hprev : data.length - 1 - i - 1 = data.length - 2 - i := by omega
    have hturn : data.length - 1 - i ≠ 0 := by omega
    simp only [hslot, hturn, if_false, hprev,
      List.getElem?_eq_getElem (show data.length - 2 - i < q.availDescIndex.length by omega),
      Descriptor.setNext_some_next]
  · intro q'' q''' len hsame hpop
    obtain ⟨p, chain, -, hfollow, -, rfl⟩ := popUsed_ok_cases hpop
    obtain ⟨hchain, hnodup'⟩ := placed_chain hshape hpos hle
      (hnodup.sublist (List.take_sublist _ _)) (fun x hx ↦ hlt x (List.mem_of_mem_take hx)) hplaced
    have hchain'' : LinkedChain.IsChain SIZE (chainLink SIZE q''.descriptorTable)
        q.availDescIndex[data.length - 1].toNat
        ((q.availDescIndex.take data.length).reverse.map UInt16.toNat) := by
      refine hchain.frame fun k hk ↦ ?_
      obtain ⟨x, hx, rfl⟩ := List.mem_map.mp hk
      have hx' := List.mem_reverse.mp hx
      have hmod : x.toNat % SIZE = x.toNat := Nat.mod_eq_of_lt (hlt x (List.mem_of_mem_take hx'))
      simp only [chainLink, hmod, hsame x hx']
    rw [LinkedChain.follow_size_of_isChain hchain'' hnodup'] at hfollow
    cases hfollow
    simp only [popped_availDescIndex, map_toUInt16_map_toNat]

end VirtIoQueue

end SafeVirtio
