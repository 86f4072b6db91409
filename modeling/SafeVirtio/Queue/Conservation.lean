import SafeVirtio.Queue.Device

/-!
# Descriptor conservation

Every descriptor of a queue is, at each moment, in exactly one place: in the free deque, or in
the chain of exactly one request the driver has submitted and not yet popped.  The proof keeps
this as one permutation: the free ids followed by the chains of the outstanding tokens are a
rearrangement of `0 .. SIZE` (`Partition`).  Distinctness, bounds, disjointness and coverage all
follow from that one fact, and so does termination of the walk in `pop_used`: a chain of distinct
slots below `SIZE` is walked in full within the walk's `SIZE` steps.

`add` moves the first `n` free ids into a new chain and writes only their slots, so every other
chain survives; `pop_used` of an outstanding token returns exactly its chain to the deque; the
device writes only the used ring.  The invariant is therefore kept by every event, whatever the
device does with the used ring and whatever `can_pop` answers, which is why it holds although
`pop_used` may pop a request whose completion it has misread (see the end of the module).
-/

namespace SafeVirtio

namespace QueueSystem

variable {SIZE : ℕ}

/-- The chain the walk of `pop_used` meets from a token, or `[]` when the walk has no result. -/
def chainOf (SIZE : ℕ) (desc : ℕ → Descriptor) (t : UInt16) : List ℕ :=
  (LinkedChain.follow SIZE (VirtIoQueue.chainLink SIZE desc) SIZE t.toNat).getD []

/-- The free ids followed by the chains of the outstanding tokens. -/
def slots (s : QueueSystem SIZE) : List ℕ :=
  s.queue.availDescIndex.map UInt16.toNat ++ s.tokens.flatMap (chainOf SIZE s.queue.descriptorTable)

/-- Every outstanding token starts a chain of the table, and the free deque and those chains hold
every slot of the table exactly once. -/
structure Partition (s : QueueSystem SIZE) : Prop where
  isChain : ∀ t ∈ s.tokens,
    LinkedChain.IsChain SIZE (VirtIoQueue.chainLink SIZE s.queue.descriptorTable) t.toNat
      (chainOf SIZE s.queue.descriptorTable t)
  perm : s.slots.Perm (List.range SIZE)

/-! ## Consequences of the partition -/

namespace Partition

variable {s : QueueSystem SIZE} (h : Partition s)
include h

theorem slots_nodup : s.slots.Nodup := h.perm.nodup_iff.mpr List.nodup_range

theorem slots_lt {k : ℕ} (hk : k ∈ s.slots) : k < SIZE := List.mem_range.mp (h.perm.mem_iff.mp hk)

theorem free_nodup : s.queue.availDescIndex.Nodup :=
  (List.nodup_append.mp h.slots_nodup).1.of_map _

theorem free_lt : ∀ x ∈ s.queue.availDescIndex, x.toNat < SIZE :=
  fun _ hx ↦ h.slots_lt (List.mem_append_left _ (List.mem_map_of_mem hx))

theorem chain_lt {t : UInt16} (ht : t ∈ s.tokens) :
    ∀ k ∈ chainOf SIZE s.queue.descriptorTable t, k < SIZE :=
  fun _ hk ↦ h.slots_lt (List.mem_append_right _ (List.mem_flatMap.mpr ⟨t, ht, hk⟩))

theorem chains_nodup : (s.tokens.flatMap (chainOf SIZE s.queue.descriptorTable)).Nodup :=
  (List.nodup_append.mp h.slots_nodup).2.1

theorem chain_nodup {t : UInt16} (ht : t ∈ s.tokens) :
    (chainOf SIZE s.queue.descriptorTable t).Nodup :=
  (List.nodup_flatMap.mp h.chains_nodup).1 t ht

theorem chain_not_free {t : UInt16} (ht : t ∈ s.tokens) {k : ℕ}
    (hk : k ∈ chainOf SIZE s.queue.descriptorTable t) :
    k ∉ s.queue.availDescIndex.map UInt16.toNat := fun hfree ↦
  (List.nodup_append.mp h.slots_nodup).2.2 k hfree k (List.mem_flatMap.mpr ⟨t, ht, hk⟩) rfl

theorem follow_eq {t : UInt16} (ht : t ∈ s.tokens) :
    LinkedChain.follow SIZE (VirtIoQueue.chainLink SIZE s.queue.descriptorTable) SIZE t.toNat =
      some (chainOf SIZE s.queue.descriptorTable t) :=
  LinkedChain.follow_size_of_isChain (h.isChain t ht) (h.chain_nodup ht)

theorem chains_disjoint :
    (s.tokens.map (chainOf SIZE s.queue.descriptorTable)).Pairwise List.Disjoint :=
  List.pairwise_map.mpr (List.nodup_flatMap.mp h.chains_nodup).2

theorem tokens_nodup : s.tokens.Nodup := by
  refine (List.nodup_flatMap.mp h.chains_nodup).2.imp_of_mem fun {a b} ha _ hab heq ↦ ?_
  subst heq
  exact hab (h.isChain a ha).head_mem (h.isChain a ha).head_mem

theorem cover {k : ℕ} (hk : k < SIZE) :
    k ∈ s.queue.availDescIndex.map UInt16.toNat ∨
      ∃ t ∈ s.tokens, k ∈ chainOf SIZE s.queue.descriptorTable t := by
  have hslot : k ∈ s.slots := h.perm.mem_iff.mpr (List.mem_range.mpr hk)
  rcases List.mem_append.mp hslot with hfree | hchain
  · exact .inl hfree
  · exact .inr (List.mem_flatMap.mp hchain)

end Partition

theorem Partition.of_same {s s' : QueueSystem SIZE} (h : Partition s)
    (htable : s'.queue.descriptorTable = s.queue.descriptorTable)
    (hfree : s'.queue.availDescIndex = s.queue.availDescIndex) (htokens : s'.tokens = s.tokens) :
    Partition s' where
  isChain := by rw [htable, htokens]; exact h.isChain
  perm := by rw [slots, htable, hfree, htokens]; exact h.perm

/-! ## Every event keeps the partition -/

theorem partition_init (hsize : SIZE ≤ 2 ^ 16) (queueIdx : UInt16) :
    Partition (init SIZE queueIdx) where
  isChain := by simp [init]
  perm := by simp [slots, init, VirtIoQueue.init_availDescIndex_toNat hsize]

/-- A table change outside a chain of distinct slots below `SIZE` changes neither the chain nor
what the walk returns for it. -/
theorem chainOf_of_frame {desc desc' : ℕ → Descriptor} {t : UInt16} {c : List ℕ}
    (hchain : LinkedChain.IsChain SIZE (VirtIoQueue.chainLink SIZE desc) t.toNat c) (hnodup : c.Nodup)
    (hsame : ∀ k ∈ c, desc' k = desc k) :
    LinkedChain.IsChain SIZE (VirtIoQueue.chainLink SIZE desc') t.toNat c ∧ chainOf SIZE desc' t = c := by
  have hchain' : LinkedChain.IsChain SIZE (VirtIoQueue.chainLink SIZE desc') t.toNat c := by
    refine hchain.frame fun k hk ↦ ?_
    have hmod : k % SIZE = k := Nat.mod_eq_of_lt (hchain.lt_size k hk)
    simp only [VirtIoQueue.chainLink, hmod, hsame k hk]
  refine ⟨hchain', ?_⟩
  rw [chainOf, LinkedChain.follow_size_of_isChain hchain' hnodup, Option.getD_some]

theorem partition_add {s s' : QueueSystem SIZE} {data : List Descriptor} (h : Partition s)
    (hstep : s.step (.add data) = some s') : Partition s' := by
  obtain ⟨hshape, hok | ⟨e, q, hadd, rfl⟩⟩ := step_add hstep
  · obtain ⟨token, q, hadd, rfl⟩ := hok
    have hpos : 0 < data.length := List.length_pos_of_ne_nil hshape.1
    have hle : data.length ≤ s.queue.availDescIndex.length :=
      VirtIoQueue.le_of_add_ok hshape.1 hadd
    have htake_lt := fun x (hx : x ∈ s.queue.availDescIndex.take data.length) ↦
      h.free_lt x (List.mem_of_mem_take hx)
    obtain ⟨desc', hadd', hplaced, hframe⟩ := VirtIoQueue.add_of_le hpos hle
      (h.free_nodup.sublist (List.take_sublist _ _)) htake_lt
    rw [hadd'] at hadd
    cases hadd
    have hold : ∀ t ∈ s.tokens,
        LinkedChain.IsChain SIZE (VirtIoQueue.chainLink SIZE desc') t.toNat
          (chainOf SIZE s.queue.descriptorTable t) ∧
        chainOf SIZE desc' t = chainOf SIZE s.queue.descriptorTable t := by
      intro t ht
      refine chainOf_of_frame (h.isChain t ht) (h.chain_nodup ht) fun k hk ↦ hframe k ?_
      intro x hx hkx
      exact h.chain_not_free ht hk (hkx ▸ List.mem_map_of_mem (List.mem_of_mem_take hx))
    obtain ⟨hnew, hnew_nodup⟩ := VirtIoQueue.placed_chain hshape hpos hle
      (h.free_nodup.sublist (List.take_sublist _ _)) htake_lt hplaced
    have hnew_chain : chainOf SIZE desc' s.queue.availDescIndex[data.length - 1] =
        (s.queue.availDescIndex.take data.length).reverse.map UInt16.toNat := by
      rw [chainOf, LinkedChain.follow_size_of_isChain hnew hnew_nodup, Option.getD_some]
    refine ⟨fun t ht ↦ ?_, ?_⟩
    · rcases List.mem_append.mp ht with ht | ht
      · simpa only [(hold t ht).2] using (hold t ht).1
      · rw [List.mem_singleton.mp ht, hnew_chain]
        exact hnew
    · have hflat : s.tokens.flatMap (chainOf SIZE desc') =
          s.tokens.flatMap (chainOf SIZE s.queue.descriptorTable) :=
        List.flatMap_congr fun t ht ↦ (hold t ht).2
      have hsplit := List.take_append_drop data.length s.queue.availDescIndex
      refine List.Perm.trans ?_ h.perm
      rw [List.perm_iff_count]
      intro k
      simp only [slots, List.flatMap_append, List.flatMap_singleton, hflat, hnew_chain,
        List.count_append, List.map_reverse, List.count_reverse]
      conv_rhs => rw [← hsplit, List.map_append, List.count_append]
      omega
  · obtain ⟨-, rfl, -⟩ := VirtIoQueue.add_error_cases hadd
    exact h.of_same rfl rfl rfl

theorem map_toNat_map_toUInt16 {c : List ℕ} (hc : ∀ k ∈ c, k < 2 ^ 16) :
    (c.map Nat.toUInt16).map UInt16.toNat = c := by
  rw [List.map_map]
  conv_rhs => rw [← List.map_id c]
  refine List.map_congr_left fun k hk ↦ ?_
  have hk16 := hc k hk
  simp [Nat.toUInt16]
  omega

theorem partition_popUsed (hsize : SIZE ≤ 2 ^ 16) {s s' : QueueSystem SIZE} {token : UInt16}
    (h : Partition s) (hstep : s.step (.popUsed token) = some s') : Partition s' := by
  obtain ⟨hmem, ⟨len, q, hpop, rfl⟩ | ⟨e, q, hpop, rfl⟩⟩ := step_popUsed hstep
  · obtain ⟨p, chain, -, hfollow, -, rfl⟩ := VirtIoQueue.popUsed_ok_cases hpop
    rw [h.follow_eq hmem] at hfollow
    cases hfollow
    refine ⟨fun t ht ↦ h.isChain t (List.mem_of_mem_erase ht), ?_⟩
    refine List.Perm.trans ?_ h.perm
    have hround := map_toNat_map_toUInt16 fun k hk ↦ (h.chain_lt hmem k hk).trans_le hsize
    have herase := (List.perm_cons_erase hmem).flatMap_right (chainOf SIZE s.queue.descriptorTable)
    simp only [slots, VirtIoQueue.popped_availDescIndex, VirtIoQueue.popped_descriptorTable,
      List.map_append, hround, List.append_assoc]
    refine List.Perm.append_left _ ?_
    rw [List.flatMap_cons] at herase
    exact herase.symm
  · obtain ⟨-, rfl⟩ := VirtIoQueue.popUsed_error_cases hpop
    exact h.of_same rfl rfl rfl

theorem partition_step (hsize : SIZE ≤ 2 ^ 16) {s s' : QueueSystem SIZE} {e : QueueEvent}
    (h : Partition s) (hstep : s.step e = some s') : Partition s' := by
  cases e with
  | add data => exact partition_add h hstep
  | popUsed token => exact partition_popUsed hsize h hstep
  | fetch =>
    obtain ⟨d, -, rfl⟩ := step_fetch hstep
    exact h.of_same rfl rfl rfl
  | complete head len =>
    obtain ⟨-, rfl⟩ := step_complete hstep
    exact h.of_same rfl rfl rfl

theorem partition_reachable (hsize : SIZE ≤ 2 ^ 16) {queueIdx : UInt16} {s : QueueSystem SIZE}
    (hs : Reachable SIZE queueIdx s) : Partition s :=
  Reach.Reachable.invariant (by rintro _ rfl; exact partition_init hsize queueIdx)
    (fun _ _ h ⟨_, hstep⟩ ↦ partition_step hsize h hstep) hs

/-! ## Conservation -/

/-- In every state reachable from `VirtIoQueue::new`, whatever the device does: the free deque
holds distinct slots of the table; the outstanding tokens are distinct and each heads a chain,
which is what the walk of `pop_used` returns for it; the chains are pairwise disjoint and
disjoint from the deque, and with it they cover every slot; and `pop_used` of an outstanding
token never panics or hangs. -/
theorem descriptor_conservation (hsize : SIZE ≤ 2 ^ 16) {queueIdx : UInt16}
    {s : QueueSystem SIZE} (hs : Reachable SIZE queueIdx s) :
    s.queue.availDescIndex.Nodup ∧ (∀ x ∈ s.queue.availDescIndex, x.toNat < SIZE) ∧
    s.tokens.Nodup ∧
    (∀ t ∈ s.tokens,
      LinkedChain.IsChain SIZE (VirtIoQueue.chainLink SIZE s.queue.descriptorTable) t.toNat
        (chainOf SIZE s.queue.descriptorTable t) ∧
      LinkedChain.follow SIZE (VirtIoQueue.chainLink SIZE s.queue.descriptorTable) SIZE t.toNat =
        some (chainOf SIZE s.queue.descriptorTable t)) ∧
    (s.tokens.map (chainOf SIZE s.queue.descriptorTable)).Pairwise List.Disjoint ∧
    (∀ t ∈ s.tokens, ∀ k ∈ chainOf SIZE s.queue.descriptorTable t,
      k ∉ s.queue.availDescIndex.map UInt16.toNat) ∧
    (∀ k < SIZE, k ∈ s.queue.availDescIndex.map UInt16.toNat ∨
      ∃ t ∈ s.tokens, k ∈ chainOf SIZE s.queue.descriptorTable t) ∧
    ∀ t ∈ s.tokens, (s.queue.popUsed t).isSome := by
  have h := partition_reachable hsize hs
  refine ⟨h.free_nodup, h.free_lt, h.tokens_nodup, fun t ht ↦ ⟨h.isChain t ht, h.follow_eq ht⟩,
    h.chains_disjoint, fun t ht k hk ↦ h.chain_not_free ht hk, fun k hk ↦ h.cover hk,
    fun t ht ↦ VirtIoQueue.popUsed_isSome_of_follow (h.follow_eq ht)⟩

end QueueSystem

end SafeVirtio
