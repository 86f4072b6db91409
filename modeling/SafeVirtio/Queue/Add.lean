import SafeVirtio.Queue.Basic

/-!
# What `add` writes

`add` takes the buffers last to first and gives each one the next id from the front of the free
deque, so with free deque `F` and `n` buffers the `j`-th buffer from the end lands in slot
`F[j]`, linked to `F[j - 1]`, and the head is `F[n - 1]`, the last id taken.  `fill_spec` says
this of the loop for every deque whose first `n` ids are distinct slots of the table;
`add_of_le` and `add_of_lt` lift it to the whole function, and `add_isChain` reads the chain the
device will walk back off the table.
-/

namespace SafeVirtio

@[simp]
theorem Descriptor.setNext_addr (d : Descriptor) (last : Option UInt16) :
    (d.setNext last).addr = d.addr := by
  cases last <;> rfl

@[simp]
theorem Descriptor.setNext_len (d : Descriptor) (last : Option UInt16) :
    (d.setNext last).len = d.len := by
  cases last <;> rfl

@[simp]
theorem Descriptor.setNext_flags (d : Descriptor) (last : Option UInt16) :
    (d.setNext last).flags = d.flags := by
  cases last <;> rfl

@[simp]
theorem Descriptor.setNext_hasNext (d : Descriptor) (last : Option UInt16) :
    (d.setNext last).hasNext = d.hasNext := by
  simp [Descriptor.hasNext]

@[simp]
theorem Descriptor.setNext_some_next (d : Descriptor) (nex : UInt16) :
    (d.setNext (some nex)).next = nex := rfl

@[simp]
theorem Descriptor.new_hasNext (hal : Hal) (vaddr : ℕ) (len : UInt32) (flags : UInt16) :
    (Descriptor.new hal vaddr len flags).hasNext = (flags &&& DescFlag.NEXT != 0) := rfl

/-- The shape every driver of the crate passes to `add`: a non-empty list in which every
buffer but the last carries `DescFlag::NEXT` and the last does not. -/
def ChainShape (data : List Descriptor) : Prop :=
  data ≠ [] ∧ ∀ i (hi : i < data.length), data[i].hasNext = decide (i + 1 < data.length)

instance (data : List Descriptor) : Decidable (ChainShape data) :=
  inferInstanceAs (Decidable (data ≠ [] ∧
    ∀ i (hi : i < data.length), data[i].hasNext = decide (i + 1 < data.length)))

theorem chainShape_single {d : Descriptor} (h : d.hasNext = false) : ChainShape [d] :=
  ⟨List.cons_ne_nil _ _, fun i hi ↦ by
    obtain rfl : i = 0 := by simpa using hi
    simpa using h⟩

theorem ChainShape.cons {d : Descriptor} {data : List Descriptor} (hd : d.hasNext = true)
    (h : ChainShape data) : ChainShape (d :: data) := by
  refine ⟨List.cons_ne_nil _ _, fun i hi ↦ ?_⟩
  cases i with
  | zero => simpa [List.length_pos_of_ne_nil h.1] using hd
  | succ i => simpa using h.2 i (by simpa using hi)

namespace VirtIoQueue

variable {SIZE : ℕ}

/-- The fresh deque holds the ids `0 .. SIZE` in order; they fit in `u16` because the
constructor has refused every larger `SIZE`. -/
theorem init_availDescIndex_toNat {SIZE : ℕ} (hsize : SIZE ≤ 2 ^ 16) (queueIdx : UInt16) :
    (init SIZE queueIdx).availDescIndex.map UInt16.toNat = List.range SIZE := by
  rw [init, List.map_map]
  conv_rhs => rw [← List.map_id (List.range SIZE)]
  apply List.map_congr_left
  intro k hk
  have hk' : k < 2 ^ 16 := lt_of_lt_of_le (List.mem_range.mp hk) hsize
  simp only [Function.comp_apply, Nat.toUInt16, UInt16.toNat_ofNat', id_eq]
  exact Nat.mod_eq_of_lt hk'

theorem init_availDescIndex_nodup {SIZE : ℕ} (hsize : SIZE ≤ 2 ^ 16) (queueIdx : UInt16) :
    (init SIZE queueIdx).availDescIndex.Nodup := by
  have h := List.nodup_range (n := SIZE)
  rw [← init_availDescIndex_toNat hsize queueIdx] at h
  exact h.of_map _

theorem init_availDescIndex_lt {SIZE : ℕ} (hsize : SIZE ≤ 2 ^ 16) (queueIdx : UInt16) :
    ∀ x ∈ (init SIZE queueIdx).availDescIndex, x.toNat < SIZE := by
  intro x hx
  have hmem := List.mem_map_of_mem (f := UInt16.toNat) hx
  rw [init_availDescIndex_toNat hsize queueIdx] at hmem
  exact List.mem_range.mp hmem

theorem getLast?_cons_or {α : Type} (a : α) (l : List α) (x : Option α) :
    (a :: l).getLast?.or x = l.getLast?.or (some a) := by
  cases l with
  | nil => rfl
  | cons b l => simp [List.getLast?_cons]

/-- The loop of `add` places `data[j]` in slot `F[j]`, linked to the slot placed before it, and
leaves every other slot alone. -/
theorem fill_spec : ∀ (data : List Descriptor) (desc : ℕ → Descriptor) (F : List UInt16)
    (last : Option UInt16), data.length ≤ F.length → (F.take data.length).Nodup →
    (∀ x ∈ F.take data.length, x.toNat < SIZE) →
    ∃ desc', fill SIZE data desc F last =
        some (desc', F.drop data.length, (F.take data.length).getLast?.or last) ∧
      (∀ j (hj : j < data.length) (hjF : j < F.length),
        desc' F[j].toNat = data[j].setNext (if j = 0 then last else F[j - 1]?)) ∧
      (∀ k, (∀ x ∈ F.take data.length, k ≠ x.toNat) → desc' k = desc k)
  | [], desc, F, last, _, _, _ => ⟨desc, by simp [fill], by simp, fun _ _ ↦ rfl⟩
  | d :: data, desc, F, last, hlen, hnodup, hlt => by
    cases F with
    | nil => simp at hlen
    | cons id F =>
      simp only [List.length_cons, List.take_succ_cons, List.nodup_cons, List.mem_cons,
        forall_eq_or_imp] at hlen hnodup hlt
      have hid : id.toNat % SIZE = id.toNat := Nat.mod_eq_of_lt hlt.1
      obtain ⟨desc', hfill, hplaced, hframe⟩ :=
        fill_spec data (Function.update desc (id.toNat % SIZE) (d.setNext last)) F (some id)
          (by omega) hnodup.2 hlt.2
      refine ⟨desc', ?_, ?_, ?_⟩
      · rw [fill, hfill, List.length_cons, List.drop_succ_cons, List.take_succ_cons,
          getLast?_cons_or]
      · intro j hj hjF
        cases j with
        | zero =>
          have hout : ∀ x ∈ F.take data.length, id.toNat ≠ x.toNat := by
            intro x hx heq
            exact hnodup.1 (UInt16.toNat_inj.mp heq ▸ hx)
          simp [hframe _ hout, hid]
        | succ j =>
          simp only [List.length_cons] at hj hjF
          simp only [List.getElem_cons_succ, hplaced j (by omega) (by omega)]
          cases j <;> simp
      · intro k hk
        simp only [List.length_cons, List.take_succ_cons, List.mem_cons, forall_eq_or_imp] at hk
        rw [hframe k hk.2, Function.update_of_ne (by rw [hid]; exact hk.1)]

theorem add_of_lt {q : VirtIoQueue SIZE} {data : List Descriptor} (hne : data ≠ [])
    (h : q.availDescIndex.length < data.length) : q.add data = some (.error .queueFull, q) := by
  have hlen : data.length ≠ 0 := by simpa using hne
  simp [add, hlen, h]

theorem add_error_cases {q q' : VirtIoQueue SIZE} {data : List Descriptor} {e : VirtIoError}
    (h : q.add data = some (.error e, q')) :
    e = .queueFull ∧ q' = q ∧ q.availDescIndex.length < data.length := by
  unfold add at h
  split_ifs at h with hzero hlt
  · cases h
    exact ⟨rfl, rfl, hlt⟩
  · split at h <;> simp [AvailRing.push] at h

/-- `add` writes only the table, the free deque and the available ring: the used ring and the
driver's record of it are as they were. -/
theorem add_leaves_used {q q' : VirtIoQueue SIZE} {data : List Descriptor}
    {r : VirtIoResult UInt16} (h : q.add data = some (r, q')) :
    q'.usedRing = q.usedRing ∧ q'.lastSeenUsed = q.lastSeenUsed ∧ q'.popedUsed = q.popedUsed := by
  unfold add at h
  split_ifs at h
  · cases h
    exact ⟨rfl, rfl, rfl⟩
  · split at h
    · cases h
    · cases h
    · simp only [AvailRing.push, Option.some.injEq, Prod.mk.injEq] at h
      obtain ⟨-, rfl⟩ := h
      exact ⟨rfl, rfl, rfl⟩

theorem le_of_add_ok {q q' : VirtIoQueue SIZE} {data : List Descriptor} {token : UInt16}
    (hne : data ≠ []) (h : q.add data = some (.ok token, q')) :
    data.length ≤ q.availDescIndex.length := by
  by_contra hover
  rw [add_of_lt hne (by omega)] at h
  cases h

/-- `add` on a deque whose first ids are distinct slots: the buffers are placed from the back,
the ids taken leave the front of the deque and the head is published on the available ring. -/
theorem add_of_le {q : VirtIoQueue SIZE} {data : List Descriptor} (hpos : 0 < data.length)
    (hle : data.length ≤ q.availDescIndex.length)
    (hnodup : (q.availDescIndex.take data.length).Nodup)
    (hlt : ∀ x ∈ q.availDescIndex.take data.length, x.toNat < SIZE) :
    ∃ desc' : ℕ → Descriptor,
      q.add data = some (.ok q.availDescIndex[data.length - 1], { q with
        descriptorTable := desc'
        availDescIndex := q.availDescIndex.drop data.length
        availRing := { q.availRing with
          ring := Function.update q.availRing.ring (q.availRing.idx.toNat % SIZE)
            q.availDescIndex[data.length - 1]
          idx := q.availRing.idx + 1 } }) ∧
      (∀ j (hj : j < data.length) (hjF : j < q.availDescIndex.length),
        desc' q.availDescIndex[j].toNat =
          data[data.length - 1 - j].setNext (if j = 0 then none else q.availDescIndex[j - 1]?)) ∧
      (∀ k, (∀ x ∈ q.availDescIndex.take data.length, k ≠ x.toNat) →
        desc' k = q.descriptorTable k) := by
  have hlen : data.length ≠ 0 := by omega
  obtain ⟨desc', hfill, hplaced, hframe⟩ :=
    fill_spec data.reverse q.descriptorTable q.availDescIndex none
      (by simpa using hle) (by simpa using hnodup) (by simpa using hlt)
  have hhead : (q.availDescIndex.take data.length).getLast?.or none =
      some q.availDescIndex[data.length - 1] := by
    rw [List.getLast?_take]
    simp [hlen, List.getElem?_eq_getElem (show data.length - 1 < q.availDescIndex.length by omega)]
  refine ⟨desc', ?_, fun j hj hjF ↦ ?_, fun k hk ↦ hframe k (by simpa using hk)⟩
  · rw [List.length_reverse] at hfill
    simp only [add, hlen, if_false, Nat.not_lt.mpr hle, hfill, hhead, AvailRing.push]
  · have hj' := hplaced j (by simpa using hj) hjF
    rwa [List.getElem_reverse] at hj'

/-- `add` of one buffer takes the id at the front of the free deque, stores the buffer in its
slot and publishes it: the shape of every request of the input and network drivers. -/
theorem add_single {q : VirtIoQueue SIZE} {d : Descriptor} {t : UInt16} {rest : List UInt16}
    (hfree : q.availDescIndex = t :: rest) :
    q.add [d] = some (.ok t, { q with
      descriptorTable := Function.update q.descriptorTable (t.toNat % SIZE) d
      availDescIndex := rest
      availRing := { q.availRing with
        ring := Function.update q.availRing.ring (q.availRing.idx.toNat % SIZE) t
        idx := q.availRing.idx + 1 } }) := by
  simp [add, hfree, fill, AvailRing.push, Descriptor.setNext]

/-- The queue after the buffers `slot 0 .. slot (i - 1)` were added one at a time to a fresh
one: buffer `j` is posted under token `j`.  Drivers that keep one buffer per descriptor build
their queues this way. -/
def postedUpTo (SIZE : ℕ) (slot : ℕ → Descriptor) (queueIdx : UInt16) (i : ℕ) :
    VirtIoQueue SIZE :=
  { init SIZE queueIdx with
    descriptorTable := fun j ↦ if j < i then slot j else default
    availRing :=
      { flags := 0, idx := i.toUInt16, ring := (fun j ↦ if j < i then j.toUInt16 else 0),
        usedEvent := 0 }
    availDescIndex := (List.range' i (SIZE - i)).map Nat.toUInt16 }

theorem update_ite_lt {β : Type} (f : ℕ → β) (d : β) (i : ℕ) :
    Function.update (fun j ↦ if j < i then f j else d) i (f i) =
      fun j ↦ if j < i + 1 then f j else d := by
  funext j
  by_cases hj : j = i
  · subst hj
    simp
  · rw [Function.update_of_ne hj]
    by_cases hji : j < i
    · simp [hji, show j < i + 1 by omega]
    · simp [hji, show ¬ j < i + 1 by omega]

theorem postedUpTo_zero (slot : ℕ → Descriptor) (queueIdx : UInt16) :
    postedUpTo SIZE slot queueIdx 0 = init SIZE queueIdx := by
  simp [postedUpTo, init, List.range_eq_range']

theorem postedUpTo_add {slot : ℕ → Descriptor} {queueIdx : UInt16} {i : ℕ}
    (hsize : SIZE ≤ 2 ^ 16) (hi : i < SIZE) :
    (postedUpTo SIZE slot queueIdx i).add [slot i] =
      some (.ok i.toUInt16, postedUpTo SIZE slot queueIdx (i + 1)) := by
  have hfree : (postedUpTo SIZE slot queueIdx i).availDescIndex =
      i.toUInt16 :: (List.range' (i + 1) (SIZE - (i + 1))).map Nat.toUInt16 := by
    rw [postedUpTo, show SIZE - i = SIZE - (i + 1) + 1 by omega, List.range'_succ,
      List.map_cons]
  have hslot : i.toUInt16.toNat % SIZE = i := by
    have hwrap : i % 2 ^ 16 = i := Nat.mod_eq_of_lt (by omega)
    simp only [Nat.toUInt16, UInt16.toNat_ofNat', hwrap]
    exact Nat.mod_eq_of_lt hi
  rw [add_single hfree]
  simp only [postedUpTo, hslot, update_ite_lt, Option.some.injEq, Prod.mk.injEq, true_and]
  congr 2
  simp [Nat.toUInt16, UInt16.ofNat_add]

/-- The slots `add` fills form one chain: from each placed slot the walk runs back through the
slots taken before it and stops at the first one, which holds the last buffer. -/
theorem placed_isChain {desc' : ℕ → Descriptor} {F : List UInt16} {data : List Descriptor}
    (hshape : ChainShape data) (hle : data.length ≤ F.length)
    (hlt : ∀ x ∈ F.take data.length, x.toNat < SIZE)
    (hplaced : ∀ j (hj : j < data.length) (hjF : j < F.length),
      desc' F[j].toNat = data[data.length - 1 - j].setNext (if j = 0 then none else F[j - 1]?)) :
    ∀ j (hj : j < data.length) (hjF : j < F.length),
      LinkedChain.IsChain SIZE (chainLink SIZE desc') F[j].toNat
        ((F.take (j + 1)).reverse.map UInt16.toNat) := by
  have hslot : ∀ j (hj : j < data.length) (hjF : j < F.length), F[j].toNat < SIZE :=
    fun j hj hjF ↦ hlt _ (List.mem_iff_getElem.mpr ⟨j, by simp; omega, by simp⟩)
  intro j
  induction j with
  | zero =>
    intro hj hjF
    have hlast : (desc' F[0].toNat).hasNext = false := by
      rw [hplaced 0 hj hjF, Descriptor.setNext_hasNext, hshape.2]
      simp
      omega
    have hlink : chainLink SIZE desc' F[0].toNat = none := by simp [chainLink, hlast]
    have hone : (F.take (0 + 1)).reverse.map UInt16.toNat = [F[0].toNat] := by
      cases F with
      | nil => simp at hjF
      | cons a F => simp
    rw [hone]
    exact LinkedChain.IsChain.last (hslot 0 hj hjF) hlink
  | succ j ih =>
    intro hj hjF
    have hdesc := hplaced (j + 1) hj hjF
    have hnext : (desc' F[j + 1].toNat).hasNext = true := by
      rw [hdesc, Descriptor.setNext_hasNext, hshape.2]
      simp
      omega
    have hlink : chainLink SIZE desc' F[j + 1].toNat = some F[j].toNat := by
      rw [chainLink, if_pos hnext, Nat.mod_eq_of_lt (hslot _ hj hjF), hdesc]
      simp [List.getElem?_eq_getElem (show j < F.length by omega)]
    have hsplit : (F.take (j + 1 + 1)).reverse.map UInt16.toNat =
        F[j + 1].toNat :: (F.take (j + 1)).reverse.map UInt16.toNat := by
      rw [List.take_add_one, List.getElem?_eq_getElem hjF]
      simp only [Option.toList_some, List.reverse_append, List.map_append]
      rfl
    rw [hsplit]
    exact LinkedChain.IsChain.cons (hslot _ hj hjF) hlink (ih (by omega) (by omega))

/-- The whole chain `add` placed, walked from its head, is the ids it took, last taken first;
they are distinct, so the walk of `pop_used` returns exactly them. -/
theorem placed_chain {desc' : ℕ → Descriptor} {F : List UInt16} {data : List Descriptor}
    (hshape : ChainShape data) (hpos : 0 < data.length) (hle : data.length ≤ F.length)
    (hnodup : (F.take data.length).Nodup) (hlt : ∀ x ∈ F.take data.length, x.toNat < SIZE)
    (hplaced : ∀ j (hj : j < data.length) (hjF : j < F.length),
      desc' F[j].toNat = data[data.length - 1 - j].setNext (if j = 0 then none else F[j - 1]?)) :
    LinkedChain.IsChain SIZE (chainLink SIZE desc') F[data.length - 1].toNat
        ((F.take data.length).reverse.map UInt16.toNat) ∧
      ((F.take data.length).reverse.map UInt16.toNat).Nodup := by
  have hchain := placed_isChain hshape hle hlt hplaced (data.length - 1) (by omega) (by omega)
  rw [Nat.sub_add_cancel hpos] at hchain
  exact ⟨hchain, (List.nodup_reverse.mpr hnodup).map fun _ _ h ↦ UInt16.toNat_inj.mp h⟩

/-- Walked from its head, the chain `add` placed holds the buffers in their order, each with its
address and length. -/
theorem placed_addr_len {desc' : ℕ → Descriptor} {F : List UInt16} {data : List Descriptor}
    (hle : data.length ≤ F.length)
    (hplaced : ∀ j (hj : j < data.length) (hjF : j < F.length),
      desc' F[j].toNat = data[data.length - 1 - j].setNext (if j = 0 then none else F[j - 1]?)) :
    (((F.take data.length).reverse.map UInt16.toNat).map desc').map (fun d ↦ (d.addr, d.len)) =
      data.map fun d ↦ (d.addr, d.len) := by
  apply List.ext_getElem (by simp; omega)
  intro i hi hi'
  have hi'' : i < data.length := by simpa using hi'
  have hslot := hplaced (data.length - 1 - i) (by omega) (by omega)
  have hback : data.length - 1 - (data.length - 1 - i) = i := by omega
  simp only [List.getElem_map, List.getElem_reverse, List.getElem_take, List.length_take,
    Nat.min_eq_left hle, hslot, hback, Descriptor.setNext_addr, Descriptor.setNext_len]

end VirtIoQueue

end SafeVirtio
