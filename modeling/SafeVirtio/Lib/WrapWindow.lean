import Mathlib

/-!
# Circular windows of 16-bit ring positions

Split virtqueues index their rings with free-running 16-bit counters that wrap at `2 ^ 16`.
The positions between two counters `start` and `stop` form the window `window start n` with
`n = (stop - start).toNat`: the `n` positions `start, start + 1, …` taken modulo `2 ^ 16`.
A loop that walks such a window with a wrapping counter and stops at the first position
satisfying a test is `scan`; it finds exactly what `List.find?` finds in the window.

Windows shorter than `2 ^ 16` never revisit a position, and they never contain the position
just before their start, which loops use as a "not found" sentinel.  When the ring has a
number of slots dividing `2 ^ 16`, the slot of a position is the slot of its unwrapped offset.
-/

namespace WrapWindow

/-- The `n` positions starting at `start`, counted with 16-bit wrap-around. -/
def window (start : UInt16) (n : ℕ) : List UInt16 :=
  (List.range n).map fun k ↦ start + k.toUInt16

/-- Walk `n` positions from `cur`, returning the first one that satisfies `test`. -/
def scan (test : UInt16 → Bool) : UInt16 → ℕ → Option UInt16
  | _, 0 => none
  | cur, n + 1 => if test cur then some cur else scan test (cur + 1) n

@[simp]
theorem window_zero (start : UInt16) : window start 0 = [] := rfl

@[simp]
theorem length_window (start : UInt16) (n : ℕ) : (window start n).length = n := by
  simp [window]

theorem window_succ (start : UInt16) (n : ℕ) :
    window start (n + 1) = window start n ++ [start + n.toUInt16] := by
  simp [window, List.range_succ]

theorem window_succ_left (start : UInt16) (n : ℕ) :
    window start (n + 1) = start :: window (start + 1) n := by
  simp only [window, List.range_succ_eq_map, List.map_cons, List.map_map]
  congr 1
  · simp
  · apply List.map_congr_left
    intro k _
    have hk : (k + 1).toUInt16 = k.toUInt16 + 1 := by simp [Nat.toUInt16, UInt16.ofNat_add]
    simp only [Function.comp_apply, hk]
    grind

theorem toNat_add_toUInt16 (start : UInt16) (k : ℕ) :
    (start + k.toUInt16).toNat = (start.toNat + k) % 2 ^ 16 := by
  simp [UInt16.toNat_add, Nat.toUInt16, Nat.add_mod]

theorem add_one_add_toUInt16 (start : UInt16) (k : ℕ) :
    start + 1 + k.toUInt16 = start + (k + 1).toUInt16 := by
  simp [Nat.toUInt16, UInt16.ofNat_add]
  grind

theorem add_toUInt16_ne (start : UInt16) {k : ℕ} (h0 : 0 < k) (hk : k < 2 ^ 16) :
    start + k.toUInt16 ≠ start := by
  intro h
  have hmod := congrArg UInt16.toNat h
  rw [toNat_add_toUInt16] at hmod
  have hs := start.toNat_lt
  omega

theorem window_add (start : UInt16) (k m : ℕ) :
    window start (k + m) = window start k ++ window (start + k.toUInt16) m := by
  simp only [window, List.range_add, List.map_append, List.map_map]
  congr 1
  apply List.map_congr_left
  intro x _
  simp only [Function.comp_apply]
  rw [add_assoc]
  congr 1
  simp [Nat.toUInt16, UInt16.ofNat_add]

theorem window_drop (start : UInt16) {k n : ℕ} (hk : k ≤ n) :
    (window start n).drop k = window (start + k.toUInt16) (n - k) := by
  conv_lhs => rw [show n = k + (n - k) by omega, window_add]
  simp

theorem window_take (start : UInt16) {k n : ℕ} (hk : k ≤ n) :
    (window start n).take k = window start k := by
  conv_lhs => rw [show n = k + (n - k) by omega, window_add]
  simp

theorem mem_window {start p : UInt16} {n : ℕ} :
    p ∈ window start n ↔ ∃ k < n, p = start + k.toUInt16 := by
  simp [window, eq_comm]

theorem mem_window_iff {start p : UInt16} {n : ℕ} :
    p ∈ window start n ↔ (p - start).toNat < n := by
  rw [mem_window]
  constructor
  · rintro ⟨k, hk, rfl⟩
    have hsub : (start + k.toUInt16 - start).toNat = k % 2 ^ 16 := by simp
    rw [hsub]
    exact lt_of_le_of_lt (Nat.mod_le _ _) hk
  · intro h
    exact ⟨(p - start).toNat, h, by simp⟩

theorem sub_one_not_mem_window (start : UInt16) {n : ℕ} (hn : n < 2 ^ 16) :
    start - 1 ∉ window start n := by
  rw [mem_window_iff]
  simp only [UInt16.toNat_sub, UInt16.toNat_one]
  have hs := start.toNat_lt
  omega

theorem scan_eq_find? (test : UInt16 → Bool) (start : UInt16) (n : ℕ) :
    scan test start n = (window start n).find? test := by
  induction n generalizing start with
  | zero => rfl
  | succ n ih =>
    rw [window_succ_left, List.find?_cons]
    cases htest : test start <;> simp [scan, htest, ih]

theorem scan_mem {test : UInt16 → Bool} {start p : UInt16} {n : ℕ}
    (h : scan test start n = some p) : p ∈ window start n ∧ test p = true := by
  rw [scan_eq_find?] at h
  exact ⟨List.mem_of_find?_eq_some h, List.find?_some h⟩

theorem scan_isSome_iff {test : UInt16 → Bool} {start : UInt16} {n : ℕ} :
    (scan test start n).isSome ↔ ∃ p ∈ window start n, test p = true := by
  rw [scan_eq_find?, List.find?_isSome]

theorem toNat_add_toUInt16_mod {size : ℕ} (hsize : size ∣ 2 ^ 16) (start : UInt16) (k : ℕ) :
    (start + k.toUInt16).toNat % size = (start.toNat + k) % size := by
  rw [toNat_add_toUInt16, Nat.mod_mod_of_dvd _ hsize]

theorem not_mem_window_of_forall {P : UInt16 → Prop} {start x : UInt16} {k : ℕ}
    (h : ∀ j < k, P (start + j.toUInt16)) (hx : ¬ P x) : x ∉ window start k := by
  rw [mem_window]
  rintro ⟨j, hj, rfl⟩
  exact hx (h j hj)

theorem mem_drop_of_mem {start x : UInt16} {k n : ℕ} (hk : k ≤ n) (hx : x ∈ window start n)
    (hnot : x ∉ window start k) : x ∈ (window start n).drop k := by
  rw [← List.take_append_drop k (window start n), List.mem_append, window_take start hk] at hx
  exact hx.resolve_left hnot

/-- A search of a window whose first `k` positions fail the test, and whose position `k` passes
it if the window is longer, stops at position `k`, the window's end counting as found. -/
theorem find?_window_getD {test : UInt16 → Bool} {start : UInt16} {k n : ℕ} (hk : k ≤ n)
    (hbefore : ∀ j < k, test (start + j.toUInt16) = false)
    (hat : k < n → test (start + k.toUInt16) = true) :
    ((window start n).find? test).getD (start + n.toUInt16) = start + k.toUInt16 := by
  have hnone : (window start k).find? test = none := by
    rw [List.find?_eq_none]
    intro x hx
    obtain ⟨j, hj, rfl⟩ := mem_window.mp hx
    simp [hbefore j hj]
  obtain ⟨m, rfl⟩ := Nat.exists_eq_add_of_le hk
  rw [window_add, List.find?_append, hnone, Option.none_or]
  cases m with
  | zero => simp
  | succ m =>
    rw [window_succ_left, List.find?_cons_of_pos (hat (by omega))]
    rfl

/-! ### The window between two counters -/

theorem add_toNat_sub (start stop : UInt16) : start + (stop - start).toNat.toUInt16 = stop := by
  simp [Nat.toUInt16]

/-- Moving the start counter `k` positions on, `k` at most the window's length, shortens the
window by `k`. -/
theorem toNat_sub_add_toUInt16 {start stop : UInt16} {k : ℕ} (hk : k ≤ (stop - start).toNat) :
    (stop - (start + k.toUInt16)).toNat = (stop - start).toNat - k := by
  have hsub : stop - (start + k.toUInt16) = (stop - start) - k.toUInt16 := by grind
  have hlt := (stop - start).toNat_lt
  rw [hsub, UInt16.toNat_sub_of_le]
  · simp [Nat.toUInt16]
    omega
  · rw [UInt16.le_iff_toNat_le]
    simp [Nat.toUInt16]
    omega

/-- Bumping the end counter appends its old value, while the window stays shorter than a turn. -/
theorem window_sub_succ_right {start stop : UInt16} (h : (stop - start).toNat + 1 < 2 ^ 16) :
    window start (stop + 1 - start).toNat = window start (stop - start).toNat ++ [stop] := by
  have hlen : (stop + 1 - start).toNat = (stop - start).toNat + 1 := by
    rw [show stop + 1 - start = stop - start + 1 by grind, UInt16.toNat_add, UInt16.toNat_one]
    exact Nat.mod_eq_of_lt h
  rw [hlen, window_succ, add_toNat_sub]

theorem window_sub_of_ne {start stop : UInt16} (h : start ≠ stop) :
    window start (stop - start).toNat = start :: window (start + 1) (stop - (start + 1)).toNat := by
  have hne : (stop - start).toNat ≠ 0 := by
    rw [Ne, ← UInt16.toNat_zero, UInt16.toNat_inj, sub_eq_zero]
    exact Ne.symm h
  have hlen : (stop - start).toNat = (stop - (start + 1)).toNat + 1 := by
    rw [show stop - start = stop - (start + 1) + 1 by grind, UInt16.toNat_add, UInt16.toNat_one]
    rw [show stop - start = stop - (start + 1) + 1 by grind, UInt16.toNat_add,
      UInt16.toNat_one] at hne
    have hlt := (stop - (start + 1)).toNat_lt
    omega
  rw [hlen, window_succ_left]

/-- On a ring of `size` slots, `size ∣ 2 ^ 16`, the position right after a window shorter than
`size` has a slot of its own: writing it leaves every slot of the window alone. -/
theorem slot_ne_of_mem_window {size : ℕ} (hsize : size ∣ 2 ^ 16) {start p : UInt16} {n : ℕ}
    (hn : n < size) (hp : p ∈ window start n) :
    p.toNat % size ≠ (start + n.toUInt16).toNat % size := by
  obtain ⟨k, hk, rfl⟩ := mem_window.mp hp
  rw [toNat_add_toUInt16_mod hsize, toNat_add_toUInt16_mod hsize]
  intro heq
  have hdvd : size ∣ start.toNat + n - (start.toNat + k) := (Nat.modEq_iff_dvd' (by omega)).mp heq
  have hle := Nat.le_of_dvd (by omega) hdvd
  omega

end WrapWindow
