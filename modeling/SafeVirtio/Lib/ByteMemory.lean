import Mathlib.Data.List.GetD
import Mathlib.Algebra.Order.Group.Nat
import Mathlib.Tactic.Ring

/-!
# Byte-addressed memory

The memory a driver shares with its device, as a function from 64-bit addresses to values.
`write mem addr bytes` stores a run of values from `addr` on and `read mem addr n` loads one,
addresses wrapping around as the hardware's do.  `leBytes` and `leValue` are the little-endian
layout of an unsigned integer, which is how `#[repr(C)]` structures hold their fields on the
targets of the drivers.

Reading back what was written gives it back (`read_write`), a write leaves the addresses past
its run alone (`write_of_le`), and two runs that share no address (`Apart`) do not see each
other's writes (`read_write_apart`), which therefore commute (`write_comm_apart`).  Decoding an
encoded value gives the value modulo the width
(`leValue_leBytes`), and the two bytes of a `u16` are its truncation and its truncated high half
(`leBytes_two_toNat`), which is how code that stores a field by hand writes them.
-/

namespace ByteMemory

variable {α : Type}

/-- `bytes` stored from `addr` on: address `addr + k` holds `bytes[k]`. -/
def write (mem : UInt64 → α) (addr : UInt64) (bytes : List α) : UInt64 → α :=
  fun a ↦ if h : (a - addr).toNat < bytes.length then bytes[(a - addr).toNat] else mem a

/-- The `n` values from `addr` on. -/
def read (mem : UInt64 → α) (addr : UInt64) (n : ℕ) : List α :=
  (List.range n).map fun k ↦ mem (addr + k.toUInt64)

variable {mem : UInt64 → α} {addr a : UInt64} {bytes : List α} {n : ℕ}

@[simp]
theorem length_read : (read mem addr n).length = n := by
  simp [read]

@[simp]
theorem read_zero : read mem addr 0 = [] :=
  rfl

theorem take_read {k : ℕ} (h : k ≤ n) : (read mem addr n).take k = read mem addr k := by
  rw [read, ← List.map_take, List.take_range, min_eq_left h, read]

theorem write_of_le (h : bytes.length ≤ (a - addr).toNat) : write mem addr bytes a = mem a := by
  simp [write, not_lt.mpr h]

@[simp]
theorem write_singleton_self (v : α) : write mem addr [v] addr = v := by
  simp [write]

theorem toNat_add_sub {k : ℕ} (hk : k < 2 ^ 64) : (addr + k.toUInt64 - addr).toNat = k := by
  rw [show addr + k.toUInt64 - addr = k.toUInt64 by grind]
  simp
  omega

theorem read_write (h : bytes.length ≤ 2 ^ 64) :
    read (write mem addr bytes) addr bytes.length = bytes := by
  apply List.ext_getElem (by simp)
  intro k hk _
  have hk' : k < bytes.length := by simpa using hk
  have hoff : (addr + k.toUInt64 - addr).toNat = k := toNat_add_sub (by omega)
  simp only [read, List.getElem_map, List.getElem_range, write, hoff, hk', dif_pos]

theorem toNat_add_sub_add {base : UInt64} {offset b : ℕ} (ho : offset < 2 ^ 64) (hb : b < 2 ^ 64) :
    (base + b.toUInt64 - (base + offset.toUInt64)).toNat = (2 ^ 64 - offset + b) % 2 ^ 64 := by
  rw [show base + b.toUInt64 - (base + offset.toUInt64) = b.toUInt64 - offset.toUInt64 by grind,
    UInt64.toNat_sub]
  simp only [Nat.toUInt64, UInt64.toNat_ofNat', Nat.mod_eq_of_lt ho, Nat.mod_eq_of_lt hb]

/-- A write from offset `offset` of a region, seen at offset `b` of it: the region does not
wrap round the address space. -/
theorem write_add_toUInt64 {base : UInt64} {offset b : ℕ} (hlen : offset + bytes.length < 2 ^ 64)
    (hb : b < 2 ^ 64) :
    write mem (base + offset.toUInt64) bytes (base + b.toUInt64) =
      if h : offset ≤ b ∧ b - offset < bytes.length then bytes[b - offset]
      else mem (base + b.toUInt64) := by
  by_cases hob : offset ≤ b
  · have hoff : (base + b.toUInt64 - (base + offset.toUInt64)).toNat = b - offset := by
      rw [toNat_add_sub_add (by omega) hb]
      omega
    simp only [write, hoff, hob, true_and]
  · have hoff : bytes.length ≤ (base + b.toUInt64 - (base + offset.toUInt64)).toNat := by
      rw [toNat_add_sub_add (by omega) hb]
      omega
    simp only [write, not_lt.mpr hoff, hob, false_and, dite_false]

/-- The `m` addresses from `a` and the `n` addresses from `b` are different addresses: each run
ends before the other begins, going round the address space from its start. -/
def Apart (a : UInt64) (m : ℕ) (b : UInt64) (n : ℕ) : Prop :=
  m ≤ (b - a).toNat ∧ n ≤ (a - b).toNat

section Apart

variable {b c : UInt64} {m : ℕ}

theorem Apart.symm (h : Apart a m b n) : Apart b n a m := ⟨h.2, h.1⟩

theorem Apart.mono {m' n' : ℕ} (h : Apart a m b n) (hm : m' ≤ m) (hn : n' ≤ n) : Apart a m' b n' :=
  ⟨hm.trans h.1, hn.trans h.2⟩

theorem Apart.le_toNat_sub (h : Apart a m b n) {k : ℕ} (hk : k < n) :
    m ≤ (b + k.toUInt64 - a).toNat := by
  obtain ⟨hba, hab⟩ := h
  have hlt := (b - a).toNat_lt
  have hneg : (a - b).toNat = (2 ^ 64 - (b - a).toNat) % 2 ^ 64 := by
    rw [show a - b = -(b - a) by grind, UInt64.toNat_neg]
    rfl
  rw [show b + k.toUInt64 - a = (b - a) + k.toUInt64 by grind, UInt64.toNat_add]
  simp only [Nat.toUInt64, UInt64.toNat_ofNat']
  omega

theorem Apart.not_mem_both (h : Apart a m b n) (hb : (c - b).toNat < n) : m ≤ (c - a).toNat := by
  have hc : c = b + (c - b).toNat.toUInt64 := by
    rw [Nat.toUInt64, UInt64.ofNat_toNat]
    grind
  rw [hc]
  exact h.le_toNat_sub hb

theorem write_apart (h : Apart addr bytes.length b n) {k : ℕ} (hk : k < n) :
    write mem addr bytes (b + k.toUInt64) = mem (b + k.toUInt64) :=
  write_of_le (h.le_toNat_sub hk)

theorem write_apart_self (h : Apart addr bytes.length b n) (hn : 0 < n) :
    write mem addr bytes b = mem b :=
  write_of_le (by simpa using h.le_toNat_sub hn)

theorem read_write_apart (h : Apart addr bytes.length b n) :
    read (write mem addr bytes) b n = read mem b n := by
  apply List.ext_getElem (by simp)
  intro k hk _
  simp only [read, List.getElem_map, List.getElem_range]
  exact write_apart h (by simpa using hk)

theorem write_comm_apart {cs : List α} (h : Apart addr bytes.length b cs.length) :
    write (write mem addr bytes) b cs = write (write mem b cs) addr bytes := by
  funext c
  by_cases hb : (c - b).toNat < cs.length
  · have ha := h.not_mem_both hb
    simp [write, hb, not_lt.mpr ha]
  · simp [write, hb]

theorem write_write_of_le {cs : List α} (hlen : bytes.length ≤ cs.length) :
    write (write mem addr bytes) addr cs = write mem addr cs := by
  funext c
  by_cases hc : (c - addr).toNat < cs.length
  · simp [write, hc]
  · have hb : ¬ (c - addr).toNat < bytes.length := by omega
    simp [write, hc, hb]

@[simp]
theorem write_write_singleton (u v : α) : write (write mem addr [u]) addr [v] = write mem addr [v] :=
  write_write_of_le le_rfl

end Apart

/-- The little-endian bytes of `n`, `width` of them. -/
def leBytes : ℕ → ℕ → List UInt8
  | 0, _ => []
  | width + 1, n => (n % 256).toUInt8 :: leBytes width (n / 256)

/-- The unsigned value of little-endian bytes. -/
def leValue : List UInt8 → ℕ
  | [] => 0
  | b :: bs => b.toNat + 256 * leValue bs

@[simp]
theorem length_leBytes (width n : ℕ) : (leBytes width n).length = width := by
  induction width generalizing n with
  | zero => rfl
  | succ width ih => simp [leBytes, ih]

/-- The two bytes of a `u16`: the value truncated to `u8`, then the value shifted right by eight
and truncated. -/
theorem leBytes_two_toNat (x : UInt16) : leBytes 2 x.toNat = [x.toUInt8, (x >>> 8).toUInt8] := by
  have hx := x.toNat_lt
  simp only [leBytes, List.cons.injEq, and_true]
  constructor
  · apply UInt8.toNat_inj.mp
    simp [Nat.toUInt8]
  · apply UInt8.toNat_inj.mp
    simp [Nat.toUInt8, UInt16.toNat_shiftRight]
    omega

theorem leValue_leBytes (width n : ℕ) : leValue (leBytes width n) = n % 256 ^ width := by
  induction width generalizing n with
  | zero => simp [leBytes, leValue, Nat.mod_one]
  | succ width ih =>
    have hbyte : ((n % 256).toUInt8).toNat = n % 256 := by
      simp [Nat.toUInt8]
    calc leValue (leBytes (width + 1) n)
        = n % 256 + 256 * (n / 256 % 256 ^ width) := by
          rw [leBytes, leValue, hbyte, ih]
      _ = n % 256 ^ (width + 1) := by
          rw [pow_succ', Nat.mod_mul]

/-- The unsigned little-endian value of the `width` bytes at offset `off` of `bs`: a field of a
`#[repr(C)]` structure laid out in `bs`. -/
def field (bs : List UInt8) (off width : ℕ) : ℕ := leValue ((bs.drop off).take width)

section Field

variable {bs cs : List UInt8} {off width : ℕ}

theorem field_append_right (h : bs.length ≤ off) :
    field (bs ++ cs) off width = field cs (off - bs.length) width := by
  rw [field, field, List.drop_append, List.drop_eq_nil_of_le h, List.nil_append]

@[simp]
theorem field_leBytes (n : ℕ) : field (leBytes width n ++ cs) 0 width = n % 256 ^ width := by
  rw [field, List.drop_zero, List.take_append_of_le_length (by simp), List.take_of_length_le (by simp),
    leValue_leBytes]

end Field

end ByteMemory
