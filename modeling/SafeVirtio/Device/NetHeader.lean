import SafeVirtio.Device.Net
import SafeVirtio.Lib.ByteMemory

/-!
# The packet header

`VirtioNetHdr` is the `#[repr(C)]` header in front of every packet: two one-byte fields and four
`u16` fields, ten bytes, which is `NET_HDR_SIZE`.  `write_to` stores a header into a byte slice
and `equal` compares a slice with one, each written out byte by byte: the low byte of a `u16`
field is the field cast to `u8`, the high byte the field shifted right by eight and cast.  Both
agree with the little-endian layout of the header (`layout`), for every header and every slice of
at least ten bytes: `equal` holds exactly of the slices that start with the layout, and `write_to`
writes the layout over the first ten bytes and leaves the rest (`header_writer_checker_agree`).

`fill_buffer_header` writes the default header, ten zero bytes, which is what
`check_tx_buf_header` compares a packet's header with through `equal`
(`checkTxBufHeader_ok_iff`), so `transmit_begin` passes every buffer `fill_buffer_header`
prepared on to the send queue.
-/

namespace SafeVirtio

open VirtIONetRaw (NET_HDR_SIZE QUEUE_TRANSMIT)

namespace VirtioNetHdr

/-- The header as `#[repr(C)]` lays it out on a little-endian target: `flags`, `gso_type`, then
each `u16` field, low byte first. -/
def layout (h : VirtioNetHdr) : List UInt8 :=
  [h.flags, h.gsoType] ++ ByteMemory.leBytes 2 h.hdrLen.toNat ++
    ByteMemory.leBytes 2 h.gsoSize.toNat ++ ByteMemory.leBytes 2 h.csumStart.toNat ++
    ByteMemory.leBytes 2 h.csumOffset.toNat

theorem layout_eq (h : VirtioNetHdr) :
    h.layout = [h.flags, h.gsoType, h.hdrLen.toUInt8, (h.hdrLen >>> 8).toUInt8,
      h.gsoSize.toUInt8, (h.gsoSize >>> 8).toUInt8, h.csumStart.toUInt8,
      (h.csumStart >>> 8).toUInt8, h.csumOffset.toUInt8, (h.csumOffset >>> 8).toUInt8] := by
  simp [layout, ByteMemory.leBytes_two_toNat]

@[simp]
theorem length_layout (h : VirtioNetHdr) : h.layout.length = NET_HDR_SIZE := by
  simp [layout_eq, NET_HDR_SIZE]

@[simp]
theorem default_eq : (default : VirtioNetHdr) = ⟨0, 0, 0, 0, 0, 0⟩ := rfl

end VirtioNetHdr

theorem eq_cons_of_netHdrSize_le {t : List UInt8} (h : NET_HDR_SIZE ≤ t.length) :
    ∃ a₀ a₁ a₂ a₃ a₄ a₅ a₆ a₇ a₈ a₉ rest,
      t = a₀ :: a₁ :: a₂ :: a₃ :: a₄ :: a₅ :: a₆ :: a₇ :: a₈ :: a₉ :: rest := by
  rcases t with _ | ⟨a₀, _ | ⟨a₁, _ | ⟨a₂, _ | ⟨a₃, _ | ⟨a₄, _ | ⟨a₅, _ | ⟨a₆, _ | ⟨a₇, _ |
    ⟨a₈, _ | ⟨a₉, rest⟩⟩⟩⟩⟩⟩⟩⟩⟩⟩
  all_goals simp [NET_HDR_SIZE] at h
  exact ⟨a₀, a₁, a₂, a₃, a₄, a₅, a₆, a₇, a₈, a₉, rest, rfl⟩

namespace VirtIONetRaw

variable {QUEUE_SIZE : ℕ}

/-- `fill_buffer_header`: refuse a buffer shorter than a header, else write the default header
into its first `NET_HDR_SIZE` bytes.  It reads nothing of the driver. -/
def fillBufferHeader (buffer : List UInt8) : Option (VirtIoResult ℕ × List UInt8) :=
  if buffer.length < NET_HDR_SIZE then some (.error .invalidParam, buffer)
  else ((default : VirtioNetHdr).writeTo (buffer.take NET_HDR_SIZE)).map fun hdr ↦
    (.ok NET_HDR_SIZE, hdr ++ buffer.drop NET_HDR_SIZE)

/-- `check_tx_buf_header` accepts exactly the buffers of at least a header in which the default
header's `equal` finds itself. -/
theorem checkTxBufHeader_ok_iff (txBuf : List UInt8) :
    checkTxBufHeader txBuf = .ok () ↔
      NET_HDR_SIZE ≤ txBuf.length ∧ (default : VirtioNetHdr).equal txBuf = some (.ok true) := by
  unfold checkTxBufHeader
  by_cases hlen : txBuf.length < NET_HDR_SIZE
  · simp [hlen]
  · obtain ⟨b, hb⟩ := VirtioNetHdr.equal_eq_ok default (Nat.le_of_not_lt hlen)
    rw [if_neg hlen, hb]
    cases b <;> simp [Nat.le_of_not_lt hlen]

end VirtIONetRaw

namespace VirtioNetHdr

/-- On a slice that holds a header, `equal` answers `Ok(true)` exactly when the slice starts with
the header's layout. -/
theorem equal_iff_layout (h : VirtioNetHdr) {t : List UInt8} (ht : NET_HDR_SIZE ≤ t.length) :
    h.equal t = some (.ok true) ↔ t.take NET_HDR_SIZE = h.layout := by
  obtain ⟨a₀, a₁, a₂, a₃, a₄, a₅, a₆, a₇, a₈, a₉, rest, rfl⟩ := eq_cons_of_netHdrSize_le ht
  simp [equal, layout_eq, NET_HDR_SIZE, and_assoc]

/-- On a slice that holds a header, `write_to` stores the layout over its first bytes and leaves
the rest. -/
theorem writeTo_layout (h : VirtioNetHdr) {t : List UInt8} (ht : NET_HDR_SIZE ≤ t.length) :
    ∃ t', h.writeTo t = some t' ∧ t'.take NET_HDR_SIZE = h.layout ∧
      t'.drop NET_HDR_SIZE = t.drop NET_HDR_SIZE := by
  obtain ⟨a₀, a₁, a₂, a₃, a₄, a₅, a₆, a₇, a₈, a₉, rest, rfl⟩ := eq_cons_of_netHdrSize_le ht
  refine ⟨_, by simp [writeTo, NET_HDR_SIZE]; rfl, ?_, ?_⟩
  · simp [layout_eq, NET_HDR_SIZE]
  · simp [NET_HDR_SIZE]

end VirtioNetHdr

/-- For every header and every slice of at least `NET_HDR_SIZE` bytes, `equal` answers `Ok(true)`
exactly when the slice starts with the header's little-endian layout, and `write_to` writes that
layout over the first `NET_HDR_SIZE` bytes and leaves the others.  So for every buffer that holds
a header, `fill_buffer_header` succeeds and leaves a buffer that `check_tx_buf_header` accepts
(through `equal`, as the source checks it), the rest of the buffer untouched; and
`check_tx_buf_header` accepts only buffers that start with the default header's bytes. -/
theorem header_writer_checker_agree :
    (∀ (h : VirtioNetHdr) (t : List UInt8), NET_HDR_SIZE ≤ t.length →
      (h.equal t = some (.ok true) ↔ t.take NET_HDR_SIZE = h.layout) ∧
      ∃ t', h.writeTo t = some t' ∧ t'.take NET_HDR_SIZE = h.layout ∧
        t'.drop NET_HDR_SIZE = t.drop NET_HDR_SIZE) ∧
    (∀ b : List UInt8, NET_HDR_SIZE ≤ b.length →
      ∃ b', VirtIONetRaw.fillBufferHeader b = some (.ok NET_HDR_SIZE, b') ∧
        VirtIONetRaw.checkTxBufHeader b' = .ok () ∧
        (default : VirtioNetHdr).equal b' = some (.ok true) ∧
        b'.drop NET_HDR_SIZE = b.drop NET_HDR_SIZE) ∧
    ∀ b : List UInt8, VirtIONetRaw.checkTxBufHeader b = .ok () →
      NET_HDR_SIZE ≤ b.length ∧ b.take NET_HDR_SIZE = (default : VirtioNetHdr).layout := by
  refine ⟨fun h t ht ↦ ⟨h.equal_iff_layout ht, h.writeTo_layout ht⟩, fun b hb ↦ ?_, fun b hb ↦ ?_⟩
  · obtain ⟨a₀, a₁, a₂, a₃, a₄, a₅, a₆, a₇, a₈, a₉, rest, rfl⟩ := eq_cons_of_netHdrSize_le hb
    have hcheck : VirtIONetRaw.checkTxBufHeader (List.replicate NET_HDR_SIZE 0 ++ rest) = .ok () :=
      (VirtIONetRaw.checkTxBufHeader_ok_iff _).mpr
        ⟨by simp [NET_HDR_SIZE], by simp [VirtioNetHdr.equal, NET_HDR_SIZE]⟩
    refine ⟨List.replicate NET_HDR_SIZE 0 ++ rest, ?_, hcheck,
      ((VirtIONetRaw.checkTxBufHeader_ok_iff _).mp hcheck).2, by simp [NET_HDR_SIZE]⟩
    simp [VirtIONetRaw.fillBufferHeader, VirtioNetHdr.writeTo, NET_HDR_SIZE]
  · obtain ⟨hlen, hequal⟩ := (VirtIONetRaw.checkTxBufHeader_ok_iff b).mp hb
    exact ⟨hlen, ((default : VirtioNetHdr).equal_iff_layout hlen).mp hequal⟩

/-- A header with every field set, against a buffer of twelve zero bytes. -/
theorem header_writer_checker_agree_zeros :
    NET_HDR_SIZE ≤ (List.replicate 12 0).length ∧
      ((⟨1, 2, 0x0304, 5, 6, 7⟩ : VirtioNetHdr).equal (List.replicate 12 0) = some (.ok true) ↔
        (List.replicate 12 0).take NET_HDR_SIZE = (⟨1, 2, 0x0304, 5, 6, 7⟩ : VirtioNetHdr).layout) :=
  ⟨by decide, (header_writer_checker_agree.1 _ _ (by decide)).1⟩

end SafeVirtio
