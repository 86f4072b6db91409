import Mathlib

/-!
# Errors and results of the VirtIO drivers

`VirtIoError` and `MmioError` follow `error.rs` variant for variant.  Every fallible
operation of the crate returns a `VirtIoResult`; the model adds one more outcome that Rust
has no value for.  A call that panics (a failed `assert!`, an out-of-bounds index, an
`unwrap` of `None`) or that spins forever has no result at all, so the model's operations
return `Option (VirtIoResult α × σ)`: `none` for a panic or a divergence, and otherwise the
result together with the state the call leaves behind, which after `Err` may differ from the
state before, exactly as `?` leaves earlier mutations of `&mut self` in place.
-/

namespace SafeVirtio

/-- An error encountered initialising a VirtIO MMIO transport. -/
inductive MmioError
  | badMagic (value : UInt32)
  | unsupportedVersion (version : UInt32)
  | zeroDeviceId
  deriving DecidableEq, Repr

/-- The error type of VirtIO drivers. -/
inductive VirtIoError
  | queueFull
  | notReady
  | wrongToken
  | alreadyUsed
  | invalidParam
  | dmaError
  | ioError
  | unsupported
  | configSpaceTooSmall
  | configSpaceMissing
  | mmioError (e : MmioError)
  deriving DecidableEq, Repr

/-- The type returned by driver methods. -/
abbrev VirtIoResult (α : Type) := Except VirtIoError α

/-- `PAGE_SIZE` of `lib.rs`. -/
def PAGE_SIZE : ℕ := 4096

/-- The number of pages required to store `size` bytes, rounded up to a whole number of pages. -/
def pages (size : ℕ) : ℕ := (size + PAGE_SIZE - 1) / PAGE_SIZE

/-- `align_up` of `lib.rs`: `(size + PAGE_SIZE) & !(PAGE_SIZE - 1)`, which adds a whole page
even to a size that is already aligned. -/
def alignUp (size : ℕ) : ℕ := (size + PAGE_SIZE) / PAGE_SIZE * PAGE_SIZE

/-- `align_up` lands on a page boundary strictly above its argument, at most a page above it. -/
theorem alignUp_bounds (size : ℕ) :
    size < alignUp size ∧ alignUp size ≤ size + PAGE_SIZE ∧ alignUp size % PAGE_SIZE = 0 := by
  unfold alignUp PAGE_SIZE
  omega

theorem le_pages_mul (size : ℕ) : size ≤ pages size * PAGE_SIZE := by
  unfold pages PAGE_SIZE
  omega

end SafeVirtio
