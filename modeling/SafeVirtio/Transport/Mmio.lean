import SafeVirtio.Basic
import SafeVirtio.Lib.IoLog

/-!
# The MMIO transport

`MmioTransport` reaches the device through a `VirtIoDeviceIo` region whose 32-bit reads and
writes may each fail; nothing else about the region is known.  The model makes every register
access an access of an `IoLog.Io` program, so the region is an oracle and a statement over every
oracle is a statement over every behaviour of the register file, failures included.  A register
is its byte offset in `VirtIOHeader`; a 64-bit register is written as its low word, then its high
word, as `WriteOnly<OFFSET, u64>::write` does.

`begin_init` and `finish_init` are the default methods of the `Transport` trait, and the drop of
an `MmioTransport`, which resets the device, is `MmioTransport.drop`.  `queue_unset` of the
modern layout spins until the device reads `queue_ready` back as `0`; the model runs that spin
for at most `fuel` reads.
-/

namespace SafeVirtio

/-- One access to the register region. -/
inductive Access
  | read32 (off : ℕ)
  | read8 (off : ℕ)
  | write32 (off : ℕ) (data : UInt32)
  deriving DecidableEq, Repr

/-- Programs over the register region: a register answers with a `u32`. -/
abbrev Mmio (α : Type) := IoLog.Io Access UInt32 VirtIoError α

namespace Mmio

/-- `read_volatile_u32_at`. -/
def read32 (off : ℕ) : Mmio UInt32 := IoLog.Io.access (.read32 off)

/-- `read_volatile_u8_at`. -/
def read8 (off : ℕ) : Mmio UInt8 := do
  let v ← IoLog.Io.access (.read8 off)
  pure v.toUInt8

/-- `write_volatile_u32_at`. -/
def write32 (off : ℕ) (data : UInt32) : Mmio Unit := do
  let _ ← IoLog.Io.access (.write32 off data)
  pure ()

/-- `WriteOnly<OFFSET, u64>::write`: the low word, then the high word at `OFFSET + 4`. -/
def write64 (off : ℕ) (data : UInt64) : Mmio Unit := do
  write32 off data.toUInt32
  write32 (off + 4) (data >>> 32).toUInt32

end Mmio

/-! ## Registers -/

namespace VirtIOHeader

def magic : ℕ := 0x0
def version : ℕ := 0x4
def deviceId : ℕ := 0x8
def deviceFeatures : ℕ := 0x10
def deviceFeaturesSel : ℕ := 0x14
def driverFeatures : ℕ := 0x20
def driverFeaturesSel : ℕ := 0x24
def legacyGuestPageSize : ℕ := 0x28
def queueSel : ℕ := 0x30
def queueNumMax : ℕ := 0x34
def queueNum : ℕ := 0x38
def legacyQueueAlign : ℕ := 0x3c
def legacyQueuePfn : ℕ := 0x40
def queueReady : ℕ := 0x44
def queueNotify : ℕ := 0x50
def interruptStatus : ℕ := 0x60
def interruptAck : ℕ := 0x64
def status : ℕ := 0x70
def queueDesc : ℕ := 0x80
def queueDriver : ℕ := 0x90
def queueDevice : ℕ := 0xA0

end VirtIOHeader

def MAGIC : UInt32 := 0x74726976

def CONFIG_OFFSET : ℕ := 0x100

/-! The bits of the device status register. -/
namespace DeviceStatus

def ACKNOWLEDGE : UInt32 := 1
def DRIVER : UInt32 := 2
def FEATURES_OK : UInt32 := 8
def DRIVER_OK : UInt32 := 4

end DeviceStatus

/-- The version of the MMIO transport a device implements. -/
inductive MmioVersion
  | legacy
  | modern
  deriving DecidableEq, Repr

/-- `TryFrom<u32> for MmioVersion`. -/
def MmioVersion.tryFrom (version : UInt32) : VirtIoResult MmioVersion :=
  if version = 1 then .ok .legacy
  else if version = 2 then .ok .modern
  else .error (.mmioError (.unsupportedVersion version))

/-- An MMIO transport: the register region is the oracle, so only the version is left. -/
structure MmioTransport where
  version : MmioVersion
  deriving DecidableEq, Repr

namespace MmioTransport

/-- `MmioTransport::new`: check the magic value and the device id, then read the version. -/
def new : Mmio MmioTransport := do
  let magic ← Mmio.read32 VirtIOHeader.magic
  if magic ≠ MAGIC then IoLog.Io.throw (.mmioError (.badMagic magic)) else
  let deviceId ← Mmio.read32 VirtIOHeader.deviceId
  if deviceId = 0 then IoLog.Io.throw (.mmioError .zeroDeviceId) else
  let version ← Mmio.read32 VirtIOHeader.version
  let version ← IoLog.Io.ofOption (some (MmioVersion.tryFrom version))
  pure { version }

variable (t : MmioTransport)

def readDeviceFeatures : Mmio UInt64 := do
  Mmio.write32 VirtIOHeader.deviceFeaturesSel 0
  let low ← Mmio.read32 VirtIOHeader.deviceFeatures
  Mmio.write32 VirtIOHeader.deviceFeaturesSel 1
  let high ← Mmio.read32 VirtIOHeader.deviceFeatures
  pure (low.toUInt64 ||| (high.toUInt64 <<< 32))

def writeDriverFeatures (driverFeatures : UInt64) : Mmio Unit := do
  Mmio.write32 VirtIOHeader.driverFeaturesSel 0
  Mmio.write32 VirtIOHeader.driverFeatures driverFeatures.toUInt32
  Mmio.write32 VirtIOHeader.driverFeaturesSel 1
  Mmio.write32 VirtIOHeader.driverFeatures (driverFeatures >>> 32).toUInt32

def maxQueueSize (queue : UInt16) : Mmio UInt32 := do
  Mmio.write32 VirtIOHeader.queueSel queue.toUInt32
  Mmio.read32 VirtIOHeader.queueNumMax

def notify (queue : UInt16) : Mmio Unit := Mmio.write32 VirtIOHeader.queueNotify queue.toUInt32

def setStatus (status : UInt32) : Mmio Unit := Mmio.write32 VirtIOHeader.status status

def setGuestPageSize (guestPageSize : UInt32) : Mmio Unit :=
  match t.version with
  | .legacy => Mmio.write32 VirtIOHeader.legacyGuestPageSize guestPageSize
  | .modern => pure ()

def requiresLegacyLayout : Bool := t.version = .legacy

/-- `queue_set`.  The legacy layout is addressed by page number, and the two `assert_eq!`s
check that the rings sit where that layout puts them. -/
def queueSet (queue : UInt16) (size : UInt32) (descriptors driverArea deviceArea : ℕ) :
    Mmio Unit :=
  match t.version with
  | .legacy =>
    if driverArea - descriptors ≠ 16 * size.toNat then IoLog.Io.panic
    else if deviceArea - descriptors ≠ alignUp (16 * size.toNat + 2 * (size.toNat + 3)) then
      IoLog.Io.panic
    else do
      let pfn := (descriptors / PAGE_SIZE).toUInt32
      Mmio.write32 VirtIOHeader.queueSel queue.toUInt32
      Mmio.write32 VirtIOHeader.queueNum size
      Mmio.write32 VirtIOHeader.legacyQueueAlign PAGE_SIZE.toUInt32
      Mmio.write32 VirtIOHeader.legacyQueuePfn pfn
  | .modern => do
    Mmio.write32 VirtIOHeader.queueSel queue.toUInt32
    Mmio.write32 VirtIOHeader.queueNum size
    Mmio.write64 VirtIOHeader.queueDesc descriptors.toUInt64
    Mmio.write64 VirtIOHeader.queueDriver driverArea.toUInt64
    Mmio.write64 VirtIOHeader.queueDevice deviceArea.toUInt64
    Mmio.write32 VirtIOHeader.queueReady 1

/-- The wait of `queue_unset` until the device reads `queue_ready` back as `0`, run for at most
`fuel` reads: running out stands for the spin that never ends. -/
def waitQueueReady : ℕ → Mmio Unit
  | 0 => IoLog.Io.panic
  | fuel + 1 => do
    if (← Mmio.read32 VirtIOHeader.queueReady) ≠ 0 then waitQueueReady fuel else pure ()

/-- `queue_unset`, its wait run for at most `fuel` reads. -/
def queueUnset (fuel : ℕ) (queue : UInt16) : Mmio Unit :=
  match t.version with
  | .legacy => do
    Mmio.write32 VirtIOHeader.queueSel queue.toUInt32
    Mmio.write32 VirtIOHeader.queueNum 0
    Mmio.write32 VirtIOHeader.legacyQueueAlign 0
    Mmio.write32 VirtIOHeader.legacyQueuePfn 0
  | .modern => do
    Mmio.write32 VirtIOHeader.queueSel queue.toUInt32
    Mmio.write32 VirtIOHeader.queueReady 0
    waitQueueReady fuel
    Mmio.write32 VirtIOHeader.queueNum 0
    Mmio.write64 VirtIOHeader.queueDesc 0
    Mmio.write64 VirtIOHeader.queueDriver 0
    Mmio.write64 VirtIOHeader.queueDevice 0

/-- `queue_used`: the queue has a page frame (legacy) or is marked ready (modern). -/
def queueUsed (queue : UInt16) : Mmio Bool := do
  Mmio.write32 VirtIOHeader.queueSel queue.toUInt32
  match t.version with
  | .legacy => return (← Mmio.read32 VirtIOHeader.legacyQueuePfn) ≠ 0
  | .modern => return (← Mmio.read32 VirtIOHeader.queueReady) ≠ 0

def ackInterrupt : Mmio Bool := do
  let status ← Mmio.read32 VirtIOHeader.interruptStatus
  if status = 0 then return false
  Mmio.write32 VirtIOHeader.interruptAck status
  return true

/-- `Transport::begin_init`: reset, acknowledge, negotiate features, set `FEATURES_OK`.  The
device's features pass through `F::from_bits_truncate`, which keeps the bits the flag type `F`
defines; `supported` has only such bits, so the negotiated set is the plain intersection. -/
def beginInit (supported : UInt64) : Mmio UInt64 := do
  setStatus 0
  setStatus (DeviceStatus.ACKNOWLEDGE ||| DeviceStatus.DRIVER)
  let deviceFeatures ← readDeviceFeatures
  let negotiatedFeatures := deviceFeatures &&& supported
  writeDriverFeatures negotiatedFeatures
  setStatus (DeviceStatus.ACKNOWLEDGE ||| DeviceStatus.DRIVER ||| DeviceStatus.FEATURES_OK)
  t.setGuestPageSize PAGE_SIZE.toUInt32
  pure negotiatedFeatures

/-- `Transport::finish_init`. -/
def finishInit : Mmio Unit :=
  setStatus (DeviceStatus.ACKNOWLEDGE ||| DeviceStatus.DRIVER ||| DeviceStatus.FEATURES_OK |||
    DeviceStatus.DRIVER_OK)

/-- `Drop for MmioTransport`: reset the device, panicking (`expect`) if the write fails. -/
def drop : Mmio Unit := do
  match ← IoLog.Io.attempt (setStatus 0) with
  | .ok () => pure ()
  | .error _ => IoLog.Io.panic

end MmioTransport

end SafeVirtio
