import SafeVirtio.Queue.New
import SafeVirtio.Queue.Blocking
import SafeVirtio.Lib.ByteMemory

/-!
# The block driver

`VirtIOBlk` drives one request queue of sixteen descriptors.  `new` runs the transport's
initialisation around reading the capacity from the configuration space and setting up the
queue; every early return drops the transport, which resets the device.

A request is a chain of a `BlkReq` header, the caller's data buffer for a read or a write, and a
status byte, submitted with `add_notify_wait_pop`.  The header and the status byte are locals of
the request function: they live in the memory the driver shares with the device, written there
before the chain is added, and the status byte is read back after the wait.  The device works
while the driver waits, so the request functions take it as a parameter: given the queue as
`add` published the chain and the memory, it gives the used ring and memory the wait then
finds, and carries a state of its own that the driver passes along without reading it.  The
`debug_assert_eq!` on the status is left out, as in a release build.
-/

namespace SafeVirtio

def VirtIOBlk.QUEUE_SIZE : ℕ := 16

def VirtIOBlk.SECTOR_SIZE : ℕ := 512

namespace BlkFeature

def FLUSH : UInt64 := (1 : UInt64) <<< 9

end BlkFeature

structure VirtIOBlk where
  transport : MmioTransport
  queue : VirtIoQueue VirtIOBlk.QUEUE_SIZE
  capacity : UInt64
  negotiatedFeatures : UInt64

namespace VirtIOBlk

def SUPPORTED_FEATURES : UInt64 := BlkFeature.FLUSH

/-- `VirtIOBlk::new`.  The capacity is read high word first, as the operands of `|` are
evaluated left to right. -/
def new (hal : Hal) (transport : MmioTransport) : Mmio VirtIOBlk :=
  IoLog.Io.onError (do
    let negotiatedFeatures ← transport.beginInit SUPPORTED_FEATURES
    let capacityHigh ← Mmio.read32 (CONFIG_OFFSET + 0x4)
    let capacityLow ← Mmio.read32 CONFIG_OFFSET
    let capacity := (capacityHigh.toUInt64 <<< 32) ||| capacityLow.toUInt64
    let queue ← VirtIoQueue.new QUEUE_SIZE hal transport 0
    MmioTransport.finishInit
    pure { transport, queue, capacity, negotiatedFeatures })
    MmioTransport.drop

end VirtIOBlk

/-- `BlkReqType`, the kinds of request. -/
inductive BlkReqType
  | In | Out | Flush | GetId | GetLifetime | Discard | WriteZeroes | SecureErase
  deriving DecidableEq, Repr

/-- The `#[repr(u32)]` discriminant of a request kind. -/
def BlkReqType.toUInt32 : BlkReqType → UInt32
  | .In => 0
  | .Out => 1
  | .Flush => 4
  | .GetId => 8
  | .GetLifetime => 10
  | .Discard => 11
  | .WriteZeroes => 13
  | .SecureErase => 14

/-- `BlkReq`, the header of a request. -/
structure BlkReq where
  type_ : BlkReqType
  reserved : UInt32
  sector : UInt64

/-- `BlkReq::new`. -/
def BlkReq.new (t : BlkReqType) (sector : UInt64) : BlkReq := { type_ := t, reserved := 0, sector }

/-- The bytes of a header as `#[repr(C)]` lays it out, little-endian: `type_` and `reserved` of
four bytes, `sector` of eight; `size_of_val(&request)` is their number, 16. -/
def BlkReq.bytes (r : BlkReq) : List UInt8 :=
  ByteMemory.leBytes 4 r.type_.toUInt32.toNat ++ ByteMemory.leBytes 4 r.reserved.toNat ++
    ByteMemory.leBytes 8 r.sector.toNat

@[simp]
theorem BlkReq.length_bytes (r : BlkReq) : r.bytes.length = 16 := by
  simp [BlkReq.bytes]

/-- `BlkRespStatus`, the status byte the device writes. -/
structure BlkRespStatus where
  val : UInt8
  deriving DecidableEq, Repr

namespace BlkRespStatus

def OK : BlkRespStatus := ⟨0⟩

def IO_ERR : BlkRespStatus := ⟨1⟩

def UNSUPPORTED : BlkRespStatus := ⟨2⟩

/-- Also `BlkRespStatus::default()`, the value a request's status byte starts with. -/
def NOT_READY : BlkRespStatus := ⟨3⟩

/-- `impl From<BlkRespStatus> for VirtIoResult<()>`. -/
def toResult (status : BlkRespStatus) : VirtIoResult Unit :=
  if status = OK then .ok ()
  else if status = IO_ERR then .error .ioError
  else if status = UNSUPPORTED then .error .unsupported
  else if status = NOT_READY then .error .notReady
  else .error .ioError

end BlkRespStatus

namespace VirtIOBlk

variable {δ : Type}

/-- What the device does while the driver waits: from the queue as `add` published the chain,
the memory and its own state, the used ring and memory the wait finds, and its next state. -/
abbrev Device (δ : Type) : Type :=
  VirtIoQueue QUEUE_SIZE → (UInt64 → UInt8) → δ → UsedRing × (UInt64 → UInt8) × δ

/-- The chain's descriptor of the header at `reqAddr`, of `size_of_val(&request)` bytes. -/
def headerDesc (hal : Hal) (reqAddr : ℕ) : Descriptor := Descriptor.new hal reqAddr 16 DescFlag.NEXT

/-- The chain's descriptor of the status byte at `respAddr`. -/
def statusDesc (hal : Hal) (respAddr : ℕ) : Descriptor := Descriptor.new hal respAddr 1 DescFlag.WRITE

theorem headerDesc_hasNext (hal : Hal) (reqAddr : ℕ) : (headerDesc hal reqAddr).hasNext = true := by
  rw [headerDesc, Descriptor.new_hasNext]
  decide

theorem statusDesc_hasNext (hal : Hal) (respAddr : ℕ) : (statusDesc hal respAddr).hasNext = false := by
  rw [statusDesc, Descriptor.new_hasNext]
  decide

/-- The part the request functions share: store the header `request` at `reqAddr` and the
default status at `respAddr`, submit `chain` and wait while `device` works, then turn the
status byte into the result.  An error of the submission is returned with `?`. -/
def submit (blk : VirtIOBlk) (hal : Hal) (request : BlkReq) (reqAddr respAddr : ℕ)
    (chain : List Descriptor) (device : Device δ) (mem : UInt64 → UInt8) (d : δ) :
    Mmio (VirtIoResult Unit × VirtIOBlk × (UInt64 → UInt8) × δ) := do
  let mem := ByteMemory.write (ByteMemory.write mem (hal.toPaddr reqAddr).toUInt64 request.bytes)
    (hal.toPaddr respAddr).toUInt64 [BlkRespStatus.NOT_READY.val]
  let (used, mem, d) := match blk.queue.add chain with
    | some (.ok _, q) => device q mem d
    | _ => (blk.queue.usedRing, mem, d)
  let (r, queue) ← blk.queue.addNotifyWaitPop chain used used
  match r with
  | .error e => pure (.error e, { blk with queue }, mem, d)
  | .ok _ =>
    pure (BlkRespStatus.toResult ⟨mem (hal.toPaddr respAddr).toUInt64⟩, { blk with queue }, mem, d)

/-- `request_read`: the header, the `dataLen` bytes at `dataAddr` for the device to fill, and the
status byte.  `data.len() as _` keeps the low 32 bits of the length. -/
def requestRead (blk : VirtIOBlk) (hal : Hal) (request : BlkReq) (reqAddr dataAddr dataLen respAddr : ℕ)
    (device : Device δ) (mem : UInt64 → UInt8) (d : δ) :
    Mmio (VirtIoResult Unit × VirtIOBlk × (UInt64 → UInt8) × δ) :=
  blk.submit hal request reqAddr respAddr
    [headerDesc hal reqAddr,
     Descriptor.new hal dataAddr dataLen.toUInt32 (DescFlag.NEXT ||| DescFlag.WRITE),
     statusDesc hal respAddr] device mem d

/-- `request_write`: the header, the `dataLen` bytes at `dataAddr` for the device to read, and
the status byte. -/
def requestWrite (blk : VirtIOBlk) (hal : Hal) (request : BlkReq) (reqAddr dataAddr dataLen respAddr : ℕ)
    (device : Device δ) (mem : UInt64 → UInt8) (d : δ) :
    Mmio (VirtIoResult Unit × VirtIOBlk × (UInt64 → UInt8) × δ) :=
  blk.submit hal request reqAddr respAddr
    [headerDesc hal reqAddr, Descriptor.new hal dataAddr dataLen.toUInt32 DescFlag.NEXT,
     statusDesc hal respAddr] device mem d

/-- `request`: the header and the status byte, with no data. -/
def request (blk : VirtIOBlk) (hal : Hal) (req : BlkReq) (reqAddr respAddr : ℕ) (device : Device δ)
    (mem : UInt64 → UInt8) (d : δ) : Mmio (VirtIoResult Unit × VirtIOBlk × (UInt64 → UInt8) × δ) :=
  blk.submit hal req reqAddr respAddr [headerDesc hal reqAddr, statusDesc hal respAddr] device mem d

/-- `read_blocks` into the `bufLen` bytes at `bufAddr`, after its two assertions. -/
def readBlocks (blk : VirtIOBlk) (hal : Hal) (sector : ℕ) (bufAddr bufLen reqAddr respAddr : ℕ)
    (device : Device δ) (mem : UInt64 → UInt8) (d : δ) :
    Mmio (VirtIoResult Unit × VirtIOBlk × (UInt64 → UInt8) × δ) :=
  if bufLen = 0 ∨ bufLen % SECTOR_SIZE ≠ 0 then IoLog.Io.panic
  else blk.requestRead hal (BlkReq.new .In sector.toUInt64) reqAddr bufAddr bufLen respAddr device mem d

/-- `write_blocks` from the `bufLen` bytes at `bufAddr`, after its two assertions. -/
def writeBlocks (blk : VirtIOBlk) (hal : Hal) (sector : ℕ) (bufAddr bufLen reqAddr respAddr : ℕ)
    (device : Device δ) (mem : UInt64 → UInt8) (d : δ) :
    Mmio (VirtIoResult Unit × VirtIOBlk × (UInt64 → UInt8) × δ) :=
  if bufLen = 0 ∨ bufLen % SECTOR_SIZE ≠ 0 then IoLog.Io.panic
  else blk.requestWrite hal (BlkReq.new .Out sector.toUInt64) reqAddr bufAddr bufLen respAddr device mem d

/-- `flush`: a flush request when `FLUSH` was negotiated, and nothing otherwise. -/
def flush (blk : VirtIOBlk) (hal : Hal) (reqAddr respAddr : ℕ) (device : Device δ)
    (mem : UInt64 → UInt8) (d : δ) : Mmio (VirtIoResult Unit × VirtIOBlk × (UInt64 → UInt8) × δ) :=
  if blk.negotiatedFeatures &&& BlkFeature.FLUSH != 0 then
    blk.request hal (BlkReq.new .Flush 0) reqAddr respAddr device mem d
  else pure (.ok (), blk, mem, d)

end VirtIOBlk

end SafeVirtio
