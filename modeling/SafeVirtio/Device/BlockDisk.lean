import SafeVirtio.Device.InitOrder
import SafeVirtio.Queue.Device
import SafeVirtio.Lib.Channel

/-!
# The block driver against a disk

`Disk` is the device the block driver is written for, as a sector store: it reads the next
chain the driver published, decodes the `BlkReq` header from the first descriptor, serves `In`
by copying sectors into the data descriptor and `Out` by storing the data descriptor, has
nothing to do for `Flush`, answers other kinds with `UNSUPPORTED`, writes the status into the
last descriptor and completes the chain with the number of bytes it wrote.  Byte `k` of sector
`s` is `sectors (512 * s + k)`.  `BlockSystem` runs the driver's calls against it.

The data descriptor's length is `data.len() as u32`: a buffer of `2 ^ 32` bytes, a whole number of
sectors, reaches the device as an empty descriptor, and `read_blocks` of it returns `Ok` with
nothing read (`huge_read_reads_nothing`).
-/

namespace SafeVirtio

open VirtIOBlk (QUEUE_SIZE SECTOR_SIZE)

/-- The disk device: its view of the request queue and its sectors. -/
structure Disk where
  queue : DeviceQueue
  sectors : ℕ → UInt8

namespace Disk

/-- The request kind with discriminant `v`. -/
def decodeType (v : ℕ) : Option BlkReqType :=
  [BlkReqType.In, .Out, .Flush, .GetId, .GetLifetime, .Discard, .WriteZeroes, .SecureErase].find?
    (·.toUInt32.toNat = v)

/-- Serve the request whose descriptors are `descs`: the memory and sectors afterwards, and the
number of bytes written into device-writable buffers, the status byte included. -/
def serveChain (descs : List Descriptor) (mem : UInt64 → UInt8) (sectors : ℕ → UInt8) :
    (UInt64 → UInt8) × (ℕ → UInt8) × ℕ :=
  match descs with
  | [] => (mem, sectors, 0)
  | hdr :: rest =>
    let header := ByteMemory.read mem hdr.addr 16
    let base := SECTOR_SIZE * ByteMemory.leValue (header.drop 8)
    match rest.getLast? with
    | none => (mem, sectors, 0)
    | some status =>
      let (mem, sectors, written, st) :=
        match decodeType (ByteMemory.leValue (header.take 4)), rest.dropLast with
        | some .In, [buf] =>
          (ByteMemory.write mem buf.addr ((List.range buf.len.toNat).map fun k ↦ sectors (base + k)),
            sectors, buf.len.toNat, BlkRespStatus.OK)
        | some .Out, [buf] =>
          (mem, (fun b ↦ if base ≤ b ∧ b < base + buf.len.toNat then
              mem (buf.addr + (b - base).toUInt64) else sectors b), 0, BlkRespStatus.OK)
        | some .Flush, [] => (mem, sectors, 0, BlkRespStatus.OK)
        | _, _ => (mem, sectors, 0, BlkRespStatus.UNSUPPORTED)
      (ByteMemory.write mem status.addr [st.val], sectors, written + 1)

/-- The device while the driver waits: read the next published head, serve its chain and
complete it. -/
def serve : VirtIOBlk.Device Disk := fun q mem d ↦
  match DeviceQueue.fetch q d.queue with
  | none => (q.usedRing, mem, d)
  | some dq =>
    let head := q.availRing.ring (d.queue.nextAvail.toNat % QUEUE_SIZE)
    match LinkedChain.follow QUEUE_SIZE (VirtIoQueue.chainLink QUEUE_SIZE q.descriptorTable) QUEUE_SIZE
        head.toNat with
    -- a chain the device cannot walk stays in flight
    | none => (q.usedRing, mem, { d with queue := dq })
    | some ids =>
      let (mem, sectors, written) := serveChain (ids.map q.descriptorTable) mem d.sectors
      match DeviceQueue.complete q dq head written.toUInt32 with
      | some (q, dq) => (q.usedRing, mem, ⟨dq, sectors⟩)
      | none => (q.usedRing, mem, ⟨dq, sectors⟩)

end Disk

/-- The block driver, the disk, and the memory they share. -/
structure BlockSystem where
  blk : VirtIOBlk
  disk : Disk
  mem : UInt64 → UInt8

/-- A call of the driver, against a register file; the header and the status byte of the
request are the locals at `reqAddr` and `respAddr`. -/
inductive BlockMove
  | readBlocks (o : IoLog.Oracle Access UInt32 VirtIoError) (h : List Access)
    (sector bufAddr bufLen reqAddr respAddr : ℕ)
  | writeBlocks (o : IoLog.Oracle Access UInt32 VirtIoError) (h : List Access)
    (sector bufAddr bufLen reqAddr respAddr : ℕ)
  | flush (o : IoLog.Oracle Access UInt32 VirtIoError) (h : List Access) (reqAddr respAddr : ℕ)

namespace BlockSystem

variable (hal : Hal)

/-- The system after a call, with what the call returned; `none` when it panics or spins. -/
def finish (p : Mmio (VirtIoResult Unit × VirtIOBlk × (UInt64 → UInt8) × Disk))
    (o : IoLog.Oracle Access UInt32 VirtIoError) (h : List Access) :
    Option (BlockSystem × List (VirtIoResult Unit)) :=
  match (p.run o h).1 with
  | .ok (r, blk, mem, disk) => some (⟨blk, disk, mem⟩, [r])
  | _ => none

/-- One call of the driver, with the disk serving it. -/
def step (s : BlockSystem) : BlockMove → Option (BlockSystem × List (VirtIoResult Unit))
  | .readBlocks o h sector bufAddr bufLen reqAddr respAddr =>
    finish (s.blk.readBlocks hal sector bufAddr bufLen reqAddr respAddr Disk.serve s.mem s.disk) o h
  | .writeBlocks o h sector bufAddr bufLen reqAddr respAddr =>
    finish (s.blk.writeBlocks hal sector bufAddr bufLen reqAddr respAddr Disk.serve s.mem s.disk) o h
  | .flush o h reqAddr respAddr =>
    finish (s.blk.flush hal reqAddr respAddr Disk.serve s.mem s.disk) o h

/-- The driver `new` builds against `quietRegisters`, with a disk whose sector `0` holds `0x5A`
in every byte and a zeroed memory. -/
def start : Option BlockSystem :=
  match ((VirtIOBlk.new identityHal ⟨.modern⟩).run quietRegisters []).1 with
  | .ok blk => some ⟨blk, ⟨⟨0, []⟩, fun b ↦ if b < SECTOR_SIZE then 0x5A else 0⟩, fun _ ↦ 0⟩
  | _ => none

/-- `read_blocks` of sector `0` into a buffer of `bufLen` bytes at `0x100000`. -/
def readSectorZero (bufLen : ℕ) : BlockMove :=
  .readBlocks quietRegisters [] 0 0x100000 bufLen 0x2000 0x2010

/-- A read of one sector fills the buffer from the disk; a read of `2 ^ 32` bytes, a whole number
of sectors, returns `Ok` too, but the device was handed an empty buffer and the first byte is
still the memory's old `0`. -/
theorem huge_read_reads_nothing :
    (start.bind fun s ↦ Trace.run (step identityHal) s [readSectorZero SECTOR_SIZE]).map
        (fun r ↦ (r.2, r.1.mem 0x100000)) = some ([.ok ()], 0x5A) ∧
      (start.bind fun s ↦ Trace.run (step identityHal) s [readSectorZero (2 ^ 32)]).map
        (fun r ↦ (r.2, r.1.mem 0x100000)) = some ([.ok ()], 0) := by
  decide +kernel

end BlockSystem

end SafeVirtio
