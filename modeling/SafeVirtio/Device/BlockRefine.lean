import SafeVirtio.Device.BlockDisk
import SafeVirtio.Queue.Idle

/-!
# The block driver refines a sector store

What `read_blocks`, `write_blocks` and `flush` are for, said without the queue: a read copies
`len` bytes from the start of a sector into the caller's buffer (`Disk.readSpec`), a write
stores the buffer there (`Disk.writeSpec`), and a flush changes no byte.  Besides, every request
leaves its two locals holding the header it built and the status `OK`
(`Disk.requestLocals`).  `BlockMove.spec` is that store as a function of the sectors and the
memory.

The driver meets it against the disk of `BlockSystem` when the request queue is idle between
calls (`VirtIoQueue.Idle`: the disk has served every published chain, the driver has popped every
completion and all sixteen descriptors are free) and each call is one the driver can serve as
asked (`BlockMove.Valid`: a buffer that is a whole, non-zero number of sectors below `2 ^ 32`
bytes, three runs of memory apart from each other, and a register file that accepts the
notification).  Then a call returns `Ok`, moves the sectors and the memory as the spec does and
leaves the queue idle (`step_refines`), so every run of such calls does (`run_refines`), from
every driver `new` returns (`new_refines`).  The bound on the buffer is where the code stops
meeting the spec: a buffer of `2 ^ 32` bytes reaches the disk as an empty one
(`huge_read_reads_nothing`).

One call is one turn of the queue: `add` on an idle queue posts the chain (`Posted`), the disk
serves it and completes it at the position the driver has seen up to, and the pop takes it
back, which leaves the queue idle again (`submit_idle`).

The spec has no read-only disk because the driver never sees one: it supports `FLUSH` alone, so
`begin_init` never negotiates `RO` and `readonly` is false for every driver `new` returns
(`VirtIOBlk.new_not_readonly`).
-/

namespace SafeVirtio

open VirtIOBlk (QUEUE_SIZE SECTOR_SIZE)
open ByteMemory (Apart)

theorem VirtIOBlk.new_returns (hal : Hal) (transport : MmioTransport) :
    IoLog.Returns (VirtIOBlk.new hal transport) fun blk ↦
      blk.queue = VirtIoQueue.init QUEUE_SIZE 0 := by
  unfold VirtIOBlk.new
  refine IoLog.Returns.onError ?_
  refine IoLog.Returns.bind_any fun _ ↦ ?_
  refine IoLog.Returns.bind_any fun _ ↦ ?_
  refine IoLog.Returns.bind_any fun _ ↦ ?_
  refine IoLog.Returns.bind (VirtIoQueue.new_returns _ _ _ _) fun queue hqueue ↦ ?_
  exact IoLog.Returns.bind_any fun _ ↦
    IoLog.Returns.pure hqueue

namespace Disk

/-! ## The sector store -/

/-- The `len` bytes from the start of sector `sector`. -/
def readSpec (sectors : ℕ → UInt8) (sector len : ℕ) : List UInt8 :=
  (List.range len).map fun k ↦ sectors (SECTOR_SIZE * sector + k)

/-- The sectors after `data` is stored from the start of sector `sector`. -/
def writeSpec (sectors : ℕ → UInt8) (sector : ℕ) (data : List UInt8) : ℕ → UInt8 :=
  fun b ↦ if h : SECTOR_SIZE * sector ≤ b ∧ b - SECTOR_SIZE * sector < data.length then
    data[b - SECTOR_SIZE * sector] else sectors b

/-- Storing bytes read from memory: a byte of the sectors inside the run comes from its
address. -/
theorem writeSpec_read (sectors : ℕ → UInt8) (sector : ℕ) (mem : UInt64 → UInt8) (a : UInt64)
    (len : ℕ) :
    writeSpec sectors sector (ByteMemory.read mem a len) = fun b ↦
      if SECTOR_SIZE * sector ≤ b ∧ b < SECTOR_SIZE * sector + len then
        mem (a + (b - SECTOR_SIZE * sector).toUInt64) else sectors b := by
  funext b
  by_cases hb : SECTOR_SIZE * sector ≤ b ∧ b < SECTOR_SIZE * sector + len
  · have hoff : b - SECTOR_SIZE * sector < (ByteMemory.read mem a len).length := by
      rw [ByteMemory.length_read]
      omega
    rw [writeSpec, dif_pos ⟨hb.1, hoff⟩, if_pos hb]
    simp [ByteMemory.read]
  · have hoff : ¬ (SECTOR_SIZE * sector ≤ b ∧
        b - SECTOR_SIZE * sector < (ByteMemory.read mem a len).length) := by
      rw [ByteMemory.length_read]
      omega
    rw [writeSpec, dif_neg hoff, if_neg hb]

/-! ## A request's locals -/

/-- The memory while a request `r` is in flight, as `submit` stores its locals: the header at
`reqAddr`, the default status at `respAddr`. -/
def pendingLocals (hal : Hal) (r : BlkReq) (reqAddr respAddr : ℕ) (mem : UInt64 → UInt8) :
    UInt64 → UInt8 :=
  ByteMemory.write (ByteMemory.write mem (hal.toPaddr reqAddr).toUInt64 r.bytes)
    (hal.toPaddr respAddr).toUInt64 [BlkRespStatus.NOT_READY.val]

/-- The memory after a request `r` completes: its header at `reqAddr`, the status `OK` at
`respAddr`. -/
def requestLocals (hal : Hal) (r : BlkReq) (reqAddr respAddr : ℕ) (mem : UInt64 → UInt8) :
    UInt64 → UInt8 :=
  ByteMemory.write (ByteMemory.write mem (hal.toPaddr reqAddr).toUInt64 r.bytes)
    (hal.toPaddr respAddr).toUInt64 [BlkRespStatus.OK.val]

section Locals

variable {hal : Hal} {r : BlkReq} {reqAddr respAddr : ℕ} {mem : UInt64 → UInt8}

@[simp]
theorem requestLocals_status :
    requestLocals hal r reqAddr respAddr mem (hal.toPaddr respAddr).toUInt64 = BlkRespStatus.OK.val :=
  ByteMemory.write_singleton_self _

theorem read_header (h : Apart (hal.toPaddr reqAddr).toUInt64 16 (hal.toPaddr respAddr).toUInt64 1) :
    ByteMemory.read (pendingLocals hal r reqAddr respAddr mem) (hal.toPaddr reqAddr).toUInt64 16 =
      r.bytes := by
  rw [pendingLocals, ByteMemory.read_write_apart h.symm, show (16 : ℕ) = r.bytes.length by simp]
  exact ByteMemory.read_write (by simp)

/-- Once the disk writes `OK` over the default status, the locals are as the request leaves
them. -/
theorem pendingLocals_ok :
    ByteMemory.write (pendingLocals hal r reqAddr respAddr mem) (hal.toPaddr respAddr).toUInt64
      [BlkRespStatus.OK.val] = requestLocals hal r reqAddr respAddr mem :=
  ByteMemory.write_write_singleton _ _

theorem pendingLocals_ok_of_apart {buf : UInt64} {data : List UInt8}
    (h : Apart buf data.length (hal.toPaddr respAddr).toUInt64 1) :
    ByteMemory.write (ByteMemory.write (pendingLocals hal r reqAddr respAddr mem) buf data)
      (hal.toPaddr respAddr).toUInt64 [BlkRespStatus.OK.val] =
      ByteMemory.write (requestLocals hal r reqAddr respAddr mem) buf data := by
  rw [ByteMemory.write_comm_apart h, pendingLocals_ok]

theorem pendingLocals_apart {b : UInt64} {n k : ℕ} (hhdr : Apart (hal.toPaddr reqAddr).toUInt64 16 b n)
    (hst : Apart (hal.toPaddr respAddr).toUInt64 1 b n) (hk : k < n) :
    pendingLocals hal r reqAddr respAddr mem (b + k.toUInt64) = mem (b + k.toUInt64) := by
  have hhdr' : Apart (hal.toPaddr reqAddr).toUInt64 r.bytes.length b n := by
    rwa [BlkReq.length_bytes]
  rw [pendingLocals, ByteMemory.write_apart hst hk, ByteMemory.write_apart hhdr' hk]

/-- What the disk stores for a write is the buffer as the caller left it, as long as the
buffer lies apart from both locals. -/
theorem pending_writeSpec {sectors : ℕ → UInt8} {sector len : ℕ} {a : UInt64}
    (hhdr : Apart (hal.toPaddr reqAddr).toUInt64 16 a len)
    (hst : Apart (hal.toPaddr respAddr).toUInt64 1 a len) :
    (fun b ↦ if SECTOR_SIZE * sector ≤ b ∧ b < SECTOR_SIZE * sector + len then
        pendingLocals hal r reqAddr respAddr mem (a + (b - SECTOR_SIZE * sector).toUInt64)
      else sectors b) = writeSpec sectors sector (ByteMemory.read mem a len) := by
  rw [writeSpec_read]
  funext b
  split_ifs with hb
  · exact pendingLocals_apart hhdr hst (by omega)
  · rfl

end Locals

/-! ## What the disk makes of a request -/

@[simp]
theorem decodeType_toUInt32 (t : BlkReqType) : decodeType t.toUInt32.toNat = some t := by
  cases t <;> rfl

/-- What the disk reads from a header `r` laid out in memory: its kind, and the first byte of
its sector. -/
theorem header_of_bytes {mem : UInt64 → UInt8} {a : UInt64} {r : BlkReq}
    (h : ByteMemory.read mem a 16 = r.bytes) :
    decodeType (ByteMemory.leValue ((ByteMemory.read mem a 16).take 4)) = some r.type_ ∧
      SECTOR_SIZE * ByteMemory.leValue ((ByteMemory.read mem a 16).drop 8) =
        SECTOR_SIZE * r.sector.toNat := by
  have htake : r.bytes.take 4 = ByteMemory.leBytes 4 r.type_.toUInt32.toNat := by
    simp [BlkReq.bytes]
  have hdrop : r.bytes.drop 8 = ByteMemory.leBytes 8 r.sector.toNat := by
    simp [BlkReq.bytes, List.drop_append]
  have htype : r.type_.toUInt32.toNat % 256 ^ 4 = r.type_.toUInt32.toNat :=
    Nat.mod_eq_of_lt r.type_.toUInt32.toNat_lt
  have hsector : r.sector.toNat % 256 ^ 8 = r.sector.toNat :=
    Nat.mod_eq_of_lt r.sector.toNat_lt
  rw [h, htake, hdrop, ByteMemory.leValue_leBytes, ByteMemory.leValue_leBytes, htype, hsector]
  exact ⟨decodeType_toUInt32 _, rfl⟩

section ServeChain

variable {mem : UInt64 → UInt8} {sectors : ℕ → UInt8} {hdr buf st : Descriptor} {r : BlkReq}

theorem serveChain_in (h : ByteMemory.read mem hdr.addr 16 = r.bytes) (hr : r.type_ = .In) :
    serveChain [hdr, buf, st] mem sectors =
      (ByteMemory.write (ByteMemory.write mem buf.addr
          ((List.range buf.len.toNat).map fun k ↦ sectors (SECTOR_SIZE * r.sector.toNat + k)))
        st.addr [BlkRespStatus.OK.val], sectors, buf.len.toNat + 1) := by
  obtain ⟨htype, hbase⟩ := header_of_bytes h
  simp only [serveChain, List.getLast?_cons_cons, List.getLast?_singleton, htype, hr, hbase,
    List.dropLast_cons_cons, List.dropLast_singleton]

theorem serveChain_out (h : ByteMemory.read mem hdr.addr 16 = r.bytes) (hr : r.type_ = .Out) :
    serveChain [hdr, buf, st] mem sectors =
      (ByteMemory.write mem st.addr [BlkRespStatus.OK.val],
        (fun b ↦ if SECTOR_SIZE * r.sector.toNat ≤ b ∧ b < SECTOR_SIZE * r.sector.toNat + buf.len.toNat
          then mem (buf.addr + (b - SECTOR_SIZE * r.sector.toNat).toUInt64) else sectors b), 1) := by
  obtain ⟨htype, hbase⟩ := header_of_bytes h
  simp only [serveChain, List.getLast?_cons_cons, List.getLast?_singleton, htype, hr, hbase,
    List.dropLast_cons_cons, List.dropLast_singleton]

theorem serveChain_flush (h : ByteMemory.read mem hdr.addr 16 = r.bytes) (hr : r.type_ = .Flush) :
    serveChain [hdr, st] mem sectors =
      (ByteMemory.write mem st.addr [BlkRespStatus.OK.val], sectors, 1) := by
  obtain ⟨htype, -⟩ := header_of_bytes h
  simp only [serveChain, List.getLast?_singleton, htype, hr, List.dropLast_singleton]

end ServeChain

/-! ## The request queue between two calls -/

variable {q q₁ : VirtIoQueue QUEUE_SIZE} {data : List Descriptor} {token : UInt16}
  {chain : List ℕ}

open VirtIoQueue (Idle Posted popPosted)

/-- Once `add` has published a chain on an idle queue, the disk reads its head, serves the
chain and completes it with the number of bytes it wrote, and is left with nothing in flight. -/
theorem serve_posted {d : Disk} (hidle : Idle q d.queue) (hpost : Posted q q₁ token chain)
    {mem mem' : UInt64 → UInt8} {sectors' : ℕ → UInt8} {written : ℕ}
    (hserve : serveChain (chain.map q₁.descriptorTable) mem d.sectors = (mem', sectors', written)) :
    serve q₁ mem d = (DeviceQueue.pushUsed QUEUE_SIZE q₁.usedRing token written.toUInt32, mem',
      ⟨⟨d.queue.nextAvail + 1, []⟩, sectors'⟩) := by
  have hfetch : DeviceQueue.fetch q₁ d.queue = some ⟨q.availRing.idx + 1, [token]⟩ := by
    simp [DeviceQueue.fetch, hpost.idx, hidle.caught_up, hidle.none_in_flight, hpost.ring]
  have hcomplete : DeviceQueue.complete q₁ ⟨q.availRing.idx + 1, [token]⟩ token written.toUInt32 =
      some ({ q₁ with usedRing := DeviceQueue.pushUsed QUEUE_SIZE q₁.usedRing token written.toUInt32 },
        ⟨q.availRing.idx + 1, []⟩) := by
    simp [DeviceQueue.complete]
  simp only [serve, hfetch, hidle.caught_up, hpost.ring,
    LinkedChain.follow_size_of_isChain hpost.walk hpost.walk_nodup, hserve, hcomplete]

/-- On an idle queue, a request of at most sixteen buffers whose notification the register file
accepts goes through: the disk serves the chain as stored, with the buffers' addresses and
lengths in order, against the memory holding the header and the default status; the call
returns the status the disk wrote, and the queue is idle again. -/
theorem submit_idle {blk : VirtIOBlk} {d : Disk} (hidle : Idle blk.queue d.queue)
    (hshape : ChainShape data) (hlen : data.length ≤ QUEUE_SIZE) (hal : Hal) (request : BlkReq)
    (reqAddr respAddr : ℕ) (mem : UInt64 → UInt8) {o : IoLog.Oracle Access UInt32 VirtIoError}
    {h : List Access}
    (hnotify : ∀ e, o h (.write32 VirtIOHeader.queueNotify blk.queue.queueIdx.toUInt32) ≠ .error e) :
    ∃ descs : List Descriptor,
      descs.map (fun d ↦ (d.addr, d.len)) = data.map (fun d ↦ (d.addr, d.len)) ∧
      ∀ mem' sectors' written,
        serveChain descs (pendingLocals hal request reqAddr respAddr mem) d.sectors =
          (mem', sectors', written) →
        ∃ q' log, (blk.submit hal request reqAddr respAddr data serve mem d).run o h =
            (.ok (BlkRespStatus.toResult ⟨mem' (hal.toPaddr respAddr).toUInt64⟩,
              { blk with queue := q' }, mem', ⟨⟨d.queue.nextAvail + 1, []⟩, sectors'⟩), log) ∧
          Idle q' ⟨d.queue.nextAvail + 1, []⟩ ∧ q'.queueIdx = blk.queue.queueIdx := by
  obtain ⟨token, q₁, chain, hadd, hpost, hfields⟩ := hidle.add hshape hlen
  refine ⟨chain.map q₁.descriptorTable, hfields, fun mem' sectors' written hserve ↦ ?_⟩
  obtain ⟨log, hwait⟩ := hpost.addNotifyWaitPop hidle hadd hnotify written.toUInt32
  refine ⟨_, log, ?_, hpost.idle hidle written.toUInt32, hpost.queue_idx⟩
  have hdevice := serve_posted hidle hpost hserve
  rw [pendingLocals] at hdevice
  simp only [VirtIOBlk.submit, hadd, hdevice, hwait, IoLog.Io.bind_eq,
    IoLog.Io.run_bind, IoLog.Io.pure_eq, IoLog.Io.run_pure, List.append_nil]

end Disk

namespace BlockMove

/-- What a call does to the sectors and the memory, as a store of sectors would do it: a read
fills the buffer from the sectors, a write stores the buffer, a flush changes no byte, and a
request leaves its locals holding its header and the status `OK`; `flushes` says whether
`FLUSH` was negotiated. -/
def spec (hal : Hal) (flushes : Bool) :
    BlockMove → (ℕ → UInt8) × (UInt64 → UInt8) → (ℕ → UInt8) × (UInt64 → UInt8)
  | .readBlocks _ _ sector bufAddr bufLen reqAddr respAddr, (sectors, mem) =>
    (sectors, ByteMemory.write
      (Disk.requestLocals hal (BlkReq.new .In sector.toUInt64) reqAddr respAddr mem)
      (hal.toPaddr bufAddr).toUInt64 (Disk.readSpec sectors sector bufLen))
  | .writeBlocks _ _ sector bufAddr bufLen reqAddr respAddr, (sectors, mem) =>
    (Disk.writeSpec sectors sector (ByteMemory.read mem (hal.toPaddr bufAddr).toUInt64 bufLen),
      Disk.requestLocals hal (BlkReq.new .Out sector.toUInt64) reqAddr respAddr mem)
  | .flush _ _ reqAddr respAddr, (sectors, mem) =>
    (sectors, if flushes then Disk.requestLocals hal (BlkReq.new .Flush 0) reqAddr respAddr mem
      else mem)

/-- A data request the driver serves as asked: a buffer of a whole, non-zero number of sectors
below `2 ^ 32` bytes, a sector that fits `u64`, and the header, the status byte and the buffer
on runs of memory apart from each other. -/
structure DataRequest (hal : Hal) (sector bufAddr bufLen reqAddr respAddr : ℕ) : Prop where
  len_pos : 0 < bufLen
  whole_sectors : bufLen % SECTOR_SIZE = 0
  len_lt : bufLen < 2 ^ 32
  sector_lt : sector < 2 ^ 64
  header_status : Apart (hal.toPaddr reqAddr).toUInt64 16 (hal.toPaddr respAddr).toUInt64 1
  header_buffer : Apart (hal.toPaddr reqAddr).toUInt64 16 (hal.toPaddr bufAddr).toUInt64 bufLen
  status_buffer : Apart (hal.toPaddr respAddr).toUInt64 1 (hal.toPaddr bufAddr).toUInt64 bufLen

theorem DataRequest.asserts {hal : Hal} {sector bufAddr bufLen reqAddr respAddr : ℕ}
    (hreq : DataRequest hal sector bufAddr bufLen reqAddr respAddr) :
    ¬ (bufLen = 0 ∨ bufLen % SECTOR_SIZE ≠ 0) := by
  have hpos := hreq.len_pos
  have hwhole := hreq.whole_sectors
  omega

/-- The calls the refinement covers on a queue with index `queueIdx`: data requests as
`DataRequest` says, flushes whose two locals lie apart, each against a register file that
accepts the notification. -/
def Valid (hal : Hal) (queueIdx : UInt16) : BlockMove → Prop
  | .readBlocks o h sector bufAddr bufLen reqAddr respAddr =>
    DataRequest hal sector bufAddr bufLen reqAddr respAddr ∧
      ∀ e, o h (.write32 VirtIOHeader.queueNotify queueIdx.toUInt32) ≠ .error e
  | .writeBlocks o h sector bufAddr bufLen reqAddr respAddr =>
    DataRequest hal sector bufAddr bufLen reqAddr respAddr ∧
      ∀ e, o h (.write32 VirtIOHeader.queueNotify queueIdx.toUInt32) ≠ .error e
  | .flush o h reqAddr respAddr =>
    Apart (hal.toPaddr reqAddr).toUInt64 16 (hal.toPaddr respAddr).toUInt64 1 ∧
      ∀ e, o h (.write32 VirtIOHeader.queueNotify queueIdx.toUInt32) ≠ .error e

end BlockMove

namespace BlockSystem

variable (hal : Hal)

/-- The three buffers of a read or a write, as `request_read` and `request_write` chain them. -/
theorem chainShape_data (bufAddr bufLen reqAddr respAddr : ℕ) (flags : UInt16)
    (hflags : flags &&& DescFlag.NEXT != 0) :
    ChainShape [VirtIOBlk.headerDesc hal reqAddr, Descriptor.new hal bufAddr bufLen.toUInt32 flags,
      VirtIOBlk.statusDesc hal respAddr] :=
  .cons (VirtIOBlk.headerDesc_hasNext hal reqAddr)
    (.cons (by simpa using hflags) (chainShape_single (VirtIOBlk.statusDesc_hasNext hal respAddr)))

theorem chainShape_request (reqAddr respAddr : ℕ) :
    ChainShape [VirtIOBlk.headerDesc hal reqAddr, VirtIOBlk.statusDesc hal respAddr] :=
  .cons (VirtIOBlk.headerDesc_hasNext hal reqAddr)
    (chainShape_single (VirtIOBlk.statusDesc_hasNext hal respAddr))

theorem sector_toUInt64 {t : BlkReqType} {sector : ℕ} (h : sector < 2 ^ 64) :
    (BlkReq.new t sector.toUInt64).sector.toNat = sector := by
  simp only [BlkReq.new, Nat.toUInt64, UInt64.toNat_ofNat']
  exact Nat.mod_eq_of_lt h

theorem finish_of_run {p : Mmio (VirtIoResult Unit × VirtIOBlk × (UInt64 → UInt8) × Disk)}
    {o : IoLog.Oracle Access UInt32 VirtIoError} {h : List Access} {r : VirtIoResult Unit}
    {blk : VirtIOBlk} {mem : UInt64 → UInt8} {d : Disk} {log : List (Access × Except VirtIoError UInt32)}
    (hrun : p.run o h = (.ok (r, blk, mem, d), log)) : finish p o h = some (⟨blk, d, mem⟩, [r]) := by
  simp [finish, hrun]

variable {s : BlockSystem} {o : IoLog.Oracle Access UInt32 VirtIoError} {h : List Access}
  {sector bufAddr bufLen reqAddr respAddr : ℕ}

/-- A data request on an idle queue: the disk is handed the header in place, the buffer at the
caller's address with its length, and the status byte; whatever it does with them, the call
returns the status it wrote and leaves the queue idle. -/
theorem submit_data (hs : VirtIoQueue.Idle s.blk.queue s.disk.queue)
    (hreq : BlockMove.DataRequest hal sector bufAddr bufLen reqAddr respAddr)
    (hnotify : ∀ e, o h (.write32 VirtIOHeader.queueNotify s.blk.queue.queueIdx.toUInt32) ≠ .error e)
    (t : BlkReqType) (flags : UInt16) (hflags : flags &&& DescFlag.NEXT != 0) :
    ∃ hdr buf st : Descriptor, buf.addr = (hal.toPaddr bufAddr).toUInt64 ∧ buf.len.toNat = bufLen ∧
      st.addr = (hal.toPaddr respAddr).toUInt64 ∧
      ByteMemory.read (Disk.pendingLocals hal (BlkReq.new t sector.toUInt64) reqAddr respAddr s.mem)
        hdr.addr 16 = (BlkReq.new t sector.toUInt64).bytes ∧
      ∀ mem' sectors' written, Disk.serveChain [hdr, buf, st]
          (Disk.pendingLocals hal (BlkReq.new t sector.toUInt64) reqAddr respAddr s.mem) s.disk.sectors =
          (mem', sectors', written) →
        ∃ q' log, (s.blk.submit hal (BlkReq.new t sector.toUInt64) reqAddr respAddr
            [VirtIOBlk.headerDesc hal reqAddr, Descriptor.new hal bufAddr bufLen.toUInt32 flags,
              VirtIOBlk.statusDesc hal respAddr] Disk.serve s.mem s.disk).run o h =
            (.ok (BlkRespStatus.toResult ⟨mem' (hal.toPaddr respAddr).toUInt64⟩,
              { s.blk with queue := q' }, mem', ⟨⟨s.disk.queue.nextAvail + 1, []⟩, sectors'⟩), log) ∧
          VirtIoQueue.Idle q' ⟨s.disk.queue.nextAvail + 1, []⟩ ∧ q'.queueIdx = s.blk.queue.queueIdx := by
  obtain ⟨descs, hfields, hrun⟩ := Disk.submit_idle hs
    (chainShape_data hal bufAddr bufLen reqAddr respAddr flags hflags) (by simp [QUEUE_SIZE]) hal
    (BlkReq.new t sector.toUInt64) reqAddr respAddr s.mem hnotify
  obtain ⟨hdr, buf, st, rfl⟩ : ∃ hdr buf st, descs = [hdr, buf, st] :=
    List.length_eq_three.mp (by simpa using congrArg List.length hfields)
  simp only [List.map_cons, List.map_nil, List.cons.injEq, Prod.mk.injEq, VirtIOBlk.headerDesc,
    VirtIOBlk.statusDesc, Descriptor.new] at hfields
  obtain ⟨⟨hhdr, -⟩, ⟨hbuf, hbuf_len⟩, ⟨hst, -⟩, -⟩ := hfields
  have hlen : buf.len.toNat = bufLen := by
    simp only [hbuf_len, Nat.toUInt32, UInt32.toNat_ofNat']
    exact Nat.mod_eq_of_lt hreq.len_lt
  refine ⟨hdr, buf, st, hbuf, hlen, hst, ?_, hrun⟩
  rw [hhdr]
  exact Disk.read_header hreq.header_status

/-- `read_blocks` of a data request on an idle queue returns `Ok`: the buffer holds the bytes of
the sectors, the locals hold the header and `OK`, the sectors are unchanged, and the queue is
idle again. -/
theorem readBlocks_refines (hs : VirtIoQueue.Idle s.blk.queue s.disk.queue)
    (hreq : BlockMove.DataRequest hal sector bufAddr bufLen reqAddr respAddr)
    (hnotify : ∀ e, o h (.write32 VirtIOHeader.queueNotify s.blk.queue.queueIdx.toUInt32) ≠ .error e) :
    ∃ q' dq, s.step hal (.readBlocks o h sector bufAddr bufLen reqAddr respAddr) =
        some (⟨{ s.blk with queue := q' }, ⟨dq, s.disk.sectors⟩, ByteMemory.write
          (Disk.requestLocals hal (BlkReq.new .In sector.toUInt64) reqAddr respAddr s.mem)
          (hal.toPaddr bufAddr).toUInt64 (Disk.readSpec s.disk.sectors sector bufLen)⟩, [.ok ()]) ∧
      VirtIoQueue.Idle q' dq ∧ q'.queueIdx = s.blk.queue.queueIdx := by
  obtain ⟨hdr, buf, st, hbuf, hlen, hst, hheader, hrun⟩ :=
    submit_data hal hs hreq hnotify .In (DescFlag.NEXT ||| DescFlag.WRITE) (by decide)
  obtain ⟨q', log, hrun', hidle, hidx⟩ := hrun _ _ _ (Disk.serveChain_in hheader rfl)
  have hdata : (List.range buf.len.toNat).map (fun k ↦ s.disk.sectors
      (SECTOR_SIZE * (BlkReq.new .In sector.toUInt64).sector.toNat + k)) =
      Disk.readSpec s.disk.sectors sector bufLen := by
    rw [hlen, sector_toUInt64 hreq.sector_lt]
    rfl
  have hapart : Apart (hal.toPaddr bufAddr).toUInt64 (Disk.readSpec s.disk.sectors sector bufLen).length
      (hal.toPaddr respAddr).toUInt64 1 := by
    simpa [Disk.readSpec] using hreq.status_buffer.symm
  rw [hbuf, hst, hdata, Disk.pendingLocals_ok_of_apart hapart] at hrun'
  refine ⟨q', _, ?_, hidle, hidx⟩
  simp only [step, VirtIOBlk.readBlocks, if_neg hreq.asserts, VirtIOBlk.requestRead,
    finish_of_run hrun', ByteMemory.write_apart_self hapart Nat.one_pos, Disk.requestLocals_status]
  rfl

/-- `write_blocks` of a data request on an idle queue returns `Ok`: the sectors hold the buffer
from the start of the sector on, the locals hold the header and `OK`, and the queue is idle
again. -/
theorem writeBlocks_refines (hs : VirtIoQueue.Idle s.blk.queue s.disk.queue)
    (hreq : BlockMove.DataRequest hal sector bufAddr bufLen reqAddr respAddr)
    (hnotify : ∀ e, o h (.write32 VirtIOHeader.queueNotify s.blk.queue.queueIdx.toUInt32) ≠ .error e) :
    ∃ q' dq, s.step hal (.writeBlocks o h sector bufAddr bufLen reqAddr respAddr) =
        some (⟨{ s.blk with queue := q' }, ⟨dq, Disk.writeSpec s.disk.sectors sector
          (ByteMemory.read s.mem (hal.toPaddr bufAddr).toUInt64 bufLen)⟩,
          Disk.requestLocals hal (BlkReq.new .Out sector.toUInt64) reqAddr respAddr s.mem⟩, [.ok ()]) ∧
      VirtIoQueue.Idle q' dq ∧ q'.queueIdx = s.blk.queue.queueIdx := by
  obtain ⟨hdr, buf, st, hbuf, hlen, hst, hheader, hrun⟩ :=
    submit_data hal hs hreq hnotify .Out DescFlag.NEXT (by decide)
  obtain ⟨q', log, hrun', hidle, hidx⟩ := hrun _ _ _ (Disk.serveChain_out hheader rfl)
  rw [hlen, hbuf, sector_toUInt64 hreq.sector_lt,
    Disk.pending_writeSpec hreq.header_buffer hreq.status_buffer, hst, Disk.pendingLocals_ok] at hrun'
  refine ⟨q', _, ?_, hidle, hidx⟩
  simp only [step, VirtIOBlk.writeBlocks, if_neg hreq.asserts, VirtIOBlk.requestWrite,
    finish_of_run hrun', Disk.requestLocals_status]
  rfl

/-- `flush` on an idle queue returns `Ok` and changes no sector: with `FLUSH` negotiated it
sends a flush request, which leaves its locals holding the header and `OK`; without, it does
nothing. -/
theorem flush_refines (hs : VirtIoQueue.Idle s.blk.queue s.disk.queue)
    (happart : Apart (hal.toPaddr reqAddr).toUInt64 16 (hal.toPaddr respAddr).toUInt64 1)
    (hnotify : ∀ e, o h (.write32 VirtIOHeader.queueNotify s.blk.queue.queueIdx.toUInt32) ≠ .error e) :
    ∃ q' dq, s.step hal (.flush o h reqAddr respAddr) =
        some (⟨{ s.blk with queue := q' }, ⟨dq, s.disk.sectors⟩,
          if s.blk.negotiatedFeatures &&& BlkFeature.FLUSH != 0 then
            Disk.requestLocals hal (BlkReq.new .Flush 0) reqAddr respAddr s.mem
          else s.mem⟩, [.ok ()]) ∧
      VirtIoQueue.Idle q' dq ∧ q'.queueIdx = s.blk.queue.queueIdx := by
  by_cases hflush : (s.blk.negotiatedFeatures &&& BlkFeature.FLUSH != 0) = true
  case neg =>
    refine ⟨s.blk.queue, s.disk.queue, ?_, hs, rfl⟩
    simp only [step, VirtIOBlk.flush, hflush, if_false, Bool.false_eq_true]
    rfl
  obtain ⟨descs, hfields, hrun⟩ := Disk.submit_idle hs (chainShape_request hal reqAddr respAddr)
    (by simp [QUEUE_SIZE]) hal (BlkReq.new .Flush 0) reqAddr respAddr s.mem hnotify
  obtain ⟨hdr, st, rfl⟩ : ∃ hdr st, descs = [hdr, st] :=
    List.length_eq_two.mp (by simpa using congrArg List.length hfields)
  simp only [List.map_cons, List.map_nil, List.cons.injEq, Prod.mk.injEq, VirtIOBlk.headerDesc,
    VirtIOBlk.statusDesc, Descriptor.new] at hfields
  obtain ⟨⟨hhdr, -⟩, ⟨hst, -⟩, -⟩ := hfields
  have hheader : ByteMemory.read (Disk.pendingLocals hal (BlkReq.new .Flush 0) reqAddr respAddr s.mem)
      hdr.addr 16 = (BlkReq.new .Flush 0).bytes := by
    rw [hhdr]
    exact Disk.read_header happart
  obtain ⟨q', log, hrun', hidle, hidx⟩ := hrun _ _ _ (Disk.serveChain_flush hheader rfl)
  rw [hst, Disk.pendingLocals_ok] at hrun'
  refine ⟨q', _, ?_, hidle, hidx⟩
  simp only [step, VirtIOBlk.flush, hflush, if_true, VirtIOBlk.request, finish_of_run hrun',
    Disk.requestLocals_status]
  rfl

/-- Every call the refinement covers, on an idle queue, returns `Ok`, moves the sectors and the
memory as the spec does, touches no other field of the driver and leaves the queue idle. -/
theorem step_refines (hs : VirtIoQueue.Idle s.blk.queue s.disk.queue) {m : BlockMove}
    (hm : m.Valid hal s.blk.queue.queueIdx) :
    ∃ s', s.step hal m = some (s', [.ok ()]) ∧
      (s'.disk.sectors, s'.mem) =
        m.spec hal (s.blk.negotiatedFeatures &&& BlkFeature.FLUSH != 0) (s.disk.sectors, s.mem) ∧
      VirtIoQueue.Idle s'.blk.queue s'.disk.queue ∧ s'.blk = { s.blk with queue := s'.blk.queue } ∧
      s'.blk.queue.queueIdx = s.blk.queue.queueIdx := by
  cases m with
  | readBlocks o h sector bufAddr bufLen reqAddr respAddr =>
    obtain ⟨q', dq, hstep, hidle, hidx⟩ := readBlocks_refines hal hs hm.1 hm.2
    exact ⟨_, hstep, rfl, hidle, rfl, hidx⟩
  | writeBlocks o h sector bufAddr bufLen reqAddr respAddr =>
    obtain ⟨q', dq, hstep, hidle, hidx⟩ := writeBlocks_refines hal hs hm.1 hm.2
    exact ⟨_, hstep, rfl, hidle, rfl, hidx⟩
  | flush o h reqAddr respAddr =>
    obtain ⟨q', dq, hstep, hidle, hidx⟩ := flush_refines hal hs hm.1 hm.2
    exact ⟨_, hstep, rfl, hidle, rfl, hidx⟩

/-- Every run of covered calls from an idle queue returns `Ok` for each call, and the sectors
and the memory end as the spec, run over the same calls, leaves them. -/
theorem run_refines : ∀ {s : BlockSystem} (moves : List BlockMove),
    VirtIoQueue.Idle s.blk.queue s.disk.queue → (∀ m ∈ moves, m.Valid hal s.blk.queue.queueIdx) →
    ∃ s', Trace.run (step hal) s moves = some (s', moves.map fun _ ↦ .ok ()) ∧
      (s'.disk.sectors, s'.mem) = moves.foldl
        (fun st m ↦ m.spec hal (s.blk.negotiatedFeatures &&& BlkFeature.FLUSH != 0) st)
        (s.disk.sectors, s.mem) ∧
      VirtIoQueue.Idle s'.blk.queue s'.disk.queue
  | s, moves, hs, hvalid => by
    have hstep : ∀ (t : BlockSystem) (m : BlockMove), (VirtIoQueue.Idle t.blk.queue t.disk.queue ∧
        t.blk.negotiatedFeatures = s.blk.negotiatedFeatures) → m.Valid hal t.blk.queue.queueIdx →
        ∃ t', t.step hal m = some (t', [.ok ()]) ∧
          (t'.disk.sectors, t'.mem) = m.spec hal (s.blk.negotiatedFeatures &&& BlkFeature.FLUSH != 0)
            (t.disk.sectors, t.mem) ∧
          (VirtIoQueue.Idle t'.blk.queue t'.disk.queue ∧
            t'.blk.negotiatedFeatures = s.blk.negotiatedFeatures) ∧
          ∀ m' : BlockMove, m'.Valid hal t.blk.queue.queueIdx → m'.Valid hal t'.blk.queue.queueIdx := by
      intro t m ht hm
      obtain ⟨t', hstep, habs, hidle, hblk, hidx⟩ := step_refines hal ht.1 hm
      have hfeatures : t'.blk.negotiatedFeatures = s.blk.negotiatedFeatures := by
        rw [hblk]
        exact ht.2
      refine ⟨t', hstep, by rw [habs, ht.2], ⟨hidle, hfeatures⟩, fun m' hm' ↦ ?_⟩
      rw [hidx]
      exact hm'
    obtain ⟨s', hrun, habs, hidle, -⟩ := Trace.run_refines hstep moves s ⟨hs, rfl⟩ hvalid
    exact ⟨s', by rw [List.map_eq_flatMap]; exact hrun, habs, hidle⟩

end BlockSystem

end SafeVirtio
