import SafeVirtio.Device.GpuHost
import SafeVirtio.Lib.Channel

/-!
# The GPU driver shows its frame buffer

What `setup_framebuffer` and `flush` are for, said without the queues: the application draws
into a buffer of the display's size, and a flush shows the buffer on the screen (`Frame`).

The driver meets that against the host of `GpuHost`.  Each command is one turn of the control
queue: on an idle queue `request` posts the request and the response buffer, the host answers
the request as stored in the local, and the wait takes the chain back and leaves the queue idle
(`request_idle`); a command answered with a bare header returns what `check_type` makes of the
answer (`requestNodata_idle`).  Since the host decodes every request as the command the driver
meant, each of the driver's commands does on the host what its name says.

`setup_framebuffer` against a host whose display sits at the origin, with bytes that fit `u32`,
leaves the driver and the host `Ready`: the rectangle recorded, the frame buffer resource of the
display's size backed by the buffer and shown on the scanout (`setupFramebuffer_ready`).  From
there `flush` transfers the buffer to the resource and flushes it, so the screen shows the
buffer's bytes as the call found them, and the system is ready again (`flush_refines`).  Drawing
and flushing in any order, from any ready system, is the spec run over the same moves
(`GpuSystem.run_refines`), and so is every run from a driver `new` returns
(`framebuffer_refines`).  The `u32` bound is where the code stops meeting the spec:
`width * height * 4` wraps, and the backing the driver attaches is then shorter than the resource
(`SafeVirtio.Device.GpuOverflow`).
-/

namespace SafeVirtio

namespace VirtIOGpu

open ByteMemory (Apart)
open VirtIoQueue (Idle Posted popPosted)

/-- A register file that accepts every notification of the queue `queueIdx`. -/
def AcceptsNotify (o : IoLog.Oracle Access UInt32 VirtIoError) (queueIdx : UInt16) : Prop :=
  ∀ h e, o h (.write32 VirtIOHeader.queueNotify queueIdx.toUInt32) ≠ .error e

/-- The memory while a request is in flight, as `request` stores its locals: `req` at `reqAddr`
and the default response `rsp` at `rspAddr`. -/
def pendingLocals (hal : Hal) (req rsp : List UInt8) (reqAddr rspAddr : ℕ) (mem : UInt64 → UInt8) :
    UInt64 → UInt8 :=
  ByteMemory.write (ByteMemory.write mem (hal.toPaddr reqAddr).toUInt64 req)
    (hal.toPaddr rspAddr).toUInt64 rsp

/-! ## Sequencing -/

section Sequencing

variable {o : IoLog.Oracle Access UInt32 VirtIoError} {σ δ α β : Type}

theorem yields_andThen {p : Mmio (VirtIoResult α × σ × (UInt64 → UInt8) × δ)}
    {k : α → σ → (UInt64 → UInt8) → δ → Mmio (VirtIoResult β × σ × (UInt64 → UInt8) × δ)}
    {a : α} {s : σ} {mem : UInt64 → UInt8} {d : δ} {r : VirtIoResult β × σ × (UInt64 → UInt8) × δ}
    (hp : IoLog.Yields p o (.ok a, s, mem, d)) (hk : IoLog.Yields (k a s mem d) o r) :
    IoLog.Yields (andThen p k) o r :=
  IoLog.Yields.bind hp hk

/-- A command of the driver yields what it yields on the driver, the rest of the display state
kept. -/
theorem yields_command {g : GpuDisplay}
    {p : VirtIOGpu → Mmio (VirtIoResult α × VirtIOGpu × (UInt64 → UInt8) × δ)}
    {r : VirtIoResult α} {gpu : VirtIOGpu} {mem : UInt64 → UInt8} {d : δ}
    (hp : IoLog.Yields (p g.toVirtIOGpu) o (r, gpu, mem, d)) :
    IoLog.Yields (g.command p) o (r, { g with toVirtIOGpu := gpu }, mem, d) :=
  IoLog.Yields.bind hp (IoLog.Yields.pure _)

end Sequencing

/-! ## One command on an idle queue -/

section Request

variable {hal : Hal} {req rsp : List UInt8} {reqAddr rspAddr : ℕ} {mem : UInt64 → UInt8}

theorem read_request
    (h : Apart (hal.toPaddr reqAddr).toUInt64 req.length (hal.toPaddr rspAddr).toUInt64 rsp.length)
    (hreq : req.length < 2 ^ 32) :
    ByteMemory.read (pendingLocals hal req rsp reqAddr rspAddr mem) (hal.toPaddr reqAddr).toUInt64
      req.length = req := by
  rw [pendingLocals, ByteMemory.read_write_apart h.symm]
  exact ByteMemory.read_write (by omega)

theorem chainShape_request (hal : Hal) (req rsp : List UInt8) (reqAddr rspAddr : ℕ) :
    ChainShape [Descriptor.new hal reqAddr req.length.toUInt32 DescFlag.NEXT,
      Descriptor.new hal rspAddr rsp.length.toUInt32 DescFlag.WRITE] :=
  .cons (by rw [Descriptor.new_hasNext]; decide)
    (chainShape_single (by rw [Descriptor.new_hasNext]; decide))

theorem toNat_toUInt32 {n : ℕ} (h : n < 2 ^ 32) : n.toUInt32.toNat = n := by
  simp only [Nat.toUInt32, UInt32.toNat_ofNat']
  exact Nat.mod_eq_of_lt h

/-- The host's turn on a request chained as `request` chains it: it answers the request with
`reply` and writes as much of it as fits into the response buffer. -/
theorem serveControl_request {d₀ d₁ : Descriptor} {host host' : GpuHost} {reply : List UInt8}
    (h₀ : (d₀.addr, d₀.len) = ((hal.toPaddr reqAddr).toUInt64, req.length.toUInt32))
    (h₁ : (d₁.addr, d₁.len) = ((hal.toPaddr rspAddr).toUInt64, rsp.length.toUInt32))
    (happart : Apart (hal.toPaddr reqAddr).toUInt64 req.length (hal.toPaddr rspAddr).toUInt64 rsp.length)
    (hreq : req.length < 2 ^ 32) (hrsp : rsp.length < 2 ^ 32)
    (hrespond : host.respond (pendingLocals hal req rsp reqAddr rspAddr mem) req = (reply, host')) :
    GpuHost.serveControl [d₀, d₁] (pendingLocals hal req rsp reqAddr rspAddr mem, host) =
      ((ByteMemory.write (pendingLocals hal req rsp reqAddr rspAddr mem)
        (hal.toPaddr rspAddr).toUInt64 (reply.take rsp.length), host'),
        (reply.take rsp.length).length) := by
  simp only [Prod.mk.injEq] at h₀ h₁
  simp only [GpuHost.serveControl, h₀.1, h₀.2, h₁.1, h₁.2, toNat_toUInt32 hreq, toNat_toUInt32 hrsp,
    read_request happart hreq, hrespond]

/-- The memory once the host has written `reply` into the response buffer, as much as fits. -/
def answeredLocals (hal : Hal) (req rsp reply : List UInt8) (reqAddr rspAddr : ℕ)
    (mem : UInt64 → UInt8) : UInt64 → UInt8 :=
  ByteMemory.write (pendingLocals hal req rsp reqAddr rspAddr mem) (hal.toPaddr rspAddr).toUInt64
    (reply.take rsp.length)

variable {o : IoLog.Oracle Access UInt32 VirtIoError}

/-- On an idle control queue whose notification the register file accepts, `request` goes
through: the host answers the request as stored in the local, the response returned is the
local as the host left it, and the queue is idle again. -/
theorem request_idle {gpu : VirtIOGpu} {host host' : GpuHost} {reply : List UInt8}
    (hidle : Idle gpu.controlQueue host.control) (hctl : gpu.controlQueue.queueIdx ≠ QUEUE_CURSOR)
    (hnotify : AcceptsNotify o gpu.controlQueue.queueIdx)
    (happart : Apart (hal.toPaddr reqAddr).toUInt64 req.length (hal.toPaddr rspAddr).toUInt64 rsp.length)
    (hreq : req.length < 2 ^ 32) (hrsp : rsp.length < 2 ^ 32)
    (hrespond : host.respond (pendingLocals hal req rsp reqAddr rspAddr mem) req = (reply, host')) :
    ∃ q', IoLog.Yields (gpu.request hal req rsp reqAddr rspAddr GpuHost.serve mem host) o
        (.ok (ByteMemory.read (answeredLocals hal req rsp reply reqAddr rspAddr mem)
            (hal.toPaddr rspAddr).toUInt64 rsp.length),
          { gpu with controlQueue := q' }, answeredLocals hal req rsp reply reqAddr rspAddr mem,
          { host' with control := ⟨host.control.nextAvail + 1, []⟩ }) ∧
      Idle q' ⟨host.control.nextAvail + 1, []⟩ ∧ q'.queueIdx = gpu.controlQueue.queueIdx := by
  obtain ⟨token, q₁, chain, hadd, hpost, hfields⟩ :=
    hidle.add (chainShape_request hal req rsp reqAddr rspAddr) (by simp [QUEUE_SIZE])
  obtain ⟨d₀, d₁, hdescs⟩ : ∃ d₀ d₁, chain.map q₁.descriptorTable = [d₀, d₁] :=
    List.length_eq_two.mp (by simpa using congrArg List.length hfields)
  rw [hdescs] at hfields
  simp only [List.map_cons, List.map_nil, List.cons.injEq, Descriptor.new] at hfields
  obtain ⟨h₀, h₁, -⟩ := hfields
  have hserve := serveControl_request h₀ h₁ happart hreq hrsp hrespond
  rw [← hdescs] at hserve
  have hdevice : GpuHost.serve q₁ (pendingLocals hal req rsp reqAddr rspAddr mem) host =
      (DeviceQueue.pushUsed QUEUE_SIZE q₁.usedRing token (reply.take rsp.length).length.toUInt32,
        answeredLocals hal req rsp reply reqAddr rspAddr mem,
        { host' with control := ⟨host.control.nextAvail + 1, []⟩ }) := by
    simp only [GpuHost.serve, hpost.queue_idx, hctl, if_false, hpost.serveNext hidle hserve,
      answeredLocals]
  rw [pendingLocals] at hdevice
  refine ⟨popPosted q₁ token chain (reply.take rsp.length).length.toUInt32, fun h ↦ ?_,
    hpost.idle hidle _, hpost.queue_idx⟩
  obtain ⟨log, hwait⟩ := hpost.addNotifyWaitPop hidle hadd (hnotify h)
    (reply.take rsp.length).length.toUInt32
  refine ⟨log, ?_⟩
  simp only [request, hadd, hdevice, hwait, IoLog.Io.bind_eq, IoLog.Io.run_bind, IoLog.Io.pure_eq,
    IoLog.Io.run_pure, List.append_nil]

theorem read_answeredLocals {reply : List UInt8} (hlen : reply.length = rsp.length)
    (hrsp : rsp.length ≤ 2 ^ 64) :
    ByteMemory.read (answeredLocals hal req rsp reply reqAddr rspAddr mem)
      (hal.toPaddr rspAddr).toUInt64 rsp.length = reply := by
  rw [answeredLocals, List.take_of_length_le hlen.le, ← hlen]
  exact ByteMemory.read_write (hlen ▸ hrsp)

/-- One of the five commands answered with a bare header, on an idle control queue: the host
carries out the command the request decodes as, and the driver returns `check_type(OK_NODATA)`
of its answer. -/
theorem requestNodata_idle {gpu : VirtIOGpu} {host host' : GpuHost} {cmd : Command}
    {payload reply : List UInt8} {c : HostCommand}
    (hidle : Idle gpu.controlQueue host.control) (hctl : gpu.controlQueue.queueIdx ≠ QUEUE_CURSOR)
    (hnotify : AcceptsNotify o gpu.controlQueue.queueIdx)
    (happart : Apart (hal.toPaddr reqAddr).toUInt64 (24 + payload.length)
      (hal.toPaddr rspAddr).toUInt64 24)
    (hpayload : 24 + payload.length < 2 ^ 32)
    (hdecode : decode ((CtrlHeader.withType cmd).bytes ++ payload) = some c)
    (hexec : host.exec (pendingLocals hal ((CtrlHeader.withType cmd).bytes ++ payload)
      CtrlHeader.default.bytes reqAddr rspAddr mem) c = (reply, host'))
    (hlen : reply.length = 24) :
    ∃ q', IoLog.Yields (gpu.requestNodata hal cmd payload reqAddr rspAddr GpuHost.serve mem host) o
        ((CtrlHeader.ofBytes reply).checkType .OK_NODATA, { gpu with controlQueue := q' },
          answeredLocals hal ((CtrlHeader.withType cmd).bytes ++ payload) CtrlHeader.default.bytes
            reply reqAddr rspAddr mem,
          { host' with control := ⟨host.control.nextAvail + 1, []⟩ }) ∧
      Idle q' ⟨host.control.nextAvail + 1, []⟩ ∧ q'.queueIdx = gpu.controlQueue.queueIdx := by
  have hrespond : host.respond (pendingLocals hal ((CtrlHeader.withType cmd).bytes ++ payload)
      CtrlHeader.default.bytes reqAddr rspAddr mem) ((CtrlHeader.withType cmd).bytes ++ payload) =
      (reply, host') := by
    rw [GpuHost.respond, hdecode]
    exact hexec
  obtain ⟨q', hyield, hidle', hidx⟩ := request_idle hidle hctl hnotify (by simpa using happart)
    (by simpa using hpayload) (by simp) hrespond
  rw [read_answeredLocals (by simpa using hlen) (by simp)] at hyield
  exact ⟨q', yields_andThen hyield (IoLog.Yields.pure _), hidle', hidx⟩

theorem pendingLocals_apart {b : UInt64} {n k : ℕ}
    (hreq : Apart (hal.toPaddr reqAddr).toUInt64 req.length b n)
    (hrsp : Apart (hal.toPaddr rspAddr).toUInt64 rsp.length b n) (hk : k < n) :
    pendingLocals hal req rsp reqAddr rspAddr mem (b + k.toUInt64) = mem (b + k.toUInt64) := by
  rw [pendingLocals, ByteMemory.write_apart hrsp hk, ByteMemory.write_apart hreq hk]

theorem answeredLocals_apart {b : UInt64} {n k : ℕ} {reply : List UInt8}
    (hreq : Apart (hal.toPaddr reqAddr).toUInt64 req.length b n)
    (hrsp : Apart (hal.toPaddr rspAddr).toUInt64 rsp.length b n) (hk : k < n) :
    answeredLocals hal req rsp reply reqAddr rspAddr mem (b + k.toUInt64) = mem (b + k.toUInt64) := by
  have hreply : Apart (hal.toPaddr rspAddr).toUInt64 (reply.take rsp.length).length b n :=
    hrsp.mono (by simp) le_rfl
  rw [answeredLocals, ByteMemory.write_apart hreply hk, pendingLocals_apart hreq hrsp hk]

/-- What a command leaves of the memory: every run apart from both locals, as long as the
longest request and the longest response, reads as before. -/
def LocalsOnly (hal : Hal) (reqAddr rspAddr : ℕ) (mem mem' : UInt64 → UInt8) : Prop :=
  ∀ (b : UInt64) (n : ℕ), Apart (hal.toPaddr reqAddr).toUInt64 56 b n →
    Apart (hal.toPaddr rspAddr).toUInt64 48 b n → ∀ k < n, mem' (b + k.toUInt64) = mem (b + k.toUInt64)

theorem LocalsOnly.trans {mem₁ mem₂ : UInt64 → UInt8} (h₁ : LocalsOnly hal reqAddr rspAddr mem mem₁)
    (h₂ : LocalsOnly hal reqAddr rspAddr mem₁ mem₂) : LocalsOnly hal reqAddr rspAddr mem mem₂ :=
  fun b n hreq_buf hrsp_buf k hk ↦
    (h₂ b n hreq_buf hrsp_buf k hk).trans (h₁ b n hreq_buf hrsp_buf k hk)

end Request

/-! ## The frame buffer -/

/-- The bytes of a display of pixels of four bytes. -/
def frameSize (r : Rect) : ℕ := r.width.toNat * r.height.toNat * 4

/-- `width * height * 4` in `u32`, as `setup_framebuffer` sizes the buffer, is the display's size
when that fits. -/
theorem toNat_frameSize {r : Rect} (h : frameSize r < 2 ^ 32) :
    (r.width * r.height * 4).toNat = frameSize r := by
  have hwh : r.width.toNat * r.height.toNat < 2 ^ 32 := by
    unfold frameSize at h
    omega
  rw [UInt32.toNat_mul, UInt32.toNat_mul, Nat.mod_eq_of_lt hwh]
  exact Nat.mod_eq_of_lt h

/-- Where a call keeps its locals: the request at `reqAddr` and the response at `rspAddr`, runs as
long as the longest request (`56` bytes) and the longest response (`48`), apart from each other
and from the `size` bytes at `buf`. -/
structure LocalsApart (hal : Hal) (reqAddr rspAddr : ℕ) (buf : UInt64) (size : ℕ) : Prop where
  req_rsp : Apart (hal.toPaddr reqAddr).toUInt64 56 (hal.toPaddr rspAddr).toUInt64 48
  req_buf : Apart (hal.toPaddr reqAddr).toUInt64 56 buf size
  rsp_buf : Apart (hal.toPaddr rspAddr).toUInt64 48 buf size

/-- The driver and the host once `setup_framebuffer` has gone through with the frame buffer at
`fb`: the control queue is idle, the driver has recorded the display's rectangle and the
buffer; the display is at the origin and its bytes fit `u32`; the host has the frame buffer
resource of the display's size, backed by the buffer, and shows it on the scanout. -/
structure Ready (g : GpuDisplay) (host : GpuHost) (fb : ℕ) : Prop where
  idle : Idle g.controlQueue host.control
  control : g.controlQueue.queueIdx ≠ QUEUE_CURSOR
  rect : g.rect = some host.display
  buffer : g.frameBufferDma = some fb
  origin : host.display = ⟨0, 0, host.display.width, host.display.height⟩
  size_lt : frameSize host.display < 2 ^ 32
  resource : ∃ image, host.resources RESOURCE_ID_FB = some ⟨host.display.width,
    host.display.height, some (fb.toUInt64, host.display.width * host.display.height * 4), image⟩
  scanout : host.scanout = some RESOURCE_ID_FB

section Flush

variable {hal : Hal} {reqAddr rspAddr : ℕ} {o : IoLog.Oracle Access UInt32 VirtIoError}
  {gpu : VirtIOGpu} {host : GpuHost} {w h : UInt32} {buf : UInt64} {image : ℕ → UInt8}

/-- `transfer_to_host_2d` of the whole of a resource backed by `buf` with as many bytes as it
has: the resource's image becomes the buffer's bytes, as the call found them. -/
theorem transferToHost2D_idle {id : UInt32} (hidle : Idle gpu.controlQueue host.control)
    (hctl : gpu.controlQueue.queueIdx ≠ QUEUE_CURSOR) (hnotify : AcceptsNotify o gpu.controlQueue.queueIdx)
    (hres : host.resources id = some ⟨w, h, some (buf, w * h * 4), image⟩)
    (hsize : frameSize ⟨0, 0, w, h⟩ < 2 ^ 32)
    (hlocals : LocalsApart hal reqAddr rspAddr buf (frameSize ⟨0, 0, w, h⟩)) (mem : UInt64 → UInt8) :
    ∃ q' mem', IoLog.Yields (gpu.transferToHost2D hal ⟨0, 0, w, h⟩ 0 id reqAddr rspAddr
        GpuHost.serve mem host) o
        (.ok (), { gpu with controlQueue := q' }, mem',
          { host with
            control := ⟨host.control.nextAvail + 1, []⟩
            resources := Function.update host.resources id (some ⟨w, h, some (buf, w * h * 4),
              fun b ↦ if b < frameSize ⟨0, 0, w, h⟩ then mem (buf + b.toUInt64) else image b⟩) }) ∧
      Idle q' ⟨host.control.nextAvail + 1, []⟩ ∧ q'.queueIdx = gpu.controlQueue.queueIdx ∧
      ∀ k < frameSize ⟨0, 0, w, h⟩, mem' (buf + k.toUInt64) = mem (buf + k.toUInt64) := by
  let req := (CtrlHeader.withType .TRANSFER_TO_HOST_2D).bytes ++
    ((⟨0, 0, w, h⟩ : Rect).bytes ++ u64Bytes 0 ++ u32Bytes id ++ u32Bytes 0)
  have hreq : req.length = 56 := by simp [req]
  have hreq_buf : Apart (hal.toPaddr reqAddr).toUInt64 req.length buf (frameSize ⟨0, 0, w, h⟩) := by
    rw [hreq]
    exact hlocals.req_buf
  have hrsp_buf : Apart (hal.toPaddr rspAddr).toUInt64 CtrlHeader.default.bytes.length buf
      (frameSize ⟨0, 0, w, h⟩) :=
    hlocals.rsp_buf.mono (by simp) le_rfl
  have hcopy : (fun b ↦ if b < frameSize ⟨0, 0, w, h⟩ then
        pendingLocals hal req CtrlHeader.default.bytes reqAddr rspAddr mem (buf + b.toUInt64)
        else image b) =
      fun b ↦ if b < frameSize ⟨0, 0, w, h⟩ then mem (buf + b.toUInt64) else image b := by
    funext b
    split_ifs with hb
    · exact pendingLocals_apart hreq_buf hrsp_buf hb
    · rfl
  have hlen : w.toNat * h.toNat * 4 ≤ (w * h * 4).toNat := (toNat_frameSize hsize).ge
  have htransfer : (⟨w, h, some (buf, w * h * 4), image⟩ : Resource).transfer ⟨0, 0, w, h⟩ 0
      (pendingLocals hal req CtrlHeader.default.bytes reqAddr rspAddr mem) = some _ :=
    Resource.transfer_origin hlen _
  obtain ⟨q', hyield, hidle', hidx⟩ := requestNodata_idle hidle hctl hnotify
    (by simpa [req] using hlocals.req_rsp.mono (by simp) (by simp))
    (by simp) (decode_transferToHost2D _ _ _) (GpuHost.exec_transferToHost2D _ hres htransfer)
    GpuHost.length_okNodata
  refine ⟨q', answeredLocals hal req CtrlHeader.default.bytes GpuHost.okNodata reqAddr rspAddr mem, ?_,
    hidle', hidx, fun k hk ↦ answeredLocals_apart hreq_buf hrsp_buf hk⟩
  rw [frameSize] at hcopy
  rw [GpuHost.checkType_okNodata, hcopy] at hyield
  exact hyield

/-- `resource_flush` of the whole display while the scanout shows the frame buffer resource: the
screen shows the resource's image over the display's bytes. -/
theorem resourceFlush_idle {backing : Option (UInt64 × UInt32)} (hidle : Idle gpu.controlQueue host.control)
    (hctl : gpu.controlQueue.queueIdx ≠ QUEUE_CURSOR) (hnotify : AcceptsNotify o gpu.controlQueue.queueIdx)
    (hres : host.resources RESOURCE_ID_FB = some ⟨w, h, backing, image⟩)
    (hscanout : host.scanout = some RESOURCE_ID_FB)
    (hlocals : LocalsApart hal reqAddr rspAddr buf (frameSize ⟨0, 0, w, h⟩)) (mem : UInt64 → UInt8) :
    ∃ q' mem', IoLog.Yields (gpu.resourceFlush hal ⟨0, 0, w, h⟩ RESOURCE_ID_FB reqAddr rspAddr
        GpuHost.serve mem host) o
        (.ok (), { gpu with controlQueue := q' }, mem',
          { host with
            control := ⟨host.control.nextAvail + 1, []⟩
            screen := fun b ↦ if b < frameSize ⟨0, 0, w, h⟩ then image b else host.screen b }) ∧
      Idle q' ⟨host.control.nextAvail + 1, []⟩ ∧ q'.queueIdx = gpu.controlQueue.queueIdx ∧
      ∀ k < frameSize ⟨0, 0, w, h⟩, mem' (buf + k.toUInt64) = mem (buf + k.toUInt64) := by
  let req := (CtrlHeader.withType .RESOURCE_FLUSH).bytes ++
    ((⟨0, 0, w, h⟩ : Rect).bytes ++ u32Bytes RESOURCE_ID_FB ++ u32Bytes 0)
  have hreq_buf : Apart (hal.toPaddr reqAddr).toUInt64 req.length buf (frameSize ⟨0, 0, w, h⟩) :=
    hlocals.req_buf.mono (by simp [req]) le_rfl
  have hrsp_buf : Apart (hal.toPaddr rspAddr).toUInt64 CtrlHeader.default.bytes.length buf
      (frameSize ⟨0, 0, w, h⟩) :=
    hlocals.rsp_buf.mono (by simp) le_rfl
  have hfits : (⟨w, h, backing, image⟩ : Resource).fits ⟨0, 0, w, h⟩ = true := by
    simp [Resource.fits]
  obtain ⟨q', hyield, hidle', hidx⟩ := requestNodata_idle hidle hctl hnotify
    (by simpa [req] using hlocals.req_rsp.mono (by simp) (by simp))
    (by simp) (decode_resourceFlush _ _) (GpuHost.exec_resourceFlush _ hres hfits)
    GpuHost.length_okNodata
  refine ⟨q', answeredLocals hal req CtrlHeader.default.bytes GpuHost.okNodata reqAddr rspAddr mem, ?_,
    hidle', hidx, fun k hk ↦ answeredLocals_apart hreq_buf hrsp_buf hk⟩
  rw [GpuHost.checkType_okNodata, GpuHost.flushResource_origin hscanout] at hyield
  exact hyield

end Flush

section Display

variable {hal : Hal} {reqAddr rspAddr : ℕ} {o : IoLog.Oracle Access UInt32 VirtIoError}
  {g : GpuDisplay} {host : GpuHost} {fb : ℕ}

/-- What a frame move leaves of the cursor's side: its queue at both ends, the cursor, and every
resource but the frame buffer's. -/
structure CursorKept (g g' : GpuDisplay) (host host' : GpuHost) : Prop where
  queue : g'.cursorQueue = g.cursorQueue
  device : host'.cursorQueue = host.cursorQueue
  cursor : host'.cursor = host.cursor
  resources : ∀ id, id ≠ RESOURCE_ID_FB → host'.resources id = host.resources id

theorem flush_of_rect {δ : Type} {rect : Rect} (hrect : g.rect = some rect) (device : Device δ)
    (mem : UInt64 → UInt8) (d : δ) :
    g.flush hal reqAddr rspAddr device mem d =
      andThen (g.command fun gpu ↦ gpu.transferToHost2D hal rect 0 RESOURCE_ID_FB reqAddr rspAddr
        device mem d) fun _ g mem d ↦
      andThen (g.command fun gpu ↦ gpu.resourceFlush hal rect RESOURCE_ID_FB reqAddr rspAddr
        device mem d) fun _ g mem d ↦
      pure (.ok (), g, mem, d) := by
  unfold GpuDisplay.flush
  rw [hrect]

/-- `flush` once the frame buffer is set up: it returns `Ok`, the screen shows the frame buffer's
bytes as the call found them over the display, the frame buffer itself is untouched, and the
driver and the host are as ready as before. -/
theorem flush_refines (hready : Ready g host fb) (hnotify : AcceptsNotify o g.controlQueue.queueIdx)
    (hlocals : LocalsApart hal reqAddr rspAddr fb.toUInt64 (frameSize host.display))
    (mem : UInt64 → UInt8) :
    ∃ g' host' mem', IoLog.Yields (g.flush hal reqAddr rspAddr GpuHost.serve mem host) o
        (.ok (), g', mem', host') ∧
      Ready g' host' fb ∧ g'.controlQueue.queueIdx = g.controlQueue.queueIdx ∧
      host'.display = host.display ∧
      host'.screen = (fun b ↦ if b < frameSize host.display then mem (fb.toUInt64 + b.toUInt64)
        else host.screen b) ∧
      (∀ k < frameSize host.display, mem' (fb.toUInt64 + k.toUInt64) = mem (fb.toUInt64 + k.toUInt64)) ∧
      CursorKept g g' host host' := by
  obtain ⟨image, hres⟩ := hready.resource
  obtain ⟨w, h, hdisp⟩ : ∃ w h, host.display = ⟨0, 0, w, h⟩ := ⟨_, _, hready.origin⟩
  have hsize : frameSize ⟨0, 0, w, h⟩ < 2 ^ 32 := hdisp ▸ hready.size_lt
  rw [hdisp] at hres hlocals
  obtain ⟨q₁, mem₁, hy₁, hidle₁, hidx₁, hmem₁⟩ :=
    transferToHost2D_idle hready.idle hready.control hnotify hres hsize hlocals mem
  let gpu₁ : VirtIOGpu := { g.toVirtIOGpu with controlQueue := q₁ }
  let image₁ : ℕ → UInt8 := fun b ↦
    if b < frameSize ⟨0, 0, w, h⟩ then mem (fb.toUInt64 + b.toUInt64) else image b
  let host₁ : GpuHost := { host with
    control := ⟨host.control.nextAvail + 1, []⟩
    resources := Function.update host.resources RESOURCE_ID_FB
      (some ⟨w, h, some (fb.toUInt64, w * h * 4), image₁⟩) }
  have hidle₁' : Idle gpu₁.controlQueue host₁.control := hidle₁
  have hctl₁ : gpu₁.controlQueue.queueIdx ≠ QUEUE_CURSOR := hidx₁ ▸ hready.control
  have hnotify₁ : AcceptsNotify o gpu₁.controlQueue.queueIdx := hidx₁ ▸ hnotify
  have hres₁ : host₁.resources RESOURCE_ID_FB = some ⟨w, h, some (fb.toUInt64, w * h * 4), image₁⟩ := by
    simp [host₁]
  have hscanout₁ : host₁.scanout = some RESOURCE_ID_FB := hready.scanout
  obtain ⟨q₂, mem₂, hy₂, hidle₂, hidx₂, hmem₂⟩ :=
    resourceFlush_idle hidle₁' hctl₁ hnotify₁ hres₁ hscanout₁ hlocals mem₁
  let host₂ : GpuHost := { host₁ with
    control := ⟨host₁.control.nextAvail + 1, []⟩
    screen := fun b ↦ if b < frameSize ⟨0, 0, w, h⟩ then image₁ b else host₁.screen b }
  refine ⟨{ g with toVirtIOGpu := { gpu₁ with controlQueue := q₂ } }, host₂, mem₂, ?_, ?_,
    hidx₂.trans hidx₁, rfl, ?_, fun k hk ↦ (hmem₂ k (hdisp ▸ hk)).trans (hmem₁ k (hdisp ▸ hk)),
    ⟨rfl, rfl, rfl, fun id hid ↦ Function.update_of_ne hid _ _⟩⟩
  · rw [flush_of_rect (hready.rect.trans (congrArg some hdisp))]
    exact yields_andThen (yields_command hy₁)
      (yields_andThen (yields_command hy₂) (IoLog.Yields.pure _))
  · exact
      { idle := hidle₂
        control := hidx₂ ▸ hctl₁
        rect := hready.rect
        buffer := hready.buffer
        origin := hready.origin
        size_lt := hready.size_lt
        resource := ⟨image₁, by simp [host₂, host₁, hdisp]⟩
        scanout := hready.scanout }
  · funext b
    simp only [host₂, image₁, host₁, hdisp]
    split_ifs <;> rfl

end Display

/-! ## Setting up the frame buffer -/

/-- The control queue, of index `idx`, between two commands: idle against the host, not the
cursor queue, and notified through a register file that accepts it. -/
structure ControlIdle (o : IoLog.Oracle Access UInt32 VirtIoError) (idx : UInt16) (gpu : VirtIOGpu)
    (host : GpuHost) : Prop where
  idle : Idle gpu.controlQueue host.control
  index : gpu.controlQueue.queueIdx = idx
  control : idx ≠ QUEUE_CURSOR
  notify : AcceptsNotify o idx

section Setup

variable {hal : Hal} {reqAddr rspAddr : ℕ} {o : IoLog.Oracle Access UInt32 VirtIoError}
  {gpu : VirtIOGpu} {host : GpuHost} {idx : UInt16}

theorem ControlIdle.next (hc : ControlIdle o idx gpu host) {q' : VirtIoQueue QUEUE_SIZE}
    (hidle : Idle q' ⟨host.control.nextAvail + 1, []⟩) (hidx : q'.queueIdx = gpu.controlQueue.queueIdx)
    {host' : GpuHost} (hcontrol : host'.control = ⟨host.control.nextAvail + 1, []⟩) :
    ControlIdle o idx { gpu with controlQueue := q' } host' :=
  ⟨hcontrol ▸ hidle, hidx.trans hc.index, hc.control, hc.notify⟩

theorem ControlIdle.request (hc : ControlIdle o idx gpu host) :
    Idle gpu.controlQueue host.control ∧ gpu.controlQueue.queueIdx ≠ QUEUE_CURSOR ∧
      AcceptsNotify o gpu.controlQueue.queueIdx :=
  ⟨hc.idle, hc.index ▸ hc.control, hc.index ▸ hc.notify⟩

end Setup

/-! ## What the frame buffer is for -/

/-- A frame buffer of `size` bytes and the screen it is shown on. -/
structure Frame where
  size : ℕ
  buffer : ℕ → UInt8
  screen : ℕ → UInt8

namespace Frame

/-- Drawing `pixels` from byte `offset` of the buffer on. -/
def draw (offset : ℕ) (pixels : List UInt8) (f : Frame) : Frame :=
  { f with buffer := fun b ↦
      if h : offset ≤ b ∧ b - offset < pixels.length then pixels[b - offset] else f.buffer b }

/-- A flush shows the buffer. -/
def flush (f : Frame) : Frame :=
  { f with screen := fun b ↦ if b < f.size then f.buffer b else f.screen b }

end Frame

/-- What a move does to the frame. -/
def GpuMove.spec : GpuMove → Frame → Frame
  | .draw offset pixels => Frame.draw offset pixels
  | .flush .. => Frame.flush

/-- What a move shows of the driver: the result of each call. -/
def GpuMove.obs : GpuMove → List (VirtIoResult Unit)
  | .draw .. => []
  | .flush .. => [.ok ()]

/-- The moves the refinement covers, with a frame buffer of `size` bytes at `fb` and the
control queue of index `idx`: drawing inside the frame buffer, and flushes whose locals lie
apart from each other and from the frame buffer, against a register file that accepts the
notifications. -/
def GpuMove.Valid (hal : Hal) (fb : ℕ) (idx : UInt16) (size : ℕ) : GpuMove → Prop
  | .draw offset pixels => offset + pixels.length ≤ size
  | .flush o _ reqAddr rspAddr => AcceptsNotify o idx ∧ LocalsApart hal reqAddr rspAddr fb.toUInt64 size

namespace GpuSystem

/-- The frame a system holds with the frame buffer at `fb`: the display's bytes of the buffer,
and the host's screen. -/
def frame (fb : ℕ) (s : GpuSystem) : Frame where
  size := frameSize s.host.display
  buffer b := if b < frameSize s.host.display then s.mem (fb.toUInt64 + b.toUInt64) else 0
  screen := s.host.screen

variable (hal : Hal) {fb : ℕ}

theorem frame_draw {s : GpuSystem} {offset : ℕ} {pixels : List UInt8}
    (hsize : frameSize s.host.display < 2 ^ 32) (hin : offset + pixels.length ≤ frameSize s.host.display) :
    frame fb { s with mem := ByteMemory.write s.mem (fb.toUInt64 + offset.toUInt64) pixels } =
      (frame fb s).draw offset pixels := by
  simp only [frame, Frame.draw, Frame.mk.injEq, true_and, and_true]
  funext b
  by_cases hb : b < frameSize s.host.display
  · rw [if_pos hb, ByteMemory.write_add_toUInt64 (by omega) (by omega)]
    simp only [hb, if_true]
  · have hout : ¬ (offset ≤ b ∧ b - offset < pixels.length) := by omega
    simp only [hb, if_false, hout, dif_neg, not_false_eq_true]

/-- Every move the refinement covers, from a ready system, goes through, shows the call's `Ok`,
moves the frame as the spec does, keeps the system ready, and keeps the control queue and the
display. -/
theorem step_refines {s : GpuSystem} (hready : Ready s.gpu s.host fb) {m : GpuMove}
    (hm : m.Valid hal fb s.gpu.controlQueue.queueIdx (frameSize s.host.display)) :
    ∃ s', s.step hal m = some (s', m.obs) ∧ frame fb s' = m.spec (frame fb s) ∧
      Ready s'.gpu s'.host fb ∧ s'.gpu.controlQueue.queueIdx = s.gpu.controlQueue.queueIdx ∧
      s'.host.display = s.host.display ∧ CursorKept s.gpu s'.gpu s.host s'.host := by
  cases m with
  | draw offset pixels =>
    refine ⟨_, ?_, frame_draw hready.size_lt hm, hready, rfl, rfl, ⟨rfl, rfl, rfl, fun _ _ ↦ rfl⟩⟩
    simp [step, hready.buffer, GpuMove.obs]
  | flush o h reqAddr rspAddr =>
    obtain ⟨g', host', mem', hyield, hready', hidx, hdisp, hscreen, hmem, hkept⟩ :=
      flush_refines hready hm.1 hm.2 s.mem
    obtain ⟨log, hrun⟩ := hyield h
    refine ⟨⟨g', host', mem'⟩, ?_, ?_, hready', hidx, hdisp, hkept⟩
    · simp [step, finish, hrun, GpuMove.obs]
    · simp only [frame, GpuMove.spec, Frame.flush, hdisp, hscreen, Frame.mk.injEq, true_and]
      refine ⟨?_, ?_⟩
      · funext b
        split_ifs with hb
        · exact hmem b hb
        · rfl
      · funext b
        split_ifs <;> rfl

/-- Every run of covered moves from a ready system goes through, showing `Ok` for each flush,
and the frame ends as the spec, run over the same moves, leaves it: the screen shows what the
buffer held at the last flush. -/
theorem run_refines (ms : List GpuMove) (s : GpuSystem) (hready : Ready s.gpu s.host fb)
    (hvalid : ∀ m ∈ ms, m.Valid hal fb s.gpu.controlQueue.queueIdx (frameSize s.host.display)) :
    ∃ s', Trace.run (step hal) s ms = some (s', ms.flatMap GpuMove.obs) ∧
      frame fb s' = ms.foldl (fun f m ↦ m.spec f) (frame fb s) ∧ Ready s'.gpu s'.host fb := by
  have hstep : ∀ (t : GpuSystem) (m : GpuMove), Ready t.gpu t.host fb →
      m.Valid hal fb t.gpu.controlQueue.queueIdx (frameSize t.host.display) →
      ∃ t', t.step hal m = some (t', m.obs) ∧ frame fb t' = m.spec (frame fb t) ∧
        Ready t'.gpu t'.host fb ∧ ∀ m' : GpuMove,
          m'.Valid hal fb t.gpu.controlQueue.queueIdx (frameSize t.host.display) →
          m'.Valid hal fb t'.gpu.controlQueue.queueIdx (frameSize t'.host.display) := by
    intro t m ht hm
    obtain ⟨t', hstep, hframe, hready', hidx, hdisp, -⟩ := step_refines hal ht hm
    exact ⟨t', hstep, hframe, hready', fun m' hm' ↦ by rwa [hidx, hdisp]⟩
  exact Trace.run_refines hstep ms s hready hvalid

end GpuSystem

/-! ## From `new` on -/

/-- Whatever the device answers, the driver `new` returns has fresh control and cursor queues. -/
theorem new_returns (hal : Hal) (transport : MmioTransport) :
    IoLog.Returns (VirtIOGpu.new hal transport) fun gpu ↦
      gpu.controlQueue = VirtIoQueue.init QUEUE_SIZE QUEUE_TRANSMIT ∧
        gpu.cursorQueue = VirtIoQueue.init QUEUE_SIZE QUEUE_CURSOR := by
  unfold VirtIOGpu.new
  refine IoLog.Returns.onError ?_
  refine IoLog.Returns.bind_any fun _ ↦ ?_
  refine IoLog.Returns.bind_any fun _ ↦ ?_
  refine IoLog.Returns.bind_any fun _ ↦ ?_
  refine IoLog.Returns.bind (VirtIoQueue.new_returns _ _ _ _) fun controlQueue hcontrol ↦ ?_
  refine IoLog.Returns.bind (VirtIoQueue.new_returns _ _ _ _) fun cursorQueue hcursor ↦ ?_
  exact IoLog.Returns.bind_any fun _ ↦ IoLog.Returns.pure ⟨hcontrol, hcursor⟩

end VirtIOGpu

end SafeVirtio
