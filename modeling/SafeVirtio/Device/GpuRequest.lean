import SafeVirtio.Device.Gpu
import SafeVirtio.Queue.Blocking
import SafeVirtio.Lib.ByteMemory

/-!
# The GPU driver's commands

Every control command of `VirtIOGpu` is a `#[repr(C)]` structure that starts with a `CtrlHeader`
naming the command.  `request` stores it and a default response in stack locals, chains the two
on the control queue (the response writable by the device), waits, and returns the response as
the device left it in the local.  Five commands are answered with a bare header and differ only
in their command and payload (`requestNodata`); `get_display_info` is answered with the
display's rectangle; `update_cursor` goes alone, read-only, on the cursor queue
(`cursorRequest`).  A structure travels as its bytes: `bytes` lays a value out as the target
does and `ofBytes` reads one back, and the two are inverse (`CtrlHeader.ofBytes_bytes`,
`Rect.ofBytes_bytes`).

`setup_framebuffer`, `flush`, `setup_cursor`, `move_cursor` and `resolution` are sequences of
those commands that return the first error with `?` (`andThen`); they act on `GpuDisplay`,
the driver with the rectangle and the buffers it records.  The frame and cursor buffers come
from `dma_alloc_buf`, whose address a `Hal` implementation chooses and is a parameter here.  As
everywhere in the model the device works while the driver waits: it is a parameter of every
command, given the queue as `add` published the chain and the memory.
-/

namespace SafeVirtio

namespace VirtIOGpu

/-- `Command`, the `u32` code of a request or a response. -/
structure Command where
  val : UInt32
  deriving DecidableEq, Repr

namespace Command

def GET_DISPLAY_INFO : Command := ⟨0x100⟩
def RESOURCE_CREATE_2D : Command := ⟨0x101⟩
def SET_SCANOUT : Command := ⟨0x103⟩
def RESOURCE_FLUSH : Command := ⟨0x104⟩
def TRANSFER_TO_HOST_2D : Command := ⟨0x105⟩
def RESOURCE_ATTACH_BACKING : Command := ⟨0x106⟩
def UPDATE_CURSOR : Command := ⟨0x300⟩
def MOVE_CURSOR : Command := ⟨0x301⟩
def OK_NODATA : Command := ⟨0x1100⟩
def OK_DISPLAY_INFO : Command := ⟨0x1101⟩

end Command

/-- The little-endian bytes of a `u32` field. -/
def u32Bytes (x : UInt32) : List UInt8 := ByteMemory.leBytes 4 x.toNat

/-- The little-endian bytes of a `u64` field. -/
def u64Bytes (x : UInt64) : List UInt8 := ByteMemory.leBytes 8 x.toNat

/-- `CtrlHeader`, the header of every control request and response. -/
structure CtrlHeader where
  hdrType : Command
  flags : UInt32
  fenceId : UInt64
  ctxId : UInt32
  padding : UInt32
  deriving DecidableEq, Repr

namespace CtrlHeader

/-- `CtrlHeader::with_type`. -/
def withType (hdrType : Command) : CtrlHeader :=
  { hdrType, flags := 0, fenceId := 0, ctxId := 0, padding := 0 }

/-- `CtrlHeader::default()`: every field zero, the command `Command(0)` included. -/
def default : CtrlHeader := withType ⟨0⟩

/-- `check_type`. -/
def checkType (h : CtrlHeader) (expected : Command) : VirtIoResult Unit :=
  if h.hdrType = expected then .ok () else .error .ioError

/-- The layout of a header: four `u32`s around a `u64`, 24 bytes. -/
def bytes (h : CtrlHeader) : List UInt8 :=
  u32Bytes h.hdrType.val ++ u32Bytes h.flags ++ u64Bytes h.fenceId ++ u32Bytes h.ctxId ++
    u32Bytes h.padding

/-- The header the first 24 bytes of `bs` hold. -/
def ofBytes (bs : List UInt8) : CtrlHeader where
  hdrType := ⟨(ByteMemory.field bs 0 4).toUInt32⟩
  flags := (ByteMemory.field bs 4 4).toUInt32
  fenceId := (ByteMemory.field bs 8 8).toUInt64
  ctxId := (ByteMemory.field bs 16 4).toUInt32
  padding := (ByteMemory.field bs 20 4).toUInt32

end CtrlHeader

/-- `Rect`. -/
structure Rect where
  x : UInt32
  y : UInt32
  width : UInt32
  height : UInt32
  deriving DecidableEq, Repr

namespace Rect

/-- The layout of a rectangle: four `u32`s, 16 bytes. -/
def bytes (r : Rect) : List UInt8 := u32Bytes r.x ++ u32Bytes r.y ++ u32Bytes r.width ++ u32Bytes r.height

/-- The rectangle the first 16 bytes of `bs` hold. -/
def ofBytes (bs : List UInt8) : Rect where
  x := (ByteMemory.field bs 0 4).toUInt32
  y := (ByteMemory.field bs 4 4).toUInt32
  width := (ByteMemory.field bs 8 4).toUInt32
  height := (ByteMemory.field bs 12 4).toUInt32

end Rect

/-- `CURSOR_RECT`. -/
def CURSOR_RECT : Rect := { x := 0, y := 0, width := 64, height := 64 }

def SCANOUT_ID : UInt32 := 0
def RESOURCE_ID_FB : UInt32 := 0xbabe
def RESOURCE_ID_CURSOR : UInt32 := 0xdade

/-- `Format::B8G8R8A8UNORM`, the one format of the enum. -/
def B8G8R8A8UNORM : UInt32 := 1

/-- `RespDisplayInfo`: a header and the mode of one scanout. -/
structure RespDisplayInfo where
  header : CtrlHeader
  rect : Rect
  enabled : UInt32
  flags : UInt32
  deriving DecidableEq, Repr

namespace RespDisplayInfo

/-- `RespDisplayInfo::default()`. -/
def default : RespDisplayInfo :=
  { header := CtrlHeader.default, rect := ⟨0, 0, 0, 0⟩, enabled := 0, flags := 0 }

/-- The layout: the header, the rectangle, two `u32`s; 48 bytes. -/
def bytes (info : RespDisplayInfo) : List UInt8 :=
  info.header.bytes ++ info.rect.bytes ++ u32Bytes info.enabled ++ u32Bytes info.flags

/-- The display information the first 48 bytes of `bs` hold. -/
def ofBytes (bs : List UInt8) : RespDisplayInfo where
  header := CtrlHeader.ofBytes bs
  rect := Rect.ofBytes (bs.drop 24)
  enabled := (ByteMemory.field bs 40 4).toUInt32
  flags := (ByteMemory.field bs 44 4).toUInt32

end RespDisplayInfo

/-- What the device does while the driver waits, as for the other drivers: from the queue as
`add` published the chain, the memory and its own state, the used ring and memory the wait
finds, and its next state. -/
abbrev Device (δ : Type) : Type :=
  VirtIoQueue QUEUE_SIZE → (UInt64 → UInt8) → δ → UsedRing × (UInt64 → UInt8) × δ

/-- `p?` followed by the rest `k` of a method that returns its result with the driver `σ`, the
memory and the device's state: an error of `p` is returned with what `p` left. -/
def andThen {σ δ α β : Type} (p : Mmio (VirtIoResult α × σ × (UInt64 → UInt8) × δ))
    (k : α → σ → (UInt64 → UInt8) → δ → Mmio (VirtIoResult β × σ × (UInt64 → UInt8) × δ)) :
    Mmio (VirtIoResult β × σ × (UInt64 → UInt8) × δ) := do
  let (r, s, mem, d) ← p
  match r with
  | .error e => pure (.error e, s, mem, d)
  | .ok a => k a s mem d

variable {δ : Type}

/-- `request`: `req` and the default response `rsp`, laid out in the stack locals at `reqAddr`
and `rspAddr`, chained on the control queue with the response writable by the device; the
response returned is what the local holds after the wait.  An error of the submission is
returned with `?`. -/
def request (gpu : VirtIOGpu) (hal : Hal) (req rsp : List UInt8) (reqAddr rspAddr : ℕ)
    (device : Device δ) (mem : UInt64 → UInt8) (d : δ) :
    Mmio (VirtIoResult (List UInt8) × VirtIOGpu × (UInt64 → UInt8) × δ) := do
  let mem := ByteMemory.write (ByteMemory.write mem (hal.toPaddr reqAddr).toUInt64 req)
    (hal.toPaddr rspAddr).toUInt64 rsp
  let chain := [Descriptor.new hal reqAddr req.length.toUInt32 DescFlag.NEXT,
    Descriptor.new hal rspAddr rsp.length.toUInt32 DescFlag.WRITE]
  let (used, mem, d) := match gpu.controlQueue.add chain with
    | some (.ok _, q) => device q mem d
    | _ => (gpu.controlQueue.usedRing, mem, d)
  let (r, controlQueue) ← gpu.controlQueue.addNotifyWaitPop chain used used
  match r with
  | .error e => pure (.error e, { gpu with controlQueue }, mem, d)
  | .ok _ =>
    pure (.ok (ByteMemory.read mem (hal.toPaddr rspAddr).toUInt64 rsp.length),
      { gpu with controlQueue }, mem, d)

/-- `cursor_request`: `req`, laid out in the stack local at `reqAddr`, alone and read-only on
the cursor queue. -/
def cursorRequest (gpu : VirtIOGpu) (hal : Hal) (req : List UInt8) (reqAddr : ℕ)
    (device : Device δ) (mem : UInt64 → UInt8) (d : δ) :
    Mmio (VirtIoResult Unit × VirtIOGpu × (UInt64 → UInt8) × δ) := do
  let mem := ByteMemory.write mem (hal.toPaddr reqAddr).toUInt64 req
  let chain := [Descriptor.new hal reqAddr req.length.toUInt32 DescFlag.EMPTY]
  let (used, mem, d) := match gpu.cursorQueue.add chain with
    | some (.ok _, q) => device q mem d
    | _ => (gpu.cursorQueue.usedRing, mem, d)
  let (r, cursorQueue) ← gpu.cursorQueue.addNotifyWaitPop chain used used
  match r with
  | .error e => pure (.error e, { gpu with cursorQueue }, mem, d)
  | .ok _ => pure (.ok (), { gpu with cursorQueue }, mem, d)

/-- The five commands answered with a bare header: the request is the header of `cmd` followed by
`payload`, the response a default header, and the result `check_type(OK_NODATA)` of the header
the device wrote. -/
def requestNodata (gpu : VirtIOGpu) (hal : Hal) (cmd : Command) (payload : List UInt8)
    (reqAddr rspAddr : ℕ) (device : Device δ) (mem : UInt64 → UInt8) (d : δ) :
    Mmio (VirtIoResult Unit × VirtIOGpu × (UInt64 → UInt8) × δ) :=
  andThen (gpu.request hal ((CtrlHeader.withType cmd).bytes ++ payload) CtrlHeader.default.bytes reqAddr
    rspAddr device mem d) fun rsp gpu mem d ↦
      pure ((CtrlHeader.ofBytes rsp).checkType .OK_NODATA, gpu, mem, d)

/-- `resource_create_2d`: a `ResourceCreate2D` in format `B8G8R8A8UNORM`. -/
def resourceCreate2D (gpu : VirtIOGpu) (hal : Hal) (resourceId width height : UInt32)
    (reqAddr rspAddr : ℕ) (device : Device δ) (mem : UInt64 → UInt8) (d : δ) :
    Mmio (VirtIoResult Unit × VirtIOGpu × (UInt64 → UInt8) × δ) :=
  gpu.requestNodata hal .RESOURCE_CREATE_2D
    (u32Bytes resourceId ++ u32Bytes B8G8R8A8UNORM ++ u32Bytes width ++ u32Bytes height)
    reqAddr rspAddr device mem d

/-- `set_scanout`: a `SetScanout`. -/
def setScanout (gpu : VirtIOGpu) (hal : Hal) (rect : Rect) (scanoutId resourceId : UInt32)
    (reqAddr rspAddr : ℕ) (device : Device δ) (mem : UInt64 → UInt8) (d : δ) :
    Mmio (VirtIoResult Unit × VirtIOGpu × (UInt64 → UInt8) × δ) :=
  gpu.requestNodata hal .SET_SCANOUT (rect.bytes ++ u32Bytes scanoutId ++ u32Bytes resourceId)
    reqAddr rspAddr device mem d

/-- `resource_flush`: a `ResourceFlush`. -/
def resourceFlush (gpu : VirtIOGpu) (hal : Hal) (rect : Rect) (resourceId : UInt32)
    (reqAddr rspAddr : ℕ) (device : Device δ) (mem : UInt64 → UInt8) (d : δ) :
    Mmio (VirtIoResult Unit × VirtIOGpu × (UInt64 → UInt8) × δ) :=
  gpu.requestNodata hal .RESOURCE_FLUSH (rect.bytes ++ u32Bytes resourceId ++ u32Bytes 0)
    reqAddr rspAddr device mem d

/-- `transfer_to_host_2d`: a `TransferToHost2D`. -/
def transferToHost2D (gpu : VirtIOGpu) (hal : Hal) (rect : Rect) (offset : UInt64)
    (resourceId : UInt32) (reqAddr rspAddr : ℕ) (device : Device δ) (mem : UInt64 → UInt8) (d : δ) :
    Mmio (VirtIoResult Unit × VirtIOGpu × (UInt64 → UInt8) × δ) :=
  gpu.requestNodata hal .TRANSFER_TO_HOST_2D
    (rect.bytes ++ u64Bytes offset ++ u32Bytes resourceId ++ u32Bytes 0) reqAddr rspAddr device mem d

/-- `resource_attach_backing`: a `ResourceAttachBacking` of one entry. -/
def resourceAttachBacking (gpu : VirtIOGpu) (hal : Hal) (resourceId : UInt32) (paddr : UInt64)
    (length : UInt32) (reqAddr rspAddr : ℕ) (device : Device δ) (mem : UInt64 → UInt8) (d : δ) :
    Mmio (VirtIoResult Unit × VirtIOGpu × (UInt64 → UInt8) × δ) :=
  gpu.requestNodata hal .RESOURCE_ATTACH_BACKING
    (u32Bytes resourceId ++ u32Bytes 1 ++ u64Bytes paddr ++ u32Bytes length ++ u32Bytes 0)
    reqAddr rspAddr device mem d

/-- `update_cursor`: an `UpdateCursor`, of `MOVE_CURSOR` when only the position changes. -/
def updateCursor (gpu : VirtIOGpu) (hal : Hal) (resourceId scanoutId posX posY hotX hotY : UInt32)
    (isMove : Bool) (reqAddr : ℕ) (device : Device δ) (mem : UInt64 → UInt8) (d : δ) :
    Mmio (VirtIoResult Unit × VirtIOGpu × (UInt64 → UInt8) × δ) :=
  gpu.cursorRequest hal
    ((CtrlHeader.withType (if isMove then .MOVE_CURSOR else .UPDATE_CURSOR)).bytes ++
      (u32Bytes scanoutId ++ u32Bytes posX ++ u32Bytes posY ++ u32Bytes 0) ++
      u32Bytes resourceId ++ u32Bytes hotX ++ u32Bytes hotY ++ u32Bytes 0)
    reqAddr device mem d

/-- `get_display_info`: a bare header, answered with a `RespDisplayInfo` whose header must be
`OK_DISPLAY_INFO`. -/
def getDisplayInfo (gpu : VirtIOGpu) (hal : Hal) (reqAddr rspAddr : ℕ) (device : Device δ)
    (mem : UInt64 → UInt8) (d : δ) :
    Mmio (VirtIoResult RespDisplayInfo × VirtIOGpu × (UInt64 → UInt8) × δ) :=
  andThen (gpu.request hal (CtrlHeader.withType .GET_DISPLAY_INFO).bytes RespDisplayInfo.default.bytes
    reqAddr rspAddr device mem d) fun rsp gpu mem d ↦
      let info := RespDisplayInfo.ofBytes rsp
      match info.header.checkType .OK_DISPLAY_INFO with
      | .error e => pure (.error e, gpu, mem, d)
      | .ok () => pure (.ok info, gpu, mem, d)

/-! ## Layouts read back -/

@[simp]
theorem length_u32Bytes (x : UInt32) : (u32Bytes x).length = 4 := by
  simp [u32Bytes]

@[simp]
theorem length_u64Bytes (x : UInt64) : (u64Bytes x).length = 8 := by
  simp [u64Bytes]

@[simp]
theorem field_u32Bytes (x : UInt32) (cs : List UInt8) :
    (ByteMemory.field (u32Bytes x ++ cs) 0 4).toUInt32 = x := by
  have hlt : x.toNat < 256 ^ 4 := x.toNat_lt
  rw [u32Bytes, ByteMemory.field_leBytes, Nat.mod_eq_of_lt hlt, Nat.toUInt32, UInt32.ofNat_toNat]

@[simp]
theorem field_u32Bytes_self (x : UInt32) : (ByteMemory.field (u32Bytes x) 0 4).toUInt32 = x := by
  simpa using field_u32Bytes x []

@[simp]
theorem field_u64Bytes (x : UInt64) (cs : List UInt8) :
    (ByteMemory.field (u64Bytes x ++ cs) 0 8).toUInt64 = x := by
  have hlt : x.toNat < 256 ^ 8 := x.toNat_lt
  rw [u64Bytes, ByteMemory.field_leBytes, Nat.mod_eq_of_lt hlt, Nat.toUInt64, UInt64.ofNat_toNat]

@[simp]
theorem CtrlHeader.length_bytes (h : CtrlHeader) : h.bytes.length = 24 := by
  simp [CtrlHeader.bytes]

@[simp]
theorem Rect.length_bytes (r : Rect) : r.bytes.length = 16 := by
  simp [Rect.bytes]

@[simp]
theorem RespDisplayInfo.length_bytes (info : RespDisplayInfo) : info.bytes.length = 48 := by
  simp [RespDisplayInfo.bytes]

@[simp]
theorem CtrlHeader.ofBytes_append (h : CtrlHeader) (rest : List UInt8) :
    CtrlHeader.ofBytes (h.bytes ++ rest) = h := by
  simp [CtrlHeader.ofBytes, CtrlHeader.bytes, ByteMemory.field_append_right]

theorem CtrlHeader.ofBytes_bytes (h : CtrlHeader) : CtrlHeader.ofBytes h.bytes = h := by
  simpa using CtrlHeader.ofBytes_append h []

@[simp]
theorem Rect.ofBytes_append (r : Rect) (rest : List UInt8) : Rect.ofBytes (r.bytes ++ rest) = r := by
  simp [Rect.ofBytes, Rect.bytes, ByteMemory.field_append_right]

theorem Rect.ofBytes_bytes (r : Rect) : Rect.ofBytes r.bytes = r := by
  simpa using Rect.ofBytes_append r []

theorem RespDisplayInfo.ofBytes_append (info : RespDisplayInfo) (rest : List UInt8) :
    RespDisplayInfo.ofBytes (info.bytes ++ rest) = info := by
  simp [RespDisplayInfo.ofBytes, RespDisplayInfo.bytes, ByteMemory.field_append_right]

theorem RespDisplayInfo.ofBytes_bytes (info : RespDisplayInfo) :
    RespDisplayInfo.ofBytes info.bytes = info := by
  simpa using RespDisplayInfo.ofBytes_append info []

end VirtIOGpu

/-- `VirtIOGpu` with the state its display methods keep: the rectangle `setup_framebuffer`
recorded, and the physical addresses of the frame and cursor buffers, once set up. -/
structure GpuDisplay extends VirtIOGpu where
  rect : Option VirtIOGpu.Rect
  frameBufferDma : Option ℕ
  cursorBufferDma : Option ℕ

namespace GpuDisplay

open VirtIOGpu

variable {δ α : Type}

/-- A command of the driver, on the display's queues; the rest of the display state stays. -/
def command (g : GpuDisplay)
    (p : VirtIOGpu → Mmio (VirtIoResult α × VirtIOGpu × (UInt64 → UInt8) × δ)) :
    Mmio (VirtIoResult α × GpuDisplay × (UInt64 → UInt8) × δ) := do
  let (r, gpu, mem, d) ← p g.toVirtIOGpu
  pure (r, { g with toVirtIOGpu := gpu }, mem, d)

/-- `resolution`: the display's width and height. -/
def resolution (g : GpuDisplay) (hal : Hal) (reqAddr rspAddr : ℕ) (device : Device δ)
    (mem : UInt64 → UInt8) (d : δ) :
    Mmio (VirtIoResult (UInt32 × UInt32) × GpuDisplay × (UInt64 → UInt8) × δ) :=
  andThen (g.command fun gpu ↦ gpu.getDisplayInfo hal reqAddr rspAddr device mem d)
    fun info g mem d ↦ pure (.ok (info.rect.width, info.rect.height), g, mem, d)

/-- `flush`: copy the recorded rectangle of the frame buffer to the host and show it; `NotReady`
before `setup_framebuffer` has recorded one. -/
def flush (g : GpuDisplay) (hal : Hal) (reqAddr rspAddr : ℕ) (device : Device δ)
    (mem : UInt64 → UInt8) (d : δ) : Mmio (VirtIoResult Unit × GpuDisplay × (UInt64 → UInt8) × δ) :=
  match g.rect with
  | none => pure (.error .notReady, g, mem, d)
  | some rect =>
    andThen (g.command fun gpu ↦ gpu.transferToHost2D hal rect 0 RESOURCE_ID_FB reqAddr rspAddr
      device mem d) fun _ g mem d ↦
    andThen (g.command fun gpu ↦ gpu.resourceFlush hal rect RESOURCE_ID_FB reqAddr rspAddr
      device mem d) fun _ g mem d ↦
    pure (.ok (), g, mem, d)

/-- `setup_cursor`, with `cursorPaddr` the address of the buffer `dma_alloc_buf` returns, into
which the image is copied. -/
def setupCursor (g : GpuDisplay) (hal : Hal) (cursorImage : List UInt8) (posX posY hotX hotY : UInt32)
    (cursorPaddr : ℕ) (reqAddr rspAddr : ℕ) (device : Device δ) (mem : UInt64 → UInt8) (d : δ) :
    Mmio (VirtIoResult Unit × GpuDisplay × (UInt64 → UInt8) × δ) :=
  let size := CURSOR_RECT.width * CURSOR_RECT.height * 4
  if cursorImage.length ≠ size.toNat then pure (.error .invalidParam, g, mem, d) else
  let mem := ByteMemory.write mem cursorPaddr.toUInt64 cursorImage
  andThen (g.command fun gpu ↦ gpu.resourceCreate2D hal RESOURCE_ID_CURSOR CURSOR_RECT.width
    CURSOR_RECT.height reqAddr rspAddr device mem d) fun _ g mem d ↦
  andThen (g.command fun gpu ↦ gpu.resourceAttachBacking hal RESOURCE_ID_CURSOR
    cursorPaddr.toUInt64 size reqAddr rspAddr device mem d) fun _ g mem d ↦
  andThen (g.command fun gpu ↦ gpu.transferToHost2D hal CURSOR_RECT 0 RESOURCE_ID_CURSOR
    reqAddr rspAddr device mem d) fun _ g mem d ↦
  andThen (g.command fun gpu ↦ gpu.updateCursor hal RESOURCE_ID_CURSOR SCANOUT_ID posX posY hotX
    hotY false reqAddr device mem d) fun _ g mem d ↦
  pure (.ok (), { g with cursorBufferDma := some cursorPaddr }, mem, d)

/-- `move_cursor`: an `UpdateCursor` of `MOVE_CURSOR` with the hot spot at `0`. -/
def moveCursor (g : GpuDisplay) (hal : Hal) (posX posY : UInt32) (reqAddr : ℕ) (device : Device δ)
    (mem : UInt64 → UInt8) (d : δ) : Mmio (VirtIoResult Unit × GpuDisplay × (UInt64 → UInt8) × δ) :=
  andThen (g.command fun gpu ↦ gpu.updateCursor hal RESOURCE_ID_CURSOR SCANOUT_ID posX posY 0 0
    true reqAddr device mem d) fun _ g mem d ↦ pure (.ok (), g, mem, d)

end GpuDisplay

end SafeVirtio
