import SafeVirtio.Device.GpuRequest
import SafeVirtio.Queue.Idle

/-!
# A host GPU

The GPU driver is written for a virtio-gpu device in 2D mode; `GpuHost` is such a device as a
state machine.  It keeps resources (images of `width × height` pixels of four bytes, row after
row), the run of guest memory attached to each as its backing, the resource the scanout shows,
the screen, and the cursor.

On the control queue the host takes a chain of a request and a response buffer: it reads the
request, decodes it by the type in its header (`decode`), carries it out (`exec`) and writes its
answer into the response buffer, as much of it as fits.  A command it cannot carry out (a
resource that does not exist or already does, a rectangle outside the resource, a backing too
short for a transfer, more than one backing entry) is answered with `ERR_UNSPEC` and changes
nothing; a scanout other than `0` with `ERR_INVALID_SCANOUT_ID`.  On the cursor queue it reads an
update of the cursor and writes nothing back.  A transfer copies the rectangle row by row from
the backing, rows `4 * width` bytes apart from `offset` on; a flush shows the rectangle of the
resource on the screen when the scanout shows that resource, the screen indexed as the resource.

Every request the driver builds is decoded as the command the driver meant (`decode_request`
and the lemmas after it).
-/

namespace SafeVirtio

namespace VirtIOGpu

namespace Command

/-- `Command::ERR_UNSPEC`. -/
def ERR_UNSPEC : Command := ⟨0x1200⟩

/-- `Command::ERR_INVALID_SCANOUT_ID`. -/
def ERR_INVALID_SCANOUT_ID : Command := ⟨0x1202⟩

end Command

/-- The `u32` at byte `off` of a layout. -/
def u32At (bs : List UInt8) (off : ℕ) : UInt32 := (ByteMemory.field bs off 4).toUInt32

/-- The `u64` at byte `off` of a layout. -/
def u64At (bs : List UInt8) (off : ℕ) : UInt64 := (ByteMemory.field bs off 8).toUInt64

/-- A control command as the host reads it. -/
inductive HostCommand
  | getDisplayInfo
  | resourceCreate2D (resourceId format width height : UInt32)
  | setScanout (rect : Rect) (scanoutId resourceId : UInt32)
  | resourceFlush (rect : Rect) (resourceId : UInt32)
  | transferToHost2D (rect : Rect) (offset : UInt64) (resourceId : UInt32)
  | resourceAttachBacking (resourceId nrEntries : UInt32) (addr : UInt64) (length : UInt32)
  deriving DecidableEq, Repr

/-- The command of type `t` whose fields follow the header in `body`, as each request structure
lays them out; `none` for a type the host does not carry out. -/
def decodeBody (t : Command) (body : List UInt8) : Option HostCommand :=
  if t = .GET_DISPLAY_INFO then some .getDisplayInfo
  else if t = .RESOURCE_CREATE_2D then
    some (.resourceCreate2D (u32At body 0) (u32At body 4) (u32At body 8) (u32At body 12))
  else if t = .SET_SCANOUT then some (.setScanout (Rect.ofBytes body) (u32At body 16) (u32At body 20))
  else if t = .RESOURCE_FLUSH then some (.resourceFlush (Rect.ofBytes body) (u32At body 16))
  else if t = .TRANSFER_TO_HOST_2D then
    some (.transferToHost2D (Rect.ofBytes body) (u64At body 16) (u32At body 24))
  else if t = .RESOURCE_ATTACH_BACKING then
    some (.resourceAttachBacking (u32At body 0) (u32At body 4) (u64At body 8) (u32At body 16))
  else none

/-- The command a request holds. -/
def decode (req : List UInt8) : Option HostCommand :=
  decodeBody (CtrlHeader.ofBytes req).hdrType (req.drop 24)

/-- An update of the cursor as the host reads it. -/
inductive CursorCommand
  | update (scanoutId x y resourceId hotX hotY : UInt32)
  | move (scanoutId x y : UInt32)
  deriving DecidableEq, Repr

/-- The cursor command an `UpdateCursor` holds: the position at bytes `24` to `36`, the resource
and the hot spot after it. -/
def decodeCursor (req : List UInt8) : Option CursorCommand :=
  let t := (CtrlHeader.ofBytes req).hdrType
  let body := req.drop 24
  if t = .UPDATE_CURSOR then
    some (.update (u32At body 0) (u32At body 4) (u32At body 8) (u32At body 16) (u32At body 20)
      (u32At body 24))
  else if t = .MOVE_CURSOR then some (.move (u32At body 0) (u32At body 4) (u32At body 8))
  else none

/-- Whether byte `b` of an image whose rows are `stride` bytes long lies in the rectangle `r`. -/
def Rect.covers (r : Rect) (stride b : ℕ) : Bool :=
  r.y.toNat ≤ b / stride && b / stride < r.y.toNat + r.height.toNat &&
    4 * r.x.toNat ≤ b % stride && b % stride < 4 * (r.x.toNat + r.width.toNat)

/-- A resource of the host: its size in pixels, the guest memory attached as its backing, and
its image. -/
structure Resource where
  width : UInt32
  height : UInt32
  backing : Option (UInt64 × UInt32)
  image : ℕ → UInt8

namespace Resource

/-- The bytes of one row of the image. -/
def stride (res : Resource) : ℕ := 4 * res.width.toNat

/-- Whether the rectangle `r` lies inside the resource. -/
def fits (res : Resource) (r : Rect) : Bool :=
  r.x.toNat + r.width.toNat ≤ res.width.toNat && r.y.toNat + r.height.toNat ≤ res.height.toNat

/-- `TRANSFER_TO_HOST_2D`: copy the rectangle `r` from the backing, its rows `stride` bytes
apart from `offset` on; `none` without a backing, or when the rectangle does not fit or the rows
run past the backing. -/
def transfer (res : Resource) (r : Rect) (offset : UInt64) (mem : UInt64 → UInt8) :
    Option Resource :=
  match res.backing with
  | none => none
  | some (addr, length) =>
    if res.fits r && offset.toNat + res.stride * r.height.toNat ≤ length.toNat then
      some { res with
        image := fun b ↦ if r.covers res.stride b then
          mem (addr + offset + ((b / res.stride - r.y.toNat) * res.stride +
            (b % res.stride - 4 * r.x.toNat)).toUInt64)
          else res.image b }
    else none

end Resource

/-- Where the cursor is, with the resource it shows and its hot spot. -/
structure Cursor where
  resourceId : UInt32
  x : UInt32
  y : UInt32
  hotX : UInt32
  hotY : UInt32

/-- The host: its view of the control and cursor queues, the mode of its one display, its
resources, the resource the scanout shows, the screen and the cursor. -/
structure GpuHost where
  control : DeviceQueue
  cursorQueue : DeviceQueue
  display : Rect
  resources : UInt32 → Option Resource
  scanout : Option UInt32
  screen : ℕ → UInt8
  cursor : Option Cursor

namespace GpuHost

/-- The answer `OK_NODATA`. -/
def okNodata : List UInt8 := (CtrlHeader.withType .OK_NODATA).bytes

/-- The answer of a command that goes through, changing the host, or fails with `ERR_UNSPEC`,
changing nothing. -/
def answer (host : GpuHost) : Option GpuHost → List UInt8 × GpuHost
  | some host' => (okNodata, host')
  | none => ((CtrlHeader.withType .ERR_UNSPEC).bytes, host)

/-- The display information the host reports: its one display, enabled. -/
def displayInfo (host : GpuHost) : RespDisplayInfo :=
  { header := .withType .OK_DISPLAY_INFO, rect := host.display, enabled := 1, flags := 0 }

/-- The host with resource `id` changed by `f`; `none` when there is no such resource or `f`
fails. -/
def withResource (host : GpuHost) (id : UInt32) (f : Resource → Option Resource) :
    Option GpuHost :=
  (host.resources id).bind fun res ↦
    (f res).map fun res' ↦ { host with resources := Function.update host.resources id (some res') }

/-- `RESOURCE_FLUSH` of resource `res` with id `id`: the rectangle shows on the screen when the
scanout shows the resource. -/
def flushResource (host : GpuHost) (id : UInt32) (res : Resource) (r : Rect) : GpuHost :=
  if host.scanout = some id then
    { host with screen := fun b ↦ if r.covers res.stride b then res.image b else host.screen b }
  else host

/-- Carry out a control command against the memory `mem`: the answer and the host after it. -/
def exec (host : GpuHost) (mem : UInt64 → UInt8) : HostCommand → List UInt8 × GpuHost
  | .getDisplayInfo => ((displayInfo host).bytes, host)
  | .resourceCreate2D id _ width height =>
    host.answer (if id = 0 ∨ (host.resources id).isSome then none
      else some { host with
        resources := Function.update host.resources id (some ⟨width, height, none, fun _ ↦ 0⟩) })
  | .setScanout _ scanoutId id =>
    if scanoutId ≠ SCANOUT_ID then ((CtrlHeader.withType .ERR_INVALID_SCANOUT_ID).bytes, host)
    else host.answer ((host.resources id).map fun _ ↦ { host with scanout := some id })
  | .resourceFlush r id =>
    host.answer ((host.resources id).bind fun res ↦
      if res.fits r then some (host.flushResource id res r) else none)
  | .transferToHost2D r offset id =>
    host.answer (host.withResource id fun res ↦ res.transfer r offset mem)
  | .resourceAttachBacking id nrEntries addr length =>
    host.answer (if nrEntries = 1 then
      host.withResource id fun res ↦ some { res with backing := some (addr, length) } else none)

/-- Carry out a cursor command. -/
def execCursor (host : GpuHost) : CursorCommand → GpuHost
  | .update _ x y id hotX hotY => { host with cursor := some ⟨id, x, y, hotX, hotY⟩ }
  | .move _ x y => { host with cursor := host.cursor.map fun c ↦ { c with x, y } }

/-- The answer to the request `req` and the host after it: `ERR_UNSPEC` for a request the host
cannot decode. -/
def respond (host : GpuHost) (mem : UInt64 → UInt8) (req : List UInt8) : List UInt8 × GpuHost :=
  match decode req with
  | some cmd => host.exec mem cmd
  | none => ((CtrlHeader.withType .ERR_UNSPEC).bytes, host)

/-- Serve a control chain of a request and a response buffer: the answer to the request goes
into the response buffer, as much of it as fits, and that many bytes are written. -/
def serveControl (descs : List Descriptor) :
    (UInt64 → UInt8) × GpuHost → ((UInt64 → UInt8) × GpuHost) × ℕ
  | (mem, host) =>
    match descs with
    | [req, rsp] =>
      let (reply, host) := host.respond mem (ByteMemory.read mem req.addr req.len.toNat)
      let out := reply.take rsp.len.toNat
      ((ByteMemory.write mem rsp.addr out, host), out.length)
    | _ => ((mem, host), 0)

/-- Serve a cursor chain of one request: nothing is written. -/
def serveCursor (descs : List Descriptor) :
    (UInt64 → UInt8) × GpuHost → ((UInt64 → UInt8) × GpuHost) × ℕ
  | (mem, host) =>
    match descs with
    | [req] =>
      match decodeCursor (ByteMemory.read mem req.addr req.len.toNat) with
      | some cmd => ((mem, host.execCursor cmd), 0)
      | none => ((mem, host), 0)
    | _ => ((mem, host), 0)

/-- The host while the driver waits: one turn on the queue the driver notified, the cursor queue
by its index and the control queue otherwise. -/
def serve : Device GpuHost := fun q mem host ↦
  if q.queueIdx = QUEUE_CURSOR then
    let (used, dq, mem, host) :=
      DeviceQueue.serveNext QUEUE_SIZE serveCursor q host.cursorQueue (mem, host)
    (used, mem, { host with cursorQueue := dq })
  else
    let (used, dq, mem, host) :=
      DeviceQueue.serveNext QUEUE_SIZE serveControl q host.control (mem, host)
    (used, mem, { host with control := dq })

end GpuHost

/-! ## What the host does -/

/-- A rectangle at the origin covers the first `width * height` pixels of an image of its
width. -/
theorem Rect.covers_origin (w h : UInt32) (b : ℕ) :
    (⟨0, 0, w, h⟩ : Rect).covers (4 * w.toNat) b = decide (b < w.toNat * h.toNat * 4) := by
  rcases Nat.eq_zero_or_pos w.toNat with hw | hw
  · simp [Rect.covers, hw]
  · have hstride : 0 < 4 * w.toNat := by omega
    have hmod : b % (4 * w.toNat) < 4 * w.toNat := Nat.mod_lt _ hstride
    have hdiv : b / (4 * w.toNat) < h.toNat ↔ b < w.toNat * h.toNat * 4 := by
      rw [Nat.div_lt_iff_lt_mul hstride]
      constructor <;> intro hb <;> linarith
    simp [Rect.covers, hmod, hdiv]

/-- A transfer of the whole of a resource from the start of a backing long enough copies the
backing byte for byte. -/
theorem Resource.transfer_origin {w h len : UInt32} {addr : UInt64} {image : ℕ → UInt8}
    (hlen : w.toNat * h.toNat * 4 ≤ len.toNat) (mem : UInt64 → UInt8) :
    (⟨w, h, some (addr, len), image⟩ : Resource).transfer ⟨0, 0, w, h⟩ 0 mem =
      some ⟨w, h, some (addr, len), fun b ↦
        if b < w.toNat * h.toNat * 4 then mem (addr + b.toUInt64) else image b⟩ := by
  have hok : ((⟨w, h, some (addr, len), image⟩ : Resource).fits ⟨0, 0, w, h⟩ &&
      decide ((0 : UInt64).toNat + (⟨w, h, some (addr, len), image⟩ : Resource).stride * h.toNat ≤
        len.toNat)) = true := by
    simp only [Resource.fits, Resource.stride]
    simp
    linarith
  simp only [Resource.transfer, hok, if_true, Option.some.injEq, Resource.mk.injEq, true_and]
  funext b
  rw [Resource.stride, Rect.covers_origin]
  simp [Nat.div_add_mod']

theorem GpuHost.flushResource_origin {host : GpuHost} {id w h : UInt32}
    {backing : Option (UInt64 × UInt32)} {image : ℕ → UInt8} (hscanout : host.scanout = some id) :
    host.flushResource id ⟨w, h, backing, image⟩ ⟨0, 0, w, h⟩ =
      { host with screen := fun b ↦ if b < w.toNat * h.toNat * 4 then image b else host.screen b } := by
  simp only [GpuHost.flushResource, hscanout, if_true, Resource.stride, Rect.covers_origin,
    decide_eq_true_eq]

namespace GpuHost

variable (host : GpuHost) (mem : UInt64 → UInt8)

@[simp]
theorem length_okNodata : okNodata.length = 24 := by
  simp [okNodata]

@[simp]
theorem checkType_okNodata : (CtrlHeader.ofBytes okNodata).checkType .OK_NODATA = .ok () := by
  simp [okNodata, CtrlHeader.ofBytes_bytes, CtrlHeader.checkType, CtrlHeader.withType]

variable {host}

theorem exec_transferToHost2D {id : UInt32} {res res' : Resource} (hres : host.resources id = some res)
    {r : Rect} {offset : UInt64} (htransfer : res.transfer r offset mem = some res') :
    host.exec mem (.transferToHost2D r offset id) =
      (okNodata, { host with resources := Function.update host.resources id (some res') }) := by
  simp [exec, answer, withResource, hres, htransfer]

theorem exec_resourceFlush {id : UInt32} {res : Resource} (hres : host.resources id = some res)
    {r : Rect} (hfits : res.fits r = true) :
    host.exec mem (.resourceFlush r id) = (okNodata, host.flushResource id res r) := by
  simp [exec, answer, hres, hfits]

end GpuHost

/-! ## The driver against the host -/

/-- The GPU driver with its display state, the host, and the memory they share. -/
structure GpuSystem where
  gpu : GpuDisplay
  host : GpuHost
  mem : UInt64 → UInt8

/-- A move: the application draws `pixels` into the frame buffer from byte `offset` on, or calls
`flush` against a register file, with the request and response locals at `reqAddr` and
`rspAddr`. -/
inductive GpuMove
  | draw (offset : ℕ) (pixels : List UInt8)
  | flush (o : IoLog.Oracle Access UInt32 VirtIoError) (h : List Access) (reqAddr rspAddr : ℕ)

namespace GpuSystem

variable (hal : Hal)

/-- The system after a call, with what the call returned; `none` when it fails to return. -/
def finish (p : Mmio (VirtIoResult Unit × GpuDisplay × (UInt64 → UInt8) × GpuHost))
    (o : IoLog.Oracle Access UInt32 VirtIoError) (h : List Access) :
    Option (GpuSystem × List (VirtIoResult Unit)) :=
  match (p.run o h).1 with
  | .ok (r, gpu, mem, host) => some (⟨gpu, host, mem⟩, [r])
  | _ => none

/-- One move, with the host serving the driver's calls; drawing needs the frame buffer
`setup_framebuffer` handed out. -/
def step (s : GpuSystem) : GpuMove → Option (GpuSystem × List (VirtIoResult Unit))
  | .draw offset pixels => s.gpu.frameBufferDma.map fun fb ↦
    ({ s with mem := ByteMemory.write s.mem (fb.toUInt64 + offset.toUInt64) pixels }, [])
  | .flush o h reqAddr rspAddr =>
    finish (s.gpu.flush hal reqAddr rspAddr GpuHost.serve s.mem s.host) o h

end GpuSystem

/-! ## What the host reads from the driver's requests -/

theorem decode_request (cmd : Command) (body : List UInt8) :
    decode ((CtrlHeader.withType cmd).bytes ++ body) = decodeBody cmd body := by
  simp [decode, CtrlHeader.withType]

theorem decode_resourceFlush (rect : Rect) (resourceId : UInt32) :
    decode ((CtrlHeader.withType .RESOURCE_FLUSH).bytes ++
      (rect.bytes ++ u32Bytes resourceId ++ u32Bytes 0)) =
      some (.resourceFlush rect resourceId) := by
  rw [decode_request]
  simp [decodeBody, u32At, ByteMemory.field_append_right, Command.GET_DISPLAY_INFO,
    Command.RESOURCE_CREATE_2D, Command.SET_SCANOUT, Command.RESOURCE_FLUSH]

theorem decode_transferToHost2D (rect : Rect) (offset : UInt64) (resourceId : UInt32) :
    decode ((CtrlHeader.withType .TRANSFER_TO_HOST_2D).bytes ++
      (rect.bytes ++ u64Bytes offset ++ u32Bytes resourceId ++ u32Bytes 0)) =
      some (.transferToHost2D rect offset resourceId) := by
  rw [decode_request]
  simp [decodeBody, u32At, u64At, ByteMemory.field_append_right, Command.GET_DISPLAY_INFO,
    Command.RESOURCE_CREATE_2D, Command.SET_SCANOUT, Command.RESOURCE_FLUSH,
    Command.TRANSFER_TO_HOST_2D]

end VirtIOGpu

end SafeVirtio
