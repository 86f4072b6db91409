import SafeVirtio.Queue.New

/-!
# The GPU driver's constructor

`VirtIOGpu::new` reads two words of the configuration space between the transport's two
initialisation steps and sets up the control and cursor queues of two descriptors each.  The
frame and cursor buffers are allocated later, by `setup_framebuffer` and `setup_cursor`
(`SafeVirtio.Device.GpuRequest`).
-/

namespace SafeVirtio

def VirtIOGpu.QUEUE_SIZE : ℕ := 2

structure VirtIOGpu where
  transport : MmioTransport
  controlQueue : VirtIoQueue VirtIOGpu.QUEUE_SIZE
  cursorQueue : VirtIoQueue VirtIOGpu.QUEUE_SIZE

namespace VirtIOGpu

def SUPPORTED_FEATURES : UInt64 := 0

def QUEUE_TRANSMIT : UInt16 := 0

def QUEUE_CURSOR : UInt16 := 1

/-- `VirtIOGpu::new`: `events_read` and `num_scanouts` are read only to be logged. -/
def new (hal : Hal) (transport : MmioTransport) : Mmio VirtIOGpu :=
  IoLog.Io.onError (do
    let _ ← transport.beginInit SUPPORTED_FEATURES
    let _eventsRead ← Mmio.read32 CONFIG_OFFSET
    let _numScanouts ← Mmio.read32 (CONFIG_OFFSET + 8)
    let controlQueue ← VirtIoQueue.new QUEUE_SIZE hal transport QUEUE_TRANSMIT
    let cursorQueue ← VirtIoQueue.new QUEUE_SIZE hal transport QUEUE_CURSOR
    MmioTransport.finishInit
    pure { transport, controlQueue, cursorQueue })
    MmioTransport.drop

end VirtIOGpu

end SafeVirtio
