import SafeVirtio.Queue.New

/-!
# The input driver

`VirtIOInput` posts every slot of `event_buf` on its event queue of 32 descriptors, one
device-writable descriptor of 8 bytes each, and expects slot `i` to get token `i`.  The slots'
contents live in the memory the driver shares with the device, which the model passes to the
driver's methods as a function from physical addresses to the `InputEvent` stored there; the
driver's state holds the address of `event_buf`.
-/

namespace SafeVirtio

def VirtIOInput.QUEUE_SIZE : ℕ := 32

/-- `InputEvent`, the record the device writes into a slot of `event_buf`. -/
structure InputEvent where
  eventType : UInt16
  code : UInt16
  value : UInt32
  deriving DecidableEq, Repr, Inhabited

structure VirtIOInput where
  transport : MmioTransport
  eventQueue : VirtIoQueue VirtIOInput.QUEUE_SIZE
  statusQueue : VirtIoQueue VirtIOInput.QUEUE_SIZE
  eventBuf : ℕ

namespace VirtIOInput

def QUEUE_EVENT : UInt16 := 0

def QUEUE_STATUS : UInt16 := 1

def SUPPORTED_FEATURES : UInt64 := 0

/-- `size_of::<InputEvent>()`: `event_type` and `code` of `u16`, `value` of `u32`. -/
def inputEventSize : ℕ := 8

/-- The descriptor that posts `event_buf[i]`. -/
def eventDescriptor (hal : Hal) (eventBuf i : ℕ) : Descriptor :=
  Descriptor.new hal (eventBuf + inputEventSize * i) inputEventSize.toUInt32 DescFlag.WRITE

/-- The loop of `new` over `event_buf.iter().enumerate()`, from slot `i` with `n` slots to go:
post the slot, and `assert_eq!(token, i)`. -/
def postEventBufs (hal : Hal) (eventBuf : ℕ) :
    ℕ → ℕ → VirtIoQueue QUEUE_SIZE → Option (VirtIoResult (VirtIoQueue QUEUE_SIZE))
  | _, 0, q => some (.ok q)
  | i, n + 1, q =>
    match q.add [eventDescriptor hal eventBuf i] with
    | none => none
    | some (.error e, _) => some (.error e)
    | some (.ok token, q) =>
      if token ≠ i.toUInt16 then none else postEventBufs hal eventBuf (i + 1) n q

/-- `VirtIOInput::new`, with `eventBuf` the address of the array `Box::new` allocates.  The
event queue is notified before `finish_init`. -/
def new (hal : Hal) (transport : MmioTransport) (eventBuf : ℕ) : Mmio VirtIOInput :=
  IoLog.Io.onError (do
    let _ ← transport.beginInit SUPPORTED_FEATURES
    let eventQueue ← VirtIoQueue.new QUEUE_SIZE hal transport QUEUE_EVENT
    let statusQueue ← VirtIoQueue.new QUEUE_SIZE hal transport QUEUE_STATUS
    let eventQueue ← IoLog.Io.ofOption (postEventBufs hal eventBuf 0 QUEUE_SIZE eventQueue)
    if eventQueue.shouldNotify then MmioTransport.notify QUEUE_EVENT
    MmioTransport.finishInit
    pure { transport, eventQueue, statusQueue, eventBuf })
    MmioTransport.drop

def ackInterrupt : Mmio Bool := MmioTransport.ackInterrupt

/-- `pop_pending_event`: take the completion at `last_seen_used`, read the event of its slot
and post the slot again, expecting the same token back.  `mem` is the memory shared with the
device, read at the physical address of `event_buf[token]`. -/
def popPendingEvent (hal : Hal) (mem : UInt64 → InputEvent) (input : VirtIOInput) :
    Mmio (VirtIoResult (Option InputEvent) × VirtIOInput) :=
  match input.eventQueue.peekUsed with
  | none => pure (.ok none, input)
  | some token =>
    match input.eventQueue.popUsed token with
    | none => IoLog.Io.panic
    | some (.error e, q) => pure (.error e, { input with eventQueue := q })
    | some (.ok _, q) =>
      -- the index into `event_buf` is bounds-checked
      if QUEUE_SIZE ≤ token.toNat then IoLog.Io.panic else
      let eventSaved :=
        mem (hal.toPaddr (input.eventBuf + inputEventSize * token.toNat)).toUInt64
      match q.add [eventDescriptor hal input.eventBuf token.toNat] with
      | none => IoLog.Io.panic
      | some (.error e, q) => pure (.error e, { input with eventQueue := q })
      | some (.ok newToken, q) =>
        -- `assert_eq!(new_token, token)`
        if newToken ≠ token then IoLog.Io.panic
        else if q.shouldNotify then
          IoLog.Io.question (MmioTransport.notify QUEUE_EVENT) { input with eventQueue := q }
            fun _ ↦ pure (.ok (some eventSaved), { input with eventQueue := q })
        else pure (.ok (some eventSaved), { input with eventQueue := q })

end VirtIOInput

end SafeVirtio
