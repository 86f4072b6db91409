import SafeVirtio.Queue.New
import SafeVirtio.Queue.Blocking

/-!
# The console driver

`VirtIOConsole` keeps a receive queue and a transmit queue of two descriptors each and one page
`queue_buf_rx` into which the device writes received bytes; `cursor .. pending_len` is the part
of that page not yet handed to the caller, and `receive_token` the token of the outstanding
receive request, if there is one.  The page's contents live in the memory the driver shares with
the device, so the driver's state holds only its address, and the methods that read the page
take that memory (`mem`, by physical address).

Every request goes through `add_notify_wait_pop`, whose wait is given the used ring as it finds
it (`used`): the device's completion of the request.  `recv_block` loops until a byte is there;
the model runs its loop for at most `fuel` turns and counts running out with the panics, as a
loop that never exits.
-/

namespace SafeVirtio

def VirtIOConsole.QUEUE_SIZE : ℕ := 2

structure VirtIOConsole where
  transport : MmioTransport
  receiveq : VirtIoQueue VirtIOConsole.QUEUE_SIZE
  transmitq : VirtIoQueue VirtIOConsole.QUEUE_SIZE
  queueBufRx : ℕ
  cursor : ℕ
  pendingLen : ℕ
  receiveToken : Option UInt16

namespace VirtIOConsole

def QUEUE_RECEIVEQ_PORT_0 : UInt16 := 0

def QUEUE_TRANSMITQ_PORT_0 : UInt16 := 1

def SUPPORTED_FEATURES : UInt64 := 0

/-- `VirtIOConsole::new`, with `queueBufRx` the address of the page `Box::new` allocates. -/
def new (hal : Hal) (transport : MmioTransport) (queueBufRx : ℕ) : Mmio VirtIOConsole :=
  IoLog.Io.onError (do
    let _ ← transport.beginInit SUPPORTED_FEATURES
    let receiveq ← VirtIoQueue.new QUEUE_SIZE hal transport QUEUE_RECEIVEQ_PORT_0
    let transmitq ← VirtIoQueue.new QUEUE_SIZE hal transport QUEUE_TRANSMITQ_PORT_0
    MmioTransport.finishInit
    pure
      { transport := transport
        receiveq := receiveq
        transmitq := transmitq
        queueBufRx := queueBufRx
        cursor := 0
        pendingLen := 0
        receiveToken := none })
    MmioTransport.drop

/-- `poll_retrieve`: with no request outstanding and every received byte handed out, post the
page and wait for the device.  The length the wait returns is dropped and the token recorded is
`Some(0)`. -/
def pollRetrieve (c : VirtIOConsole) (hal : Hal) (used : UsedRing) :
    Mmio (VirtIoResult Unit × VirtIOConsole) :=
  if c.receiveToken = none ∧ c.cursor = c.pendingLen then do
    let req := Descriptor.new hal c.queueBufRx PAGE_SIZE.toUInt32 DescFlag.WRITE
    let (r, receiveq) ← c.receiveq.addNotifyWaitPop [req] used used
    match r with
    | .error e => pure (.error e, { c with receiveq })
    | .ok _ => pure (.ok (), { c with receiveq, receiveToken := some 0 })
  else pure (.ok (), c)

/-- `finish_receive`: pop the outstanding request when `peek_used` names its token, and make
its bytes pending; `assert_ne!(len, 0)` panics on an empty completion. -/
def finishReceive (c : VirtIOConsole) : Option (VirtIoResult Bool × VirtIOConsole) :=
  match c.receiveToken with
  | none => some (.ok false, c)
  | some receiveToken =>
    if c.receiveToken = c.receiveq.peekUsed then
      (c.receiveq.popUsed receiveToken).bind fun
        | (.error e, receiveq) => some (.error e, { c with receiveq })
        | (.ok len, receiveq) =>
          if len = 0 then none
          else some (.ok true,
            { c with receiveq, cursor := 0, pendingLen := len.toNat, receiveToken := none })
    else some (.ok false, c)

/-- The byte at `cursor` of the page; indexing the page panics past its end. -/
def byteAtCursor (c : VirtIOConsole) (hal : Hal) (mem : UInt64 → UInt8) : Option UInt8 :=
  if PAGE_SIZE ≤ c.cursor then none else some (mem (hal.toPaddr (c.queueBufRx + c.cursor)).toUInt64)

/-- `recv_block`, its loop run for at most `fuel` turns. -/
def recvBlock (hal : Hal) (mem : UInt64 → UInt8) (used : UsedRing) :
    ℕ → VirtIOConsole → Mmio (VirtIoResult UInt8 × VirtIOConsole)
  | 0, _ => IoLog.Io.panic
  | fuel + 1, c =>
    match c.finishReceive with
    | none => IoLog.Io.panic
    | some (.error e, c) => pure (.error e, c)
    | some (.ok _, c) => do
      let (r, c) ← c.pollRetrieve hal used
      match r with
      | .error e => pure (.error e, c)
      | .ok () =>
        -- `continue` while nothing is pending
        if c.cursor = c.pendingLen then recvBlock hal mem used fuel c else
        match c.byteAtCursor hal mem with
        | none => IoLog.Io.panic
        | some ch => pure (.ok ch, { c with cursor := c.cursor + 1 })

/-- `send` of the byte in the one-byte stack buffer at `bufAddr`. -/
def send (c : VirtIOConsole) (hal : Hal) (bufAddr : ℕ) (used : UsedRing) :
    Mmio (VirtIoResult Unit × VirtIOConsole) := do
  let desc := Descriptor.new hal bufAddr 1 DescFlag.EMPTY
  let (r, transmitq) ← c.transmitq.addNotifyWaitPop [desc] used used
  match r with
  | .error e => pure (.error e, { c with transmitq })
  | .ok _ => pure (.ok (), { c with transmitq })

/-- `ack_interrupt`: when the device has raised an interrupt, `finish_receive`. -/
def ackInterrupt (c : VirtIOConsole) : Mmio (VirtIoResult Bool × VirtIOConsole) :=
  IoLog.Io.question MmioTransport.ackInterrupt c fun ack ↦
    if ack then
      match c.finishReceive with
      | none => IoLog.Io.panic
      | some r => pure r
    else pure (.ok false, c)

end VirtIOConsole

end SafeVirtio
