import SafeVirtio.Queue.New
import SafeVirtio.Queue.Blocking

/-!
# The network drivers

`VirtIONetRaw` keeps a receive and a send queue of `QUEUE_SIZE` descriptors and submits one
descriptor per packet buffer; `VirtIONet` adds `QUEUE_SIZE` receive buffers of `buf_len` bytes,
all posted by `new` so that buffer `i` is outstanding under token `i`.  Buffers live in the
memory the driver shares with the device: the state holds their addresses, and a transmitted
buffer is given by its address and its bytes, of which `transmit_begin` checks the header.

The methods take `&mut self` and return a `Result`; in the model they return the result together
with the state, since an error after `add` leaves the queue as `add` changed it.  `new` of
`VirtIONetRaw` binds the result of `begin_init` without `?`, and logs the status register only
when debug logging is on (`logDebug`), as the arguments of `debug!` are evaluated only then.
-/

namespace SafeVirtio

namespace VirtIONetRaw

def NET_HDR_SIZE : ℕ := 10

def MIN_BUFFER_LEN : ℕ := 1526

def QUEUE_RECEIVE : UInt16 := 0

def QUEUE_TRANSMIT : UInt16 := 1

def MAC : UInt64 := (1 : UInt64) <<< 5

def STATUS : UInt64 := (1 : UInt64) <<< 16

def SUPPORTED_FEATURES : UInt64 := MAC ||| STATUS

end VirtIONetRaw

/-- `VirtioNetHdr`; `flags` and `gso_type` are newtypes over `u8`.  The derived `Default` is the
header with every field zero. -/
structure VirtioNetHdr where
  flags : UInt8
  gsoType : UInt8
  hdrLen : UInt16
  gsoSize : UInt16
  csumStart : UInt16
  csumOffset : UInt16
  deriving DecidableEq, Repr, Inhabited

namespace VirtioNetHdr

open VirtIONetRaw (NET_HDR_SIZE)

/-- `write_to`: `assert!(target.len() >= size_of::<Self>())`, then the ten stores. -/
def writeTo (h : VirtioNetHdr) (target : List UInt8) : Option (List UInt8) :=
  if target.length < NET_HDR_SIZE then none else
  let target := target.set 0 h.flags
  let target := target.set 1 h.gsoType
  let target := target.set 2 h.hdrLen.toUInt8
  let target := target.set 3 (h.hdrLen >>> 8).toUInt8
  let target := target.set 4 h.gsoSize.toUInt8
  let target := target.set 5 (h.gsoSize >>> 8).toUInt8
  let target := target.set 6 h.csumStart.toUInt8
  let target := target.set 7 (h.csumStart >>> 8).toUInt8
  let target := target.set 8 h.csumOffset.toUInt8
  let target := target.set 9 (h.csumOffset >>> 8).toUInt8
  some target

/-- `equal`: the same assertion, then `flag &= target[i] == …` for each of the ten bytes.  It
always answers `Ok`. -/
def equal (h : VirtioNetHdr) (target : List UInt8) : Option (VirtIoResult Bool) :=
  if hlen : target.length < NET_HDR_SIZE then none else
  have h10 : 10 ≤ target.length := by
    simp only [NET_HDR_SIZE] at hlen
    omega
  let flag := true
  let flag := flag && target[0] == h.flags
  let flag := flag && target[1] == h.gsoType
  let flag := flag && target[2] == h.hdrLen.toUInt8
  let flag := flag && target[3] == (h.hdrLen >>> 8).toUInt8
  let flag := flag && target[4] == h.gsoSize.toUInt8
  let flag := flag && target[5] == (h.gsoSize >>> 8).toUInt8
  let flag := flag && target[6] == h.csumStart.toUInt8
  let flag := flag && target[7] == (h.csumStart >>> 8).toUInt8
  let flag := flag && target[8] == h.csumOffset.toUInt8
  let flag := flag && target[9] == (h.csumOffset >>> 8).toUInt8
  some (.ok flag)

theorem equal_eq_ok (h : VirtioNetHdr) {target : List UInt8} (hlen : NET_HDR_SIZE ≤ target.length) :
    ∃ b, h.equal target = some (.ok b) := by
  simp [equal, Nat.not_lt.mpr hlen]

end VirtioNetHdr

structure VirtIONetRaw (QUEUE_SIZE : ℕ) where
  transport : MmioTransport
  mac : List UInt8
  recvQueue : VirtIoQueue QUEUE_SIZE
  sendQueue : VirtIoQueue QUEUE_SIZE

namespace VirtIONetRaw

variable {QUEUE_SIZE : ℕ}

/-- `ReadOnly<OFFSET, Array<n, u8>>::read`: `n` bytes from `off` on, one access each. -/
def readBytes (off : ℕ) : ℕ → Mmio (List UInt8)
  | 0 => pure []
  | n + 1 => do
    let b ← Mmio.read8 off
    let bs ← readBytes (off + 1) n
    pure (b :: bs)

/-- `VirtIONetRaw::new`.  A failure of `begin_init` is logged and ignored. -/
def new (QUEUE_SIZE : ℕ) (hal : Hal) (transport : MmioTransport) (logDebug : Bool) :
    Mmio (VirtIONetRaw QUEUE_SIZE) :=
  IoLog.Io.onError (do
    let _negotiatedFeatures ← IoLog.Io.attempt (transport.beginInit SUPPORTED_FEATURES)
    let mac ← readBytes CONFIG_OFFSET 6
    if logDebug then
      let _status ← IoLog.Io.attempt (Mmio.read32 (CONFIG_OFFSET + 6))
    let recvQueue ← VirtIoQueue.new QUEUE_SIZE hal transport QUEUE_RECEIVE
    let sendQueue ← VirtIoQueue.new QUEUE_SIZE hal transport QUEUE_TRANSMIT
    MmioTransport.finishInit
    pure { transport, mac, recvQueue, sendQueue })
    MmioTransport.drop

/-- `check_tx_buf_header`: the buffer holds at least a header, and `VirtioNetHdr::default()`
finds its own bytes there.  After the length check `equal` answers `Ok`
(`VirtioNetHdr.equal_eq_ok`), so the last two arms are never taken. -/
def checkTxBufHeader (txBuf : List UInt8) : VirtIoResult Unit :=
  if txBuf.length < NET_HDR_SIZE then .error .invalidParam
  else match (default : VirtioNetHdr).equal txBuf with
    | some (.ok true) => .ok ()
    | some (.ok false) => .error .invalidParam
    | some (.error e) => .error e
    | none => .error .invalidParam

/-- `check_rx_buf_len`. -/
def checkRxBufLen (rxLen : ℕ) : VirtIoResult Unit :=
  if rxLen < MIN_BUFFER_LEN then .error .invalidParam else .ok ()

/-- `transmit_begin`, for a buffer at `txAddr` holding `txBuf`. -/
def transmitBegin (net : VirtIONetRaw QUEUE_SIZE) (hal : Hal) (txAddr : ℕ) (txBuf : List UInt8) :
    Mmio (VirtIoResult UInt16 × VirtIONetRaw QUEUE_SIZE) :=
  match checkTxBufHeader txBuf with
  | .error e => pure (.error e, net)
  | .ok () => do
    let desc := Descriptor.new hal txAddr txBuf.length.toUInt32 DescFlag.EMPTY
    let (r, q) ← net.sendQueue.addNotify [desc] QUEUE_TRANSMIT fun token q ↦ pure (.ok token, q)
    pure (r, { net with sendQueue := q })

/-- `receive_begin`, for a buffer of `rxLen` bytes at `rxAddr`. -/
def receiveBegin (net : VirtIONetRaw QUEUE_SIZE) (hal : Hal) (rxAddr rxLen : ℕ) :
    Mmio (VirtIoResult UInt16 × VirtIONetRaw QUEUE_SIZE) :=
  match checkRxBufLen rxLen with
  | .error e => pure (.error e, net)
  | .ok () => do
    let desc := Descriptor.new hal rxAddr rxLen.toUInt32 DescFlag.WRITE
    let (r, q) ← net.recvQueue.addNotify [desc] QUEUE_RECEIVE fun token q ↦ pure (.ok token, q)
    pure (r, { net with recvQueue := q })

/-- `receive_complete`: pop the request, and refuse a used length shorter than a header. -/
def receiveComplete (net : VirtIONetRaw QUEUE_SIZE) (token : UInt16) :
    Option (VirtIoResult (ℕ × ℕ) × VirtIONetRaw QUEUE_SIZE) :=
  (net.recvQueue.popUsed token).map fun
    | (.error e, q) => (.error e, { net with recvQueue := q })
    | (.ok len, q) =>
      if len.toNat < NET_HDR_SIZE then (.error .ioError, { net with recvQueue := q })
      else (.ok (NET_HDR_SIZE, len.toNat - NET_HDR_SIZE), { net with recvQueue := q })

/-- `can_recv`: the token at `last_seen_used` and its descriptor's length; indexing the table
with the token panics past its end. -/
def canRecv (net : VirtIONetRaw QUEUE_SIZE) : Option (Option (UInt16 × ℕ)) :=
  match net.recvQueue.peekUsed with
  | none => some none
  | some token => (net.recvQueue.getDescLen token).map fun len ↦ some (token, len)

/-- `send`: the default header, in a stack buffer at `hdrAddr`, chained to the packet of `txLen`
bytes at `txAddr` unless the packet is empty, submitted and waited for; `used` is the used ring
as the wait finds it. -/
def send (net : VirtIONetRaw QUEUE_SIZE) (hal : Hal) (hdrAddr txAddr txLen : ℕ) (used : UsedRing) :
    Mmio (VirtIoResult Unit × VirtIONetRaw QUEUE_SIZE) := do
  let headerDesc := Descriptor.new hal hdrAddr NET_HDR_SIZE.toUInt32
    (if txLen = 0 then DescFlag.EMPTY else DescFlag.NEXT)
  let v := if txLen = 0 then [headerDesc]
    else [headerDesc, Descriptor.new hal txAddr txLen.toUInt32 DescFlag.EMPTY]
  let (r, q) ← net.sendQueue.addNotifyWaitPop v used used
  match r with
  | .error e => pure (.error e, { net with sendQueue := q })
  | .ok _ => pure (.ok (), { net with sendQueue := q })

end VirtIONetRaw

/-- The driver that keeps every receive buffer posted. -/
structure VirtIONet (QUEUE_SIZE : ℕ) where
  inner : VirtIONetRaw QUEUE_SIZE
  rxBuffers : ℕ → ℕ
  bufLen : ℕ

namespace VirtIONet

variable {QUEUE_SIZE : ℕ}

/-- The loop of `new` from buffer `i` with `n` buffers to go: post the buffer, and
`assert_eq!(token, i)`. -/
def postRxBuffers (hal : Hal) (rxBuffers : ℕ → ℕ) (bufLen : ℕ) :
    ℕ → ℕ → VirtIONetRaw QUEUE_SIZE → Mmio (VirtIONetRaw QUEUE_SIZE)
  | _, 0, inner => pure inner
  | i, n + 1, inner => do
    let (r, inner) ← inner.receiveBegin hal (rxBuffers i) bufLen
    match r with
    | .error e => IoLog.Io.throw e
    | .ok token =>
      if token ≠ i.toUInt16 then IoLog.Io.panic
      else postRxBuffers hal rxBuffers bufLen (i + 1) n inner

/-- `VirtIONet::new`, with `rxBuffers i` the address of the `i`-th buffer.  An error while
posting drops the raw driver, and with it the transport. -/
def new (QUEUE_SIZE : ℕ) (hal : Hal) (transport : MmioTransport) (logDebug : Bool)
    (rxBuffers : ℕ → ℕ) (bufLen : ℕ) : Mmio (VirtIONet QUEUE_SIZE) := do
  let inner ← VirtIONetRaw.new QUEUE_SIZE hal transport logDebug
  let inner ← IoLog.Io.onError (postRxBuffers hal rxBuffers bufLen 0 QUEUE_SIZE inner)
    MmioTransport.drop
  pure { inner, rxBuffers, bufLen }

/-- `receive` into the caller's buffer `data`, reading the receive buffer through `mem`, the
memory shared with the device, by physical address.  It returns the packet's length and `data`
with the packet copied to its front. -/
def receive (net : VirtIONet QUEUE_SIZE) (hal : Hal) (mem : UInt64 → UInt8) (data : List UInt8) :
    Mmio (VirtIoResult ℕ × List UInt8 × VirtIONet QUEUE_SIZE) :=
  match net.inner.canRecv with
  | none => IoLog.Io.panic
  | some none => pure (.error .notReady, data, net)
  | some (some (token, _)) =>
    -- `self.rx_buffers[token as usize]` is bounds-checked
    if QUEUE_SIZE ≤ token.toNat then IoLog.Io.panic else
    let rxBuf := net.rxBuffers token.toNat
    match net.inner.receiveComplete token with
    | none => IoLog.Io.panic
    | some (.error e, inner) => pure (.error e, data, { net with inner })
    | some (.ok (hdrLen, pktLen), inner) =>
      -- both slices of the copy are bounds-checked
      if data.length < pktLen ∨ net.bufLen < hdrLen + pktLen then IoLog.Io.panic else
      let data := (List.range pktLen).map (fun k ↦
        mem (hal.toPaddr (rxBuf + hdrLen + k)).toUInt64) ++ data.drop pktLen
      do
        let (r, inner) ← inner.receiveBegin hal rxBuf net.bufLen
        match r with
        | .error e => pure (.error e, data, { net with inner })
        | .ok newToken =>
          -- `assert_eq!(new_token, token)`
          if newToken ≠ token then IoLog.Io.panic
          else pure (.ok pktLen, data, { net with inner })

def send (net : VirtIONet QUEUE_SIZE) (hal : Hal) (hdrAddr txAddr txLen : ℕ) (used : UsedRing) :
    Mmio (VirtIoResult Unit × VirtIONet QUEUE_SIZE) := do
  let (r, inner) ← net.inner.send hal hdrAddr txAddr txLen used
  pure (r, { net with inner })

end VirtIONet

end SafeVirtio
