import SafeVirtio.Lib.Reachable
import SafeVirtio.Lib.WrapWindow
import SafeVirtio.Lib.LinkedChain
import SafeVirtio.Basic
import SafeVirtio.Queue.Basic
import SafeVirtio.Queue.Add
import SafeVirtio.Queue.Pop
import SafeVirtio.Queue.Device
import SafeVirtio.Queue.Conservation
import SafeVirtio.Queue.Completion
import SafeVirtio.Lib.IoLog
import SafeVirtio.Lib.Channel
import SafeVirtio.Transport.Mmio
import SafeVirtio.Transport.DeviceType
import SafeVirtio.Queue.New
import SafeVirtio.Device.Block
import SafeVirtio.Device.Gpu
import SafeVirtio.Device.Console
import SafeVirtio.Device.Input
import SafeVirtio.Device.InputRing
import SafeVirtio.Device.Net
import SafeVirtio.Device.InitOrder
import SafeVirtio.Queue.Blocking
import SafeVirtio.Device.Submit
import SafeVirtio.Device.NetRing
import SafeVirtio.Device.ConsoleReceive
import SafeVirtio.Device.BlockDisk
import SafeVirtio.Queue.Window
import SafeVirtio.Device.NetHeader
import SafeVirtio.Queue.Idle
import SafeVirtio.Device.BlockRefine
import SafeVirtio.Device.GpuRequest
import SafeVirtio.Device.GpuHost
import SafeVirtio.Device.GpuRefine
import SafeVirtio.Device.GpuOverflow
import SafeVirtio.Device.GpuCursor
import SafeVirtio.Device.Transmit
import SafeVirtio.Device.InputConfig
import SafeVirtio.Device.Lifecycle
import SafeVirtio.Lib.DeviceRun
