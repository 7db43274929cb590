import GpuCompute.Lib.Arena
import GpuCompute.Lib.Components
import GpuCompute.Fifo.Channel
import GpuCompute.Fifo.Method
import GpuCompute.Memory.Virtual
import GpuCompute.Fifo.Run
import GpuCompute.Fifo.Summary
import GpuCompute.Fifo.Concurrent
import GpuCompute.Compute.Engine
import GpuCompute.Compute.Fences
import GpuCompute.Tensor.Basic
import GpuCompute.Compute.Stream
import GpuCompute.Compute.Dispatch
import GpuCompute.Mmio.Log
import GpuCompute.Falcon.Basic
import GpuCompute.Falcon.Boot
import GpuCompute.Falcon.Ready
import GpuCompute.Lib.Register
import GpuCompute.Pci.Config
import GpuCompute.Pci.Scan
import GpuCompute.Pci.Bars
import GpuCompute.Pci.Frame
import GpuCompute.Fifo.Runlist
import GpuCompute.Driver.Init
import GpuCompute.Tensor.Run
import GpuCompute.Tensor.Accounting
import GpuCompute.Tensor.Windows
import GpuCompute.Pci.Sizing
import GpuCompute.Memory.Totals
import GpuCompute.Fifo.Allocate
import GpuCompute.Compute.Refusal
import GpuCompute.Lib.MixedRadix
import GpuCompute.Tensor.Strides
import GpuCompute.Mmio.Timer
import GpuCompute.Lib.Checked
import GpuCompute.Tensor.Overflow
import GpuCompute.Tensor.Launch
import GpuCompute.Lib.Port
import GpuCompute.Falcon.Upload
import GpuCompute.Fifo.Overflow
import GpuCompute.Compute.Overflow
import GpuCompute.Lib.Lens
import GpuCompute.Pci.Halves
import GpuCompute.Pci.Overflow
import GpuCompute.Memory.Overflow
import GpuCompute.Memory.Pte
import GpuCompute.Driver.Overflow
import GpuCompute.Lib.Simulation
import GpuCompute.Lib.Access
import GpuCompute.Mmio.Footprint
import GpuCompute.Falcon.Engines
import GpuCompute.Lib.Threads
import GpuCompute.Falcon.Threads
import GpuCompute.Lib.Pending
import GpuCompute.Driver.Interrupt
import GpuCompute.Lib.Calls
import GpuCompute.Memory.Concurrent
import GpuCompute.Driver.Memory
import GpuCompute.Driver.System
import GpuCompute.Driver.Registers
import GpuCompute.Compute.History
import GpuCompute.Driver.Launches
import GpuCompute.Pci.Rescan
import GpuCompute.Driver.BringUp
