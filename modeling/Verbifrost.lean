import Verbifrost.ByteMemory
import Verbifrost.GuardedRun
import Verbifrost.ReferenceHeap
import Verbifrost.RingQueue
import Verbifrost.Mlx5Registers
import Verbifrost.Mlx5CmdExec
import Verbifrost.Mlx5CmdProtocol
import Verbifrost.Mlx5CmdInit
import Verbifrost.ConnectXService
import Verbifrost.IbVerbs
import Verbifrost.Mlx5Verbs
import Verbifrost.Mlx5MemoryRegion
import Verbifrost.Mlx5QueuePair
import Verbifrost.Mlx5QpRequests
import Verbifrost.Mlx5QpLifetime
import Verbifrost.Mlx5WorkQueues
import Verbifrost.Mlx5ResponseLayout
import Verbifrost.Mlx5CmdCompletion
import Verbifrost.Mlx5CmdOutcome
import Verbifrost.Mlx5CmdIsolation
import Verbifrost.Mlx5DestroyRequests
import Verbifrost.Mlx5CmdAddresses
import Verbifrost.ObjectTable
import Verbifrost.Mlx5VerbRuns
import Verbifrost.Mlx5VerbBuffers
import Verbifrost.Mlx5QpStates
import Verbifrost.Mlx5WqeLayout
import Verbifrost.Mlx5CmdRing
import Verbifrost.Mlx5CmdSubmission
import Verbifrost.Mlx5CqGeometry
import Verbifrost.Mlx5VerbFrames
import Verbifrost.Mlx5PageList
import Verbifrost.Mlx5Registration
import Verbifrost.Mlx5Doorbells
import Verbifrost.A64Encoding
import Verbifrost.Mlx5CmdRuns
import Verbifrost.FileBytes
import Verbifrost.OpsDisassembly
import Verbifrost.MachO
import Verbifrost.Arm64eSlice
import Verbifrost.KextExtraction
import Verbifrost.Dictionary
import Verbifrost.KextSymbols
import Verbifrost.Mlx5Firmware
import Verbifrost.Mlx5CmdOwnership
import Verbifrost.Mlx5DeviceOps
import Verbifrost.Mlx5WqeDelivery
import Verbifrost.ConnectXBringUp
import Verbifrost.A64Processor
import Verbifrost.DisassembledCode
import Verbifrost.IordmaScripts
import Verbifrost.SymbolTables
import Verbifrost.KextPipeline
import Verbifrost.ConnectXTeardown
import Verbifrost.ResourceReplay
import Verbifrost.VerbsClients
import Verbifrost.HexDump
import Verbifrost.Mlx5ObjectFirmware
import Verbifrost.Mlx5ObjectRuns
