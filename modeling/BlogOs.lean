import BlogOs.Lib.Prog
import BlogOs.Lib.Sim
import BlogOs.Lib.Bytes
import BlogOs.Lib.Align
import BlogOs.Lib.Span
import BlogOs.Lib.Alloc
import BlogOs.Lib.Iter
import BlogOs.Lib.Sync
import BlogOs.Lib.X86
import BlogOs.Lib.Terminal
import BlogOs.Lib.RoundRobin
import BlogOs.Fs.Layout
import BlogOs.Fs.Bitmap
import BlogOs.Fs.BitmapSet
import BlogOs.Fs.SimpleFs
import BlogOs.Fs.Store
import BlogOs.Fs.Format
import BlogOs.Fs.Directory
import BlogOs.Fs.Allocation
import BlogOs.Fs.Create
import BlogOs.Fs.RootDir
import BlogOs.Fs.RootStore
import BlogOs.Fs.AddEntry
import BlogOs.Fs.Faults
import BlogOs.Fs.Corrupt
import BlogOs.Allocator.Heap
import BlogOs.Allocator.Bump
import BlogOs.Allocator.LinkedList
import BlogOs.Allocator.LinkedListSafety
import BlogOs.Allocator.FixedSizeBlock
import BlogOs.Allocator.Reuse
import BlogOs.Allocator.InitHeap
import BlogOs.Memory.FrameAllocator
import BlogOs.Memory.Mmu
import BlogOs.Memory.Paging
import BlogOs.Task.Keyboard
import BlogOs.Task.Executor
import BlogOs.Task.Fairness
import BlogOs.Task.KeyboardTask
import BlogOs.Task.WakeOverflow
import BlogOs.Task.SimpleExecutor
import BlogOs.Virtio.Pci
import BlogOs.Virtio.Hal
import BlogOs.VgaBuffer.Writer
import BlogOs.VgaBuffer.Refinement
import BlogOs.Boot.Storage
