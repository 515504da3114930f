import Gear.Lib.AListSum
import Gear.Lib.Gaps
import Gear.Lib.Nesting
import Gear.Lib.ExceptBind
import Gear.Lib.ByteMemory
import Gear.Lib.PowerOfTwo
import Gear.Lib.AListFilter
import Gear.Lib.ExceptAvoids
import Gear.GasTree.Node
import Gear.GasTree.Internal
import Gear.GasTree.Invariant
import Gear.GasTree.Procedures
import Gear.GasTree.Shape
import Gear.GasTree.Cascade
import Gear.GasTree.Consume
import Gear.GasTree.Split
import Gear.GasTree.Move
import Gear.GasTree.Run
import Gear.GasTree.Saturation
import Gear.GasTree.Removal
import Gear.GasTree.Atomic
import Gear.GasTree.FreshCatch
import Gear.GasTree.RoundTrip
import Gear.Bank.Model
import Gear.Bank.Solvency
import Gear.Memory.IntervalsTree
import Gear.Memory.Allocations
import Gear.Memory.AllocationsSafety
import Gear.Message.Context
import Gear.Message.Bookkeeping
import Gear.Message.Payloads
import Gear.GasMetering.Counter
import Gear.GasMetering.Paths
import Gear.GasMetering.Costs
import Gear.StackLimiter.Module
import Gear.StackLimiter.MaxHeight
import Gear.StackLimiter.Heights
import Gear.StackLimiter.Inject
import Gear.Storage.Dequeue
import Gear.Storage.DequeueRefinement
import Gear.Storage.Drain
import Gear.Allocator.FreeingBump
import Gear.Allocator.Spec
import Gear.Allocator.Layout
import Gear.Allocator.Invariant
import Gear.Allocator.Soundness
import Gear.Sync.Runtime
import Gear.Sync.Spec
import Gear.Sync.Exclusion
import Gear.Sync.Signal
import Gear.Sync.Queues
import Gear.Reservation.Reserver
import Gear.Reservation.Limits
import Gear.Processor.Counters
import Gear.Processor.Reservations
import Gear.Processor.Journal
import Gear.Processor.Precharge
import Gear.Ethexe.Transitions
import Gear.Ethexe.Finalize
import Gear.Ethexe.Mailbox
import Gear.Ethexe.UserMailbox
import Gear.Ethexe.Allocations
import Gear.Ethexe.Settlement
import Gear.Ethexe.MemoryPages
import Gear.Ethexe.Regions
import Gear.Ethexe.Runtime
import Gear.Ethexe.RuntimeJournal
import Gear.Ethexe.RuntimeQueue
import Gear.LazyPages.Process
import Gear.LazyPages.Status
import Gear.Tasks.Process
import Gear.Tasks.ExactlyOnce
import Gear.Waitlist.Hold
import Gear.Waitlist.Waiting
import Gear.Waitlist.Timers
import Gear.Ethexe.NativeJournal
