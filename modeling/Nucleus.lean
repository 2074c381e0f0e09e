import Nucleus.Kernel.Boot
import Nucleus.Console
import Nucleus.Interrupt.Locks
import Nucleus.Machine
import Nucleus.Main
import Nucleus.Proofs.Interrupt.Masking
import Nucleus.Proofs.Watching
import Nucleus.Proofs.Access
import Nucleus.Proofs.Buddy.Links
import Nucleus.Proofs.Buddy.Nodes
import Nucleus.Proofs.Buddy.Rooms
import Nucleus.Proofs.Buddy.Book
import Nucleus.Proofs.Buddy.Sound
import Nucleus.Proofs.Buddy.Marks
import Nucleus.Proofs.Bits
import Nucleus.Proofs.Buddy.Writes
import Nucleus.Proofs.Buddy.Shows
import Nucleus.Proofs.Buddy.Steps
import Nucleus.Proofs.Buddy.SplitSteps
import Nucleus.Proofs.Buddy.Plan
import Nucleus.Proofs.Buddy.Carve
import Nucleus.Proofs.Buddy.Search
import Nucleus.Proofs.Buddy.Growing
import Nucleus.Proofs.Buddy.Carving
import Nucleus.Proofs.Buddy.Allocating
import Nucleus.Proofs.Buddy.Releasing
import Nucleus.Proofs.Buddy.Serving
import Nucleus.Proofs.Buddy.Session
import Nucleus.Proofs.Buddy.Partition
import Nucleus.Proofs.Buddy.Granted
import Nucleus.Proofs.Buddy.Faultless
import Nucleus.Proofs.Buddy.Payloads
import Nucleus.Proofs.Buddy.Exhaustion
import Nucleus.Proofs.Buddy.Holes
import Nucleus.Proofs.Buddy.Canonical
import Nucleus.Proofs.Buddy.Unlocked
import Nucleus.Proofs.Messages.Streams
import Nucleus.Proofs.Processes.Blocked
import Nucleus.Proofs.Processes.Line
import Nucleus.Proofs.Processes.Switches
import Nucleus.Proofs.Processes.Handovers
import Nucleus.Proofs.Kernel.Sections
import Nucleus.Proofs.Messages.History
import Nucleus.Proofs.Messages.Edits
import Nucleus.Proofs.Messages.Answers
import Nucleus.Proofs.Messages.Reading
import Nucleus.Proofs.Messages.Waking
import Nucleus.Proofs.Messages.Senders
import Nucleus.Proofs.Messages.Numbers
import Nucleus.Proofs.Kernel.World
import Nucleus.Proofs.Kernel.Turns
import Nucleus.Proofs.Kernel.Linked
import Nucleus.Proofs.Kernel.Wakeups
import Nucleus.Proofs.Kernel.Schedules
import Nucleus.Proofs.Kernel.Site
import Nucleus.Proofs.Kernel.Receiving
import Nucleus.Proofs.Kernel.Resuming
import Nucleus.Proofs.Kernel.Reuse
import Nucleus.Proofs.Kernel.Activities
import Nucleus.Proofs.Kernel.Lasting
import Nucleus.Proofs.Kernel.Lifecycle
import Nucleus.Proofs.Kernel.Locking
import Nucleus.Proofs.Buddy.Ceilings
import Nucleus.Proofs.Buddy.Abreast
import Nucleus.Proofs.Buddy.Lockstep
import Nucleus.Proofs.Buddy.Contents
import Nucleus.Proofs.Buddy.Attempts
import Nucleus.Proofs.Buddy.Standing
import Nucleus.Proofs.Buddy.Undoing
import Nucleus.Proofs.Buddy.Failing
import Nucleus.Proofs.Buddy.Fitting
import Nucleus.Proofs.Buddy.Denials
import Nucleus.Proofs.Faults
import Nucleus.Proofs.Buddy.Foreign
import Nucleus.Proofs.Outcomes
import Nucleus.Proofs.Buddy.FrontEnds
import Nucleus.Proofs.Kernel.Sending
import Nucleus.Proofs.Processes.Fairness
import Nucleus.Proofs.Interrupt.Nesting
import Nucleus.Proofs.Interrupt.Refinement
import Nucleus.Proofs.Bits.Histories
import Nucleus.Proofs.Buddy.Levels
import Nucleus.Proofs.Transmission
import Nucleus.Proofs.Buddy.SharedLists
import Nucleus.Proofs.Kernel.Registered
