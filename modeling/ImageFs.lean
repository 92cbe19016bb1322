import ImageFs.Main
import ImageFs.Proofs.Disk
import ImageFs.Proofs.Access
import ImageFs.Proofs.Hold
import ImageFs.Proofs.Stream
import ImageFs.Proofs.Marks
import ImageFs.Proofs.Ledger
import ImageFs.Proofs.Codec
import ImageFs.Proofs.Tree
import ImageFs.Proofs.Represents
import ImageFs.Proofs.Contents
import ImageFs.Proofs.Slots
import ImageFs.Proofs.Entries
import ImageFs.Proofs.Header
import ImageFs.Proofs.Check
import ImageFs.Proofs.Outcome
import ImageFs.Proofs.Format
import ImageFs.Proofs.Handles
import ImageFs.Proofs.HandleMap
import ImageFs.Proofs.Reading
import ImageFs.Proofs.Session
import ImageFs.Proofs.Consistency
import ImageFs.Proofs.FileContents
import ImageFs.Proofs.Namespace
import ImageFs.Proofs.Failures
import ImageFs.Proofs.Emptyings
import ImageFs.Proofs.StaleHandles
import ImageFs.Proofs.Persistence
import ImageFs.Proofs.Metadata
import ImageFs.Proofs.Verdict
import ImageFs.Proofs.Findings
import ImageFs.Proofs.Exactness
import ImageFs.Proofs.Trails
import ImageFs.Proofs.PathGrammar
import ImageFs.Proofs.Reachability
import ImageFs.Proofs.Reports
import ImageFs.Proofs.Relabels
import ImageFs.Proofs.Unseen
import ImageFs.Proofs.LockSections
import ImageFs.Proofs.LockRounds
import ImageFs.Proofs.Beside
import ImageFs.Proofs.Bystanders
import ImageFs.Proofs.LockProtocol
import ImageFs.Proofs.LockSafety
import ImageFs.Proofs.Overruns
import ImageFs.Proofs.Bounds
import ImageFs.Proofs.Contained
import ImageFs.Proofs.Endures
import ImageFs.Proofs.Sturdy
import ImageFs.Proofs.SturdyTree
import ImageFs.Proofs.SturdyFiles
import ImageFs.Proofs.Breakdowns
import ImageFs.Proofs.CheckEndings
import ImageFs.Proofs.OwnLocks
import ImageFs.Proofs.LockAttempts
import ImageFs.Proofs.LockDealings
import ImageFs.Proofs.AmongOthers
import ImageFs.Proofs.Gatherings
import ImageFs.Proofs.Rounds
import ImageFs.Proofs.Turnover
import ImageFs.Proofs.Usable
import ImageFs.Proofs.HandingOut
import ImageFs.Proofs.Resizing
import ImageFs.Proofs.RefusedCuts
import ImageFs.Proofs.Positions
import ImageFs.Proofs.Undoing
import ImageFs.Proofs.SplitWrites
import ImageFs.Proofs.Walks
import ImageFs.Proofs.RoundTrip
import ImageFs.Proofs.Words
import ImageFs.Proofs.Tiling
import ImageFs.Proofs.LowestSlot
import ImageFs.Proofs.Opening
import ImageFs.Proofs.Commands
import ImageFs.Proofs.PathContents
import ImageFs.Proofs.Copying
import ImageFs.Proofs.CleanReports
