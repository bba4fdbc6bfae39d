import BulkTransfer.Main
import BulkTransfer.Queue.Monitor
import BulkTransfer.Proofs.Download.Covered
import BulkTransfer.Proofs.Download.Served
import BulkTransfer.Proofs.Stream.Aborting
import BulkTransfer.Proofs.Upload.Content
import BulkTransfer.Proofs.Moves.Deletion
import BulkTransfer.Proofs.Moves.Targets
import BulkTransfer.Proofs.Drain.Drained
import BulkTransfer.Proofs.Parts.Splitting
import BulkTransfer.Proofs.Parts.Chunksize
import BulkTransfer.Proofs.Parts.Cutting
import BulkTransfer.Proofs.Solo.Panics
import BulkTransfer.Proofs.Queue.WaitingList
import BulkTransfer.Proofs.Load.Length
import BulkTransfer.Proofs.Load.Flight
import BulkTransfer.Proofs.Load.Requests
import BulkTransfer.Proofs.Stream.Chunks
import BulkTransfer.Proofs.Stream.Content
import BulkTransfer.Proofs.Parts.ToldOnce
import BulkTransfer.Proofs.Status.Delivery
import BulkTransfer.Proofs.Parts.Crew
import BulkTransfer.Proofs.Run.Misfits
import BulkTransfer.Proofs.Load.Sequence
import BulkTransfer.Proofs.Remote.CopySource
import BulkTransfer.Proofs.Queue.Waking
import BulkTransfer.Proofs.Files.Writing
import BulkTransfer.Proofs.CommandLine.TreeRecords
