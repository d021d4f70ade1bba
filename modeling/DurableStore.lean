import DurableStore.Database.Workload
import DurableStore.Description
import DurableStore.Proofs.BlockFile.Appending
import DurableStore.Proofs.BlockFile.Logbook
import DurableStore.Proofs.BlockFile.PayloadRot
import DurableStore.Proofs.BlockFile.Soundness
import DurableStore.Proofs.BlockFile.TornBlock
import DurableStore.Proofs.Checksum.Bursts
import DurableStore.Proofs.Database.BitRot
import DurableStore.Proofs.Database.BlockLimit
import DurableStore.Proofs.Database.Chronicle
import DurableStore.Proofs.Database.ClosedSessions
import DurableStore.Proofs.Database.Closing
import DurableStore.Proofs.Database.ExclusiveUse
import DurableStore.Proofs.Database.Expelled
import DurableStore.Proofs.Database.Failure
import DurableStore.Proofs.Database.HalfWritten
import DurableStore.Proofs.Database.ReadOnly
import DurableStore.Proofs.Database.Transparency
import DurableStore.Proofs.ObjectIds.Calls
import DurableStore.Proofs.ObjectIds.References
import DurableStore.Proofs.ObjectIds.Refusals
import DurableStore.Proofs.ObjectIds.Restarts
import DurableStore.Proofs.ProbeTable.Capacity
import DurableStore.Proofs.ProbeTable.Operations
import DurableStore.Proofs.ProbeTable.Rounds
import DurableStore.Proofs.ProbeTable.Undoing
import DurableStore.Proofs.ReuseCache.Admission
import DurableStore.Proofs.ReuseCache.Coherence
import DurableStore.Proofs.ReuseCache.Recency
import DurableStore.Proofs.Statement.Inlining
import DurableStore.Proofs.Statement.Normalization
import DurableStore.Proofs.Statement.Spelling
import DurableStore.Proofs.Storage.CrashPoint
import DurableStore.Proofs.Storage.PowerLoss
import DurableStore.Proofs.Storage.RefusedWrites
import DurableStore.Proofs.Storage.ScratchAccounts
