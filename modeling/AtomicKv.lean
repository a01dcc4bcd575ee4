import AtomicKv.Main
import AtomicKv.Cluster
import AtomicKv.Proofs.MapRefinement
import AtomicKv.Proofs.Alignment
import AtomicKv.Proofs.NoLostUpdate
import AtomicKv.Proofs.Reachable
import AtomicKv.Proofs.Retry
import AtomicKv.Proofs.Corruption
import AtomicKv.Proofs.StoredBytes
import AtomicKv.Proofs.RequestLog
import AtomicKv.Proofs.Lifecycle
import AtomicKv.Proofs.StreamReading
import AtomicKv.Proofs.StreamWriting
import AtomicKv.Proofs.KeyIsolation
import AtomicKv.Proofs.ShortTexts
import AtomicKv.Proofs.ReplyLimits
import AtomicKv.Proofs.Refusal
import AtomicKv.Proofs.Bookkeeping
import AtomicKv.Proofs.Attempts
import AtomicKv.Proofs.Failover
import AtomicKv.Proofs.FrameAgreement
import AtomicKv.Proofs.Rotation
import AtomicKv.Proofs.Overriding
