import PatinaMct.SegmentDirectory
import PatinaMct.PasskeyRun
import PatinaMct.RecoveryCompletion
import PatinaMct.AuthorityOrder
import PatinaMct.ProjectionExact
import PatinaMct.RecoveryMaintenance
import PatinaMct.SignedNonces
import PatinaMct.ToyTokens
import PatinaMct.ReleasedRetry
import PatinaMct.Lineage
import PatinaMct.Forwarding
import PatinaMct.BoundedReading
import PatinaMct.InvocationBudget
import PatinaMct.RequiredToys
