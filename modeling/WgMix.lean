import WgMix.Bpf.EgressLeak
import WgMix.Reconcile.Release
import WgMix.Bpf.WireRoundTrip
import WgMix.FakeTcp.ActionRecoverySpec
import WgMix.Bpf.AtomicGateSpec
import WgMix.Bpf.EgressTokens
import WgMix.FakeTcp.IngressOracle
import WgMix.Bpf.IcmpEcho
import WgMix.Dataplane.MapBatchSpec
import WgMix.FakeTcp.RouterIsolation
import WgMix.FakeTcp.Teardown
import WgMix.Bpf.SessionHistory
import WgMix.Bpf.ControlBudget
import WgMix.FakeTcp.SynSourceLimits
import WgMix.Bpf.XorSegments
import WgMix.FakeTcp.InboundAtomic
import WgMix.FakeTcp.PacketCustody
import WgMix.Reconcile.TransactionOrder
import WgMix.Dataplane.SupervisorRuns
import WgMix.FakeTcp.ReaderOrder
import WgMix.Control.ProfileToken
import WgMix.Guard.OwnerPublication
import WgMix.FakeTcp.StartupGuard
import WgMix.Lockfile.Lifecycle
import WgMix.Bpf.KprobeLease
