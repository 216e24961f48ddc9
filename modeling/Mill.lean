import Mill.Net.Forward
import Mill.Raft.Draining
import Mill.Raft.Footprint
import Mill.Raft.Keys
import Mill.Raft.LogDurability
import Mill.Raft.Rejected
import Mill.Raft.SnapshotTasks
import Mill.Raft.SnapshotWrites
import Mill.Raft.VoteDurability
import Mill.Node.HeartbeatOrder
import Mill.Node.DeployOrder
import Mill.Node.Replication
import Mill.Node.Migration
import Mill.Node.VolumeInUse
import Mill.Node.VolumeLifecycle
import Mill.Node.WireguardPeers
import Mill.Node.FailoverGrace
import Mill.Node.ConnectionWatcher
import Mill.Node.Containers
import Mill.Node.LogStream
import Mill.Node.RouterRepair
import Mill.Node.RouterDisconnect
import Mill.Node.RpcTakeover
import Mill.Node.RpcDelivery
import Mill.Node.ReportDelivery
import Mill.Node.Ingress
import Mill.Node.ServiceDiscovery
import Mill.Node.RunRecorded
import Mill.Node.MemberReach
import Mill.Node.Quiescence
import Mill.Node.Codec
import Mill.Node.SchedulerSpec
import Mill.Node.RestartBackoff
import Mill.Node.RestartSpacing
import Mill.Node.CpuAdmission
import Mill.Node.TimeoutEnforcement
import Mill.Node.EnvAddresses
import Mill.Node.DrainTrace
import Mill.Node.ExitStatus
import Mill.Node.RunAnswers
import Mill.Containerd.Create
import Mill.Node.Health
import Mill.Node.DeployChecks
import Mill.Proxy.CertFiles
import Mill.Proxy.Acme
import Mill.Proxy.Hosts
import Mill.Node.Suffixes
