import Mathlib.Algebra.Ring.Rat
import Mathlib.Data.UInt
import Mill.Config.Resolved
import Mill.Lib.FinMap

/-! The replicated state of the cluster and the queries that placement makes
on it. -/

namespace Mill

structure FsmNode where
  raftId : Nat
  millId : NodeId
  address : SocketAddr
  resources : NodeResources
  status : NodeStatus
  wireguardPubkey : Option String
  instanceId : Option String
  rpcAddress : Option SocketAddr
  advertiseAddr : Option String
deriving DecidableEq

structure EncryptedSecret where
  encryptedValue : List UInt8
  nonce : List UInt8
deriving DecidableEq

structure FsmVolume where
  cloudId : String
  state : VolumeState
deriving DecidableEq

structure FsmState where
  config : Option ClusterConfig
  nodes : Finmap fun _ : Nat => FsmNode
  allocs : Finmap fun _ : AllocId => Alloc
  secrets : Finmap fun _ : String => EncryptedSecret
  volumes : Finmap fun _ : String => FsmVolume
deriving DecidableEq

namespace FsmState

instance : Inhabited FsmState := ⟨⟨none, ∅, ∅, ∅, ∅⟩⟩

/-- An allocation that reserves resources of the node with this mill id. -/
def counts (millId : NodeId) (a : Alloc) : Bool := a.node == millId && !a.status.isTerminal

def cpuUsed (s : FsmState) (millId : NodeId) : ℚ :=
  s.allocs.total fun a => if counts millId a then a.resources.cpu else 0

/-- The `u64` accumulator of the source: it wraps. -/
def memUsed (s : FsmState) (millId : NodeId) : ByteSize :=
  s.allocs.total fun a => if counts millId a then a.resources.memory else 0

def saturatingSub (a b : ByteSize) : ByteSize := if b ≤ a then a - b else 0

def nodeAvailableResources (s : FsmState) (nodeId : Nat) : Option NodeResources :=
  (s.nodes.lookup nodeId).map fun node =>
    { cpuTotal := node.resources.cpuTotal
      cpuAvailable := node.resources.cpuTotal - s.cpuUsed node.millId
      memoryTotal := node.resources.memoryTotal
      memoryAvailable := saturatingSub node.resources.memoryTotal (s.memUsed node.millId) }

/-- The first node with this mill id in the order `nodes` in which the hash map
is visited. -/
def raftIdFor (nodes : List FsmNode) (millId : NodeId) : Option Nat :=
  (nodes.find? fun n => n.millId == millId).map FsmNode.raftId

def makeAlloc (allocId : AllocId) (nodeMillId : NodeId) (name : String) (kind : AllocKind)
    (address : Option SocketAddr) (resources : AllocResources) : Alloc :=
  { id := allocId
    node := nodeMillId
    name
    kind
    status := .pulling
    address
    resources
    startedAt := none }

end FsmState

end Mill
