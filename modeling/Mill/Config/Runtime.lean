import Mathlib.Data.Finmap
import Mathlib.Data.Rat.Defs

/-! The runtime types of `mill-config`. Sizes in bytes keep their 64 bits, since
sums of them can wrap; cpu shares are exact rationals. -/

namespace Mill

structure NodeId where
  val : String
deriving DecidableEq

structure AllocId where
  val : String
deriving DecidableEq

inductive IpAddr
  | v4 (bits : BitVec 32)
  | v6 (bits : BitVec 128)
deriving DecidableEq

structure SocketAddr where
  ip : IpAddr
  port : Nat
deriving DecidableEq

abbrev SystemTime := Int

abbrev Duration := Nat

abbrev ByteSize := UInt64

structure NodeResources where
  cpuTotal : ℚ
  cpuAvailable : ℚ
  memoryTotal : ByteSize
  memoryAvailable : ByteSize
deriving DecidableEq

inductive NodeStatus
  | ready
  | draining
  | down
deriving DecidableEq

structure Resources where
  cpu : ℚ
  memory : ByteSize
deriving DecidableEq

structure AllocResources where
  cpu : ℚ
  memory : ByteSize
deriving DecidableEq

def AllocResources.ofResources (r : Resources) : AllocResources := ⟨r.cpu, r.memory⟩

inductive AllocKind
  | service
  | task
deriving DecidableEq

inductive AllocStatus
  | pulling
  | starting
  | running
  | healthy
  | stopped (exitCode : Int)
  | failed (reason : String)
deriving DecidableEq

namespace AllocStatus

def isActive : AllocStatus → Bool
  | running | healthy => true
  | _ => false

def isTerminal : AllocStatus → Bool
  | stopped _ | failed _ => true
  | _ => false

/-- The two statuses from which `AllocRunning` makes an allocation run. -/
def isPending : AllocStatus → Bool
  | pulling | starting => true
  | _ => false

end AllocStatus

structure Alloc where
  id : AllocId
  node : NodeId
  name : String
  kind : AllocKind
  status : AllocStatus
  address : Option SocketAddr
  resources : AllocResources
  startedAt : Option SystemTime
deriving DecidableEq

inductive VolumeState
  | ready
  | attached (node : NodeId)
deriving DecidableEq

end Mill
