import Mill.Config.Resolved

/-! The messages between the primary and the secondary of a node, as far as
containers go: the log commands and reports are left out. -/

namespace Mill

structure RegistryCredentials where
  username : String
  password : String
deriving DecidableEq

inductive NodeCommand
  | run (allocId : AllocId) (spec : ContainerSpec) (auth : Option RegistryCredentials)
  | stop (allocId : AllocId)
  | pull (image : String) (auth : Option RegistryCredentials)
deriving DecidableEq

structure Heartbeat where
  nodeId : NodeId
  allocStatuses : Finmap fun _ : AllocId => AllocStatus
deriving DecidableEq

inductive NodeReport
  | heartbeat (hb : Heartbeat)
  | runStarted (allocId : AllocId) (hostPort : Option Nat) (address : Option SocketAddr)
  | stopped (allocId : AllocId) (exitCode : Int)
  | runFailed (allocId : AllocId) (reason : String)
  | pullComplete (image : String)
  | pullFailed (image : String) (reason : String)
  | statusUpdate (allocId : AllocId) (status : AllocStatus)
deriving DecidableEq

end Mill
