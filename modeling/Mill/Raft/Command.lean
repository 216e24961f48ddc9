import Mill.Raft.State

namespace Mill

inductive Command
  | deploy (config : ClusterConfig)
  | nodeRegister (id : Nat) (millId : NodeId) (address : SocketAddr) (resources : NodeResources)
      (wireguardPubkey instanceId : Option String) (rpcAddress : Option SocketAddr)
      (advertiseAddr : Option String)
  | nodeHeartbeat (id : Nat) (allocStatuses : Finmap fun _ : AllocId => AllocStatus)
  | nodeDown (id : Nat)
  | allocScheduled (allocId : AllocId) (nodeId : Nat) (name : String) (kind : AllocKind)
      (address : Option SocketAddr) (resources : AllocResources)
  | allocStatus (allocId : AllocId) (status : AllocStatus)
  | allocRunning (allocId : AllocId) (address : Option SocketAddr) (startedAt : Option SystemTime)
  | secretSet (name : String) (encryptedValue nonce : List UInt8)
  | secretDelete (name : String)
  | volumeCreated (name cloudId : String)
  | volumeAttached (name : String) (node : Nat)
  | volumeDetached (name : String)
  | volumeDestroyed (name : String)
  | nodeDrain (id : Nat)
  | nodeRemove (id : Nat)
deriving DecidableEq

inductive Response
  | ok
  | error (message : String)
deriving DecidableEq

end Mill
