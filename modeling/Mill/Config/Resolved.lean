import Mill.Config.Runtime

/-! A resolved cluster configuration, and the container specification that
the primary sends to a node. -/

namespace Mill

inductive EnvPart
  | literal (text : String)
  | serviceAddress (service : String)
  | secret (name : String)
deriving DecidableEq

inductive EnvValue
  | literal (text : String)
  | interpolated (parts : List EnvPart)
deriving DecidableEq

structure HealthCheck where
  path : String
  interval : Duration
  failureThreshold : Nat
deriving DecidableEq

structure RouteDef where
  hostname : String
  path : String
  websocket : Bool
deriving DecidableEq

structure VolumeDef where
  name : String
  path : String
  size : Option ByteSize
  ephemeral : Bool
deriving DecidableEq

structure ServiceDef where
  image : String
  port : Nat
  replicas : Nat
  resources : Resources
  env : Finmap fun _ : String => EnvValue
  command : Option (List String)
  health : Option HealthCheck
  routes : List RouteDef
  volumes : List VolumeDef
deriving DecidableEq

structure TaskDef where
  image : String
  resources : Resources
  timeout : Duration
  env : Finmap fun _ : String => EnvValue
  command : Option (List String)
deriving DecidableEq

structure ClusterConfig where
  services : Finmap fun _ : String => ServiceDef
  tasks : Finmap fun _ : String => TaskDef
deriving DecidableEq

structure ContainerVolume where
  name : String
  path : String
  ephemeral : Bool
deriving DecidableEq

structure ContainerSpec where
  allocId : AllocId
  kind : AllocKind
  timeout : Option Duration
  command : Option (List String)
  image : String
  env : Finmap fun _ : String => String
  port : Option Nat
  hostPort : Option Nat
  cpu : ℚ
  memory : ByteSize
  volumes : List ContainerVolume
deriving DecidableEq

end Mill
