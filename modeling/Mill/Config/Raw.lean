import Mill.Config.Resolved

/-! The config as it is read from the file, before its values are parsed and checked. -/

namespace Mill

structure RawHealthCheck where
  path : String
  interval : String
  failureThreshold : Option Nat
deriving DecidableEq

structure RawRouteDef where
  path : String
  websocket : Bool
deriving DecidableEq

structure RawVolumeDef where
  path : String
  size : Option String
  ephemeral : Bool
deriving DecidableEq

structure RawServiceDef where
  image : String
  port : Nat
  replicas : Nat
  cpu : ℚ
  memory : String
  env : Finmap fun _ : String => String
  health : Option RawHealthCheck
  route : Finmap fun _ : String => RawRouteDef
  volume : Finmap fun _ : String => RawVolumeDef
  command : Option (List String)
deriving DecidableEq

structure RawTaskDef where
  image : String
  cpu : ℚ
  memory : String
  timeout : String
  env : Finmap fun _ : String => String
  command : Option (List String)
deriving DecidableEq

structure RawConfig where
  service : Finmap fun _ : String => RawServiceDef
  task : Finmap fun _ : String => RawTaskDef
deriving DecidableEq

inductive ConfigError
  | invalidField (path message : String)
  | unknownServiceRef (path service : String)
  | constraint (path message : String)
  | multiple (errors : List ConfigError)

def ConfigError.Single : ConfigError → Prop
  | multiple _ => False
  | _ => True

end Mill
