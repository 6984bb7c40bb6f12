/-
The configuration of a class of gateways (`pkg/apis/v1alpha1/types.go`).

Everything the controller decides about the deployment of a gateway comes from the
`GatewayClassConfig` that the class of the gateway refers to.  A missing map or list is an empty
one, except for the annotations that are copied to the service, where the source tells the two
apart.
-/
import ConsulApiGateway.GoMap

namespace V1alpha1

/-- `corev1.ServiceType`. -/
inductive ServiceType
  | loadBalancer | clusterIP | nodePort
  | other (name : String)
  deriving DecidableEq

/-- `corev1.Toleration`. -/
structure Toleration where
  key : String := ""
  operator : String := ""
  value : String := ""
  effect : String := ""
  tolerationSeconds : Option ℤ := none
  deriving DecidableEq

structure AuthSpec where
  managed : Bool := false
  method : String := ""
  account : String := ""
  namespace_ : String := ""
  podSecurityPolicy : String := ""
  deriving DecidableEq

/-- A port that is zero is not set. -/
structure PortSpec where
  http : ℤ := 0
  grpc : ℤ := 0
  deriving DecidableEq

structure ConsulSpec where
  authSpec : AuthSpec := {}
  scheme : String := ""
  partition : String := ""
  serverName : String := ""
  address : String := ""
  portSpec : PortSpec := {}
  deriving DecidableEq

structure ImageSpec where
  consulAPIGateway : String := ""
  envoy : String := ""
  deriving DecidableEq

/-- The annotations to copy; `none` is the nil slice, for which there is a default. -/
structure CopyAnnotationsSpec where
  service : Option (List String) := none
  deriving DecidableEq

structure DeploymentSpec where
  defaultInstances : Option ℤ := none
  maxInstances : Option ℤ := none
  minInstances : Option ℤ := none
  deriving DecidableEq

structure ConnectionManagementSpec where
  maxConnections : Option ℤ := none
  deriving DecidableEq

structure GatewayClassConfigSpec where
  serviceType : Option ServiceType := none
  nodeSelector : GoMap String String := ∅
  tolerations : List Toleration := []
  useHostPorts : Bool := false
  consulSpec : ConsulSpec := {}
  imageSpec : ImageSpec := {}
  copyAnnotations : CopyAnnotationsSpec := {}
  logLevel : String := ""
  deploymentSpec : DeploymentSpec := {}
  connectionManagement : ConnectionManagementSpec := {}
  deriving DecidableEq

/-- A `GatewayClassConfig`, which is known by its name: it belongs to no namespace. -/
structure GatewayClassConfig where
  name : String := ""
  spec : GatewayClassConfigSpec := {}
  deriving DecidableEq

end V1alpha1
