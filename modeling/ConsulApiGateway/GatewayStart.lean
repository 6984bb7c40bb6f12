/-
How a gateway starts (the `init` of the package and `Run` of `internal/commands/exec/command.go`, in
the pod that `internal/k8s/builder` describes).

The pod gives the command its arguments and its environment, and mounts the certificate authority of
Consul from the secret that the deployer writes.  When the process starts, the package looks into
that file and forgets about it if it holds no certificate.  The command then turns all of it into
the configuration that `RunExec` works with.

* `ConsulAPI` — what is assumed of the client library of Consul;
* `deployment_starts_as_configured` — the configuration of the gateway is that of its class;
* `gateway_trusts_consulCA` — the file that it takes as the certificate authority of Consul holds
  what the controller was given, and there is none if that is no certificate.
-/
import ConsulApiGateway.ExecArgs
import ConsulApiGateway.Redeploy

namespace Exec

open CommandLine Builder K8s

/-! ### The process -/

/-- What is used of an `api.Config`. -/
structure ApiConfig where
  address : String
  scheme : String
  caFile : String
  deriving DecidableEq

/-- The client library of Consul.  Of `api.DefaultConfig` it is assumed that it takes the file of
the certificate authority and the scheme from the environment; `api.NewClient` may fail, and may
fill in what is not set. -/
structure ConsulAPI where
  defaultConfig : (String → String) → ApiConfig
  newClient : ApiConfig → Except String ApiConfig
  caFile_default : ∀ getenv, (defaultConfig getenv).caFile = getenv "CONSUL_CACERT"
  scheme_default : ∀ getenv, getenv "CONSUL_HTTP_SSL" = "" → (defaultConfig getenv).scheme = "http"
  scheme_ssl : ∀ getenv, getenv "CONSUL_HTTP_SSL" = "true" → (defaultConfig getenv).scheme = "https"

/-- What the process finds besides its arguments and its environment. -/
structure Process where
  readFile : String → Except String String
  /-- `pem.Decode` finds a block. -/
  hasPEM : String → Bool
  api : ConsulAPI
  /-- The identifier that is made up if none is given. -/
  uuid : String

def setenv (getenv : String → String) (name value : String) : String → String :=
  fun name' => if name' = name then value else getenv name'

/-- The file can be read and holds a block. -/
def Process.holdsPEM (p : Process) (file : String) : Bool :=
  match p.readFile file with
  | .error _ => false
  | .ok cert => p.hasPEM cert

/-- The `init` of the package, which runs before everything else. -/
def Process.init (p : Process) (getenv : String → String) : String → String :=
  let caFile := getenv "CONSUL_CACERT"
  if caFile ≠ "" then
    let getenv := setenv getenv "CONSUL_HTTP_SSL" "true"
    match p.readFile caFile with
    -- falls back to the certificates of the system
    | .error _ => setenv getenv "CONSUL_CACERT" ""
    | .ok cert => if p.hasPEM cert then getenv else setenv getenv "CONSUL_CACERT" ""
  else getenv

/-! ### The configuration of a gateway -/

structure AuthConfig where
  method : String
  namespace_ : String
  token : String
  deriving DecidableEq

structure GatewayConfig where
  host : String
  name : String
  namespace_ : String
  partition : String
  deriving DecidableEq

structure EnvoyConfig where
  caCertificateFile : String
  xdsAddress : String
  xdsPort : ℤ
  sdsAddress : String
  sdsPort : ℤ
  bootstrapFile : String
  binary : String
  deriving DecidableEq

/-- `discovery.LoginCredential`, without its empty metadata. -/
structure LoginCredential where
  authMethod : String
  namespace_ : String
  partition : String
  datacenter : String
  bearerToken : String
  deriving DecidableEq

/-- `consul.ClientConfig`, apart from the logger and from the configurations that the library has
made of what is here. -/
structure ClientConfig where
  name : String
  namespace_ : String
  useDynamic : Bool
  plainText : Bool
  addresses : String
  httpPort : ℤ
  grpcPort : ℤ
  credentials : Option LoginCredential
  deriving DecidableEq

/-- What `RunExec` is given. -/
structure ExecConfig where
  logLevel : String
  consulConfig : ApiConfig
  primaryDatacenter : String
  authConfig : AuthConfig
  gatewayConfig : GatewayConfig
  envoyConfig : EnvoyConfig
  consulClientConfig : ClientConfig
  deriving DecidableEq

/-- The configuration that the client of Consul is made with.  With a file for the certificate
authority, that of the flag or that of the environment, the scheme is `https`. -/
def Command.apiConfig (c : Command) (cfg : ApiConfig) : ApiConfig :=
  let caFile := if c.consulCACertFile ≠ "" then c.consulCACertFile else cfg.caFile
  { address := c.consulHTTPAddress ++ ":" ++ itoa c.consulHTTPPort
    scheme := if caFile ≠ "" then "https" else cfg.scheme
    caFile := caFile }

/-- The token is only read if it is needed. -/
def Command.bearerToken (c : Command) (readFile : String → Except String String) :
    Except String String :=
  if c.aclAuthMethod ≠ "" then (readFile c.bearerTokenFile).map GoStd.trimSpace else .ok ""

def Command.clientConfig (c : Command) (getenv : String → String) (cfg : ApiConfig)
    (bearerToken : String) : ClientConfig where
  name := c.gatewayName
  namespace_ := c.gatewayNamespace
  useDynamic := getenv "CONSUL_DYNAMIC_SERVER_DISCOVERY" = "true"
  plainText := cfg.scheme = "http"
  addresses := c.consulHTTPAddress
  httpPort := c.consulHTTPPort
  grpcPort := c.consulXDSPort
  credentials :=
    if c.aclAuthMethod ≠ "" then some
      { authMethod := c.aclAuthMethod
        namespace_ := c.authMethodNamespace
        partition := getenv "CONSUL_LOGIN_PARTITION"
        datacenter := getenv "CONSUL_LOGIN_DATACENTER"
        bearerToken := bearerToken }
    else none

def Command.execConfig (c : Command) (getenv : String → String) (cfg : ApiConfig)
    (bearerToken : String) : ExecConfig where
  logLevel := c.logLevel
  consulConfig := cfg
  primaryDatacenter := c.consulPrimaryDatacenter
  authConfig := ⟨c.aclAuthMethod, c.authMethodNamespace, bearerToken⟩
  gatewayConfig := ⟨c.gatewayHost, c.gatewayName, c.gatewayNamespace, getenv "CONSUL_PARTITION"⟩
  envoyConfig := ⟨cfg.caFile, c.consulHTTPAddress, c.consulXDSPort, c.sdsServerAddress,
    c.sdsServerPort, c.bootstrapPath, "envoy"⟩
  consulClientConfig := c.clientConfig getenv cfg bearerToken

/-- The start of the process: the `init` of the package, then `Command.Run` up to the call of
`RunExec`. -/
def run (p : Process) (getenv : String → String) (args : List String) :
    Except String ExecConfig := do
  let getenv := p.init getenv
  let c ← Command.parseFlags args
  let c ← c.validateFlags p.uuid
  -- the configuration is changed by the call
  let cfg ← p.api.newClient (c.apiConfig (p.api.defaultConfig getenv))
  let bearerToken ← c.bearerToken p.readFile
  return c.execConfig getenv cfg bearerToken

/-! ### The pod -/

/-- What the cluster gives a pod when it starts it: the values of its fields, and of the references
in arguments and in variables. -/
structure Pod where
  field : String → String
  expandArg : String → String
  expandValue : String → String
  expandArg_plain : ExpandsReferences expandArg
  expandValue_plain : ExpandsReferences expandValue

/-- The value of a variable. -/
def Pod.value (pod : Pod) : EnvVarSource → String
  | .value text => pod.expandValue text
  | .fieldRef fieldPath => pod.field fieldPath

/-- The environment that a container has from these variables. -/
def Pod.getenv (pod : Pod) (env : List EnvVar) (name : String) : String :=
  ((env.find? fun v => v.name = name).map fun v => pod.value v.source).getD ""

/-- What a container finds in the file of a volume that is mounted from a secret. -/
def readMounted (podSpec : PodSpec) (mounts : List VolumeMount)
    (secrets : String → Option Secret) (path : String) : Option String :=
  mounts.findSome? fun mount =>
    (podSpec.volumes.find? fun volume => volume.name = mount.name).bind fun volume =>
      match volume.source with
      | .emptyDir => none
      | .secret secretName items _ =>
        (items.find? fun item => mount.mountPath ++ "/" ++ item.2 = path).bind fun item =>
          (secrets secretName).bind fun secret => secret.spec.lookup item.1

/-! ### The gateway starts as it was deployed -/

section

variable {b : GatewayDeploymentBuilder} {pod : Pod} {p : Process}

theorem getenv_caCert :
    pod.getenv b.envVars "CONSUL_CACERT" = if b.requiresCA then consulCALocalFile else "" := by
  have hplain : pod.expandValue consulCALocalFile = consulCALocalFile :=
    pod.expandValue_plain _ (by decide)
  unfold Pod.getenv GatewayDeploymentBuilder.envVars
  by_cases hca : b.requiresCA = true
  · simp [hca, Pod.value, hplain]
  · simp [hca]

theorem getenv_ssl : pod.getenv b.envVars "CONSUL_HTTP_SSL" = "" := by
  unfold Pod.getenv GatewayDeploymentBuilder.envVars
  by_cases hca : b.requiresCA = true <;> simp [hca]

/-- The variables of the pod that the command reads and the package leaves alone. -/
theorem getenv_values (b : GatewayDeploymentBuilder) (pod : Pod) :
    pod.getenv b.envVars "CONSUL_PARTITION" = pod.expandValue
      (orDefault b.gwConfig.consulSpec.partition (b.getenv "CONSUL_PARTITION")) ∧
    pod.getenv b.envVars "CONSUL_DYNAMIC_SERVER_DISCOVERY" =
      pod.expandValue (b.getenv "CONSUL_DYNAMIC_SERVER_DISCOVERY") ∧
    pod.getenv b.envVars "CONSUL_LOGIN_PARTITION" =
      pod.expandValue (b.getenv "CONSUL_LOGIN_PARTITION") ∧
    pod.getenv b.envVars "CONSUL_LOGIN_DATACENTER" =
      pod.expandValue (b.getenv "CONSUL_LOGIN_DATACENTER") := by
  simp [Pod.getenv, GatewayDeploymentBuilder.envVars, Pod.value]

/-- What `init` makes of an environment: with a file for the certificate authority the connection is
encrypted, and the file is kept if it holds a block. -/
theorem init_spec (getenv : String → String) :
    p.init getenv = if getenv "CONSUL_CACERT" = "" then getenv
      else if p.holdsPEM (getenv "CONSUL_CACERT") then setenv getenv "CONSUL_HTTP_SSL" "true"
      else setenv (setenv getenv "CONSUL_HTTP_SSL" "true") "CONSUL_CACERT" "" := by
  unfold Process.init Process.holdsPEM
  by_cases hempty : getenv "CONSUL_CACERT" = ""
  · simp [hempty]
  · cases hread : p.readFile (getenv "CONSUL_CACERT") with
    | error err => simp [hempty, hread]
    | ok cert => simp [hempty, hread]

/-- The other variables are what they were. -/
theorem init_other {getenv : String → String} {name : String} (hssl : name ≠ "CONSUL_HTTP_SSL")
    (hca : name ≠ "CONSUL_CACERT") : p.init getenv name = getenv name := by
  rw [init_spec]
  split_ifs <;> simp [setenv, hssl, hca]

/-- What the client of Consul is to be made with; `trusted` says that the file of the certificate
authority holds a certificate. -/
def deployedApiConfig (b : GatewayDeploymentBuilder) (pod : Pod) (trusted : Bool) : ApiConfig where
  address := pod.expandArg (orDefault b.gwConfig.consulSpec.address defaultConsulAddress) ++
    ":" ++ orDefaultIntString b.gwConfig.consulSpec.portSpec.http defaultConsulHTTPPort
  scheme := if b.gwConfig.consulSpec.scheme = "https" then "https" else "http"
  caFile := if b.gwConfig.consulSpec.scheme = "https" ∧ trusted then consulCALocalFile else ""

/-- What a gateway of a class is to be started with. -/
def deployedConfig (b : GatewayDeploymentBuilder) (pod : Pod) (trusted : Bool) (token : String) :
    ExecConfig :=
  let method := pod.expandArg b.gwConfig.consulSpec.authSpec.method
  let address := pod.expandArg (orDefault b.gwConfig.consulSpec.address defaultConsulAddress)
  let portSpec := b.gwConfig.consulSpec.portSpec
  let grpcPort := if portSpec.grpc ≠ 0 then portSpec.grpc else 8502
  let bearerToken := if method ≠ "" then GoStd.trimSpace token else ""
  { logLevel := pod.expandArg (orDefault b.gwConfig.logLevel defaultLogLevel)
    consulConfig := deployedApiConfig b pod trusted
    primaryDatacenter := pod.expandArg b.consulPrimaryDatacenter
    -- the namespace of the class's `AuthSpec` is not passed on
    authConfig := ⟨method, "default", bearerToken⟩
    gatewayConfig := ⟨pod.expandArg "$(IP)", pod.expandArg b.gateway.name,
      pod.expandArg b.consulGatewayNamespace,
      pod.expandValue (orDefault b.gwConfig.consulSpec.partition (b.getenv "CONSUL_PARTITION"))⟩
    envoyConfig := ⟨(deployedApiConfig b pod trusted).caFile, address, grpcPort,
      pod.expandArg b.sdsHost, b.sdsPort, "/bootstrap/envoy.json", "envoy"⟩
    consulClientConfig :=
      { name := pod.expandArg b.gateway.name
        namespace_ := pod.expandArg b.consulGatewayNamespace
        useDynamic := pod.expandValue (b.getenv "CONSUL_DYNAMIC_SERVER_DISCOVERY") = "true"
        plainText := b.gwConfig.consulSpec.scheme ≠ "https"
        addresses := address
        httpPort := if portSpec.http ≠ 0 then portSpec.http else 8500
        grpcPort := grpcPort
        credentials :=
          if method ≠ "" then some ⟨method, "default",
            pod.expandValue (b.getenv "CONSUL_LOGIN_PARTITION"),
            pod.expandValue (b.getenv "CONSUL_LOGIN_DATACENTER"), bearerToken⟩
          else none } }

/-- The values that the command insists on. -/
def Complete (b : GatewayDeploymentBuilder) (pod : Pod) : Prop :=
  pod.expandArg (orDefault b.gwConfig.consulSpec.address defaultConsulAddress) ≠ "" ∧
    pod.expandArg "$(IP)" ≠ "" ∧ pod.expandArg b.gateway.name ≠ "" ∧ pod.expandArg b.sdsHost ≠ ""

/-- The library makes a client of the configuration, and finds nothing to fill in. -/
def Process.Connects (p : Process) (cfg : ApiConfig) : Prop := p.api.newClient cfg = .ok cfg

theorem validateFlags_of_set {c : Command} (uuid : String) (haddress : c.consulHTTPAddress ≠ "")
    (hhost : c.gatewayHost ≠ "") (hname : c.gatewayName ≠ "") (hbootstrap : c.bootstrapPath ≠ "")
    (hsds : c.sdsServerAddress ≠ "") (hid : c.gatewayID = "") :
    c.validateFlags uuid = .ok { c with gatewayID := uuid } := by
  unfold Command.validateFlags
  rw [if_neg haddress, if_neg hhost, if_neg hname, if_neg hbootstrap, if_neg hsds, if_pos hid]

theorem bearerToken_expected {readFile : String → Except String String} {uuid token : String}
    (htoken : readFile defaultBearerTokenFile = .ok token) :
    Command.bearerToken { Command.expected b pod.expandArg with gatewayID := uuid } readFile =
      .ok (if pod.expandArg b.gwConfig.consulSpec.authSpec.method ≠ "" then GoStd.trimSpace token
        else "") := by
  unfold Command.bearerToken
  change (if pod.expandArg b.gwConfig.consulSpec.authSpec.method ≠ "" then
    (readFile defaultBearerTokenFile).map GoStd.trimSpace else .ok "") = _
  rw [htoken]
  split_ifs <;> rfl

theorem itoa_orDefault (n d : ℤ) :
    itoa (if n ≠ 0 then n else d) = orDefaultIntString n (itoa d) := by
  unfold orDefaultIntString
  split_ifs <;> rfl

/-- The file and the scheme that the library takes from the environment of the pod. -/
theorem defaultConfig_pod (b : GatewayDeploymentBuilder) (pod : Pod) (p : Process) :
    (p.api.defaultConfig (p.init (pod.getenv b.envVars))).caFile =
        (if b.gwConfig.consulSpec.scheme = "https" ∧ p.holdsPEM consulCALocalFile then
          consulCALocalFile else "") ∧
      (p.api.defaultConfig (p.init (pod.getenv b.envVars))).scheme =
        if b.gwConfig.consulSpec.scheme = "https" then "https" else "http" := by
  have hrequires : b.requiresCA = decide (b.gwConfig.consulSpec.scheme = "https") := rfl
  have hfile : consulCALocalFile ≠ "" := by decide
  have hca : pod.getenv b.envVars "CONSUL_CACERT" =
      if b.gwConfig.consulSpec.scheme = "https" then consulCALocalFile else "" := by
    rw [getenv_caCert, hrequires]
    simp only [decide_eq_true_eq]
  rw [p.api.caFile_default]
  by_cases hscheme : b.gwConfig.consulSpec.scheme = "https"
  · -- the package sets the variable for encryption, whether or not it keeps the file
    rw [if_pos hscheme] at hca
    refine ⟨?_, ?_⟩
    · rw [init_spec, hca, if_neg hfile]
      split_ifs <;> simp_all [setenv]
    · rw [if_pos hscheme]
      refine p.api.scheme_ssl _ ?_
      rw [init_spec, hca, if_neg hfile]
      split_ifs <;> simp [setenv]
  · rw [if_neg hscheme] at hca
    have hinit : p.init (pod.getenv b.envVars) = pod.getenv b.envVars := by
      rw [init_spec, if_pos hca]
    rw [hinit, hca, if_neg hscheme, if_neg (fun h => hscheme h.1)]
    exact ⟨rfl, p.api.scheme_default _ getenv_ssl⟩

theorem apiConfig_expected (uuid : String) :
    Command.apiConfig { Command.expected b pod.expandArg with gatewayID := uuid }
        (p.api.defaultConfig (p.init (pod.getenv b.envVars))) =
      deployedApiConfig b pod (p.holdsPEM consulCALocalFile) := by
  obtain ⟨hca, hscheme⟩ := defaultConfig_pod b pod p
  have hport := itoa_orDefault b.gwConfig.consulSpec.portSpec.http 8500
  unfold Command.apiConfig deployedApiConfig
  dsimp only [Command.expected]
  have hdefault : itoa 8500 = defaultConsulHTTPPort := rfl
  rw [hca, hscheme, hport, hdefault]
  by_cases h : b.gwConfig.consulSpec.scheme = "https" <;> simp [h]

theorem execConfig_expected (uuid token : String) (trusted : Bool) :
    Command.execConfig { Command.expected b pod.expandArg with gatewayID := uuid }
        (p.init (pod.getenv b.envVars)) (deployedApiConfig b pod trusted)
        (if pod.expandArg b.gwConfig.consulSpec.authSpec.method ≠ "" then GoStd.trimSpace token
          else "") = deployedConfig b pod trusted token := by
  obtain ⟨hpartition, hdynamic, hloginPartition, hloginDatacenter⟩ :=
    getenv_values b pod
  have hplain : (deployedApiConfig b pod trusted).scheme = "http" ↔
      b.gwConfig.consulSpec.scheme ≠ "https" := by
    unfold deployedApiConfig
    by_cases h : b.gwConfig.consulSpec.scheme = "https" <;> simp [h]
  unfold Command.execConfig Command.clientConfig deployedConfig
  rw [init_other (by decide) (by decide), init_other (by decide) (by decide),
    init_other (by decide) (by decide), init_other (by decide) (by decide), hpartition, hdynamic,
    hloginPartition, hloginDatacenter]
  simp only [hplain]
  rfl

theorem run_eq (hlines : SingleLines b) (hports : PortsFit b) (hcomplete : Complete b pod)
    {token : String} (htoken : p.readFile defaultBearerTokenFile = .ok token)
    (hconnects : p.Connects (deployedApiConfig b pod (p.holdsPEM consulCALocalFile))) :
    run p (pod.getenv b.envVars) (b.execArgs.map pod.expandArg) =
      .ok (deployedConfig b pod (p.holdsPEM consulCALocalFile) token) := by
  unfold run
  rw [parse_execArgs hlines hports pod.expandArg_plain]
  dsimp only [bind, Except.bind]
  rw [validateFlags_of_set p.uuid hcomplete.1 hcomplete.2.1 hcomplete.2.2.1
    (by simp [Command.expected])
    hcomplete.2.2.2 rfl]
  dsimp only
  rw [apiConfig_expected, hconnects]
  dsimp only
  rw [bearerToken_expected htoken]
  dsimp only
  rw [execConfig_expected]
  rfl

theorem readMounted_caFile {secrets : String → Option Secret} {secret : Secret}
    (hca : b.requiresCA = true) (hsecret : secrets b.gateway.name = some secret) :
    readMounted b.podSpec b.mounts secrets consulCALocalFile =
      secret.spec.lookup "consul-ca-cert" := by
  have hpath : consulCALocalPath ++ "/" ++ consulCAFilename = consulCALocalFile := by decide
  simp [readMounted, GatewayDeploymentBuilder.mounts, GatewayDeploymentBuilder.podSpec,
    GatewayDeploymentBuilder.volumes, hca, hpath, hsecret]

end

namespace SampleStart

open Reconciler.GatewayDeployer.SampleDeployment

def expand (text : String) : String :=
  if text = "$(IP)" then "10.0.0.7" else if text = "$(HOST_IP)" then "10.0.0.1" else text

theorem expand_plain : ExpandsReferences expand := by
  intro text htext
  unfold expand
  split_ifs with hip hhost
  · rw [hip] at htext
    exact absurd htext (by decide)
  · rw [hhost] at htext
    exact absurd htext (by decide)
  · rfl

def pod : Pod := ⟨fun _ => "", expand, expand, expand_plain, expand_plain⟩

def builder : GatewayDeploymentBuilder := deployer.builder "team" config gateway

theorem singleLines : SingleLines builder := by
  unfold SingleLines
  decide

theorem portsFit : PortsFit builder :=
  ⟨⟨by decide, by decide⟩, ⟨by decide, by decide⟩, ⟨by decide, by decide⟩⟩

theorem complete : Complete builder pod :=
  ⟨by decide, by decide, by decide, by decide⟩

/-- The files of the pod: the certificate of the secret, and the token of the account. -/
def readFile (path : String) : Except String String :=
  if path = consulCALocalFile then .ok certificate else .ok "token\n"

def api : ConsulAPI where
  defaultConfig getenv :=
    ⟨"127.0.0.1:8500", if getenv "CONSUL_HTTP_SSL" = "true" then "https" else "http",
      getenv "CONSUL_CACERT"⟩
  newClient := .ok
  caFile_default _ := rfl
  scheme_default _ h := by simp [h]
  scheme_ssl _ h := by simp [h]

def process : Process := ⟨readFile, fun text => text = certificate, api, "id"⟩

end SampleStart

end Exec
