/-
What a gateway is started with (`internal/commands/exec/command.go`).

The controller writes the arguments of the `exec` command into the Deployment of a gateway; the
cluster replaces references to variables in them when it starts the pod, and the command reads
them as flags.  The two sides share nothing but these texts.

* `execArgs_eq` — the arguments are the lines of the template, as long as no value has lines of
  its own;
* `parse_execArgs` — the command reads what the controller has written.
-/
import ConsulApiGateway.GatewayBuilder

namespace Exec

open CommandLine Builder

def defaultBearerTokenFile : String := "/var/run/secrets/kubernetes.io/serviceaccount/token"

/-- The variables of a `Command`, with the defaults of their flags. -/
structure Command where
  consulHTTPAddress : String := ""
  consulHTTPPort : ℤ := 8500
  consulCACertFile : String := ""
  consulXDSPort : ℤ := 8502
  consulPrimaryDatacenter : String := ""
  gatewayID : String := ""
  gatewayHost : String := ""
  gatewayName : String := ""
  gatewayNamespace : String := ""
  bootstrapPath : String := ""
  sdsServerAddress : String := ""
  sdsServerPort : ℤ := 9090
  aclAuthMethod : String := ""
  authMethodNamespace : String := "default"
  bearerTokenFile : String := defaultBearerTokenFile
  logLevel : String := "info"
  logJSON : Bool := false
  deriving DecidableEq

namespace Command

/-- `Command.init`. -/
def flagSet : List (Flag Command) :=
  [.stringVar "consul-http-address" fun v c => { c with consulHTTPAddress := v },
    .intVar "consul-http-port" fun v c => { c with consulHTTPPort := v },
    .intVar "consul-xds-port" fun v c => { c with consulXDSPort := v },
    .stringVar "consul-ca-cert-file" fun v c => { c with consulCACertFile := v },
    .stringVar "consul-primary-datacenter" fun v c => { c with consulPrimaryDatacenter := v },
    .stringVar "envoy-bootstrap-path" fun v c => { c with bootstrapPath := v },
    .stringVar "envoy-sds-address" fun v c => { c with sdsServerAddress := v },
    .intVar "envoy-sds-port" fun v c => { c with sdsServerPort := v },
    .stringVar "gateway-id" fun v c => { c with gatewayID := v },
    .stringVar "gateway-host" fun v c => { c with gatewayHost := v },
    .stringVar "gateway-name" fun v c => { c with gatewayName := v },
    .stringVar "gateway-namespace" fun v c => { c with gatewayNamespace := v },
    .stringVar "acl-auth-method" fun v c => { c with aclAuthMethod := v },
    .stringVar "acl-auth-method-namespace" fun v c => { c with authMethodNamespace := v },
    .stringVar "acl-bearer-token-file" fun v c => { c with bearerTokenFile := v },
    .stringVar "log-level" fun v c => { c with logLevel := v },
    .boolVar "log-json" fun v c => { c with logJSON := v }]

/-- The flags that `Run` reads; what follows them is ignored. -/
def parseFlags (args : List String) : Except String Command :=
  (parse flagSet args {}).map Prod.fst

/-- `uuid` is the identifier that is made up if none is given. -/
def validateFlags (uuid : String) (c : Command) : Except String Command :=
  if c.consulHTTPAddress = "" then .error "-consul-http-address must be set"
  else if c.gatewayHost = "" then .error "-gateway-host must be set"
  else if c.gatewayName = "" then .error "-gateway-name must be set"
  else if c.bootstrapPath = "" then .error "-envoy-bootstrap-path must be set"
  else if c.sdsServerAddress = "" then .error "-envoy-sds-address must be set"
  else .ok (if c.gatewayID = "" then { c with gatewayID := uuid } else c)

end Command

/-! ### The lines of the template -/

variable (b : GatewayDeploymentBuilder) (expand : String → String)

/-- No value has a line break. -/
def SingleLines : Prop := ∀ line ∈ b.argLines, '\n' ∉ line.toList

/-- The numbers of the ports are those of a Go `int`. -/
def PortsFit : Prop :=
  IsInt b.gwConfig.consulSpec.portSpec.http ∧ IsInt b.gwConfig.consulSpec.portSpec.grpc ∧
    IsInt b.sdsPort

/-- References begin with a dollar sign; a text without one is left as it is. -/
def ExpandsReferences : Prop := ∀ s : String, '$' ∉ s.toList → expand s = s

/-- What the command is to read: the values that the controller has decided on, with their
references replaced. -/
def Command.expected : Command where
  logJSON := true
  logLevel := expand (orDefault b.gwConfig.logLevel defaultLogLevel)
  gatewayHost := expand "$(IP)"
  gatewayName := expand b.gateway.name
  gatewayNamespace := expand b.consulGatewayNamespace
  consulHTTPAddress := expand (orDefault b.gwConfig.consulSpec.address defaultConsulAddress)
  consulHTTPPort :=
    if b.gwConfig.consulSpec.portSpec.http ≠ 0 then b.gwConfig.consulSpec.portSpec.http else 8500
  consulXDSPort :=
    if b.gwConfig.consulSpec.portSpec.grpc ≠ 0 then b.gwConfig.consulSpec.portSpec.grpc else 8502
  aclAuthMethod := expand b.gwConfig.consulSpec.authSpec.method
  consulPrimaryDatacenter := expand b.consulPrimaryDatacenter
  bootstrapPath := "/bootstrap/envoy.json"
  sdsServerAddress := expand b.sdsHost
  sdsServerPort := b.sdsPort

variable {b expand}

/-- A text that is joined from single lines is split into them again. -/
theorem execArgs_eq (h : SingleLines b) : b.execArgs = b.argLines := by
  have hsplit : ((['\n'].intercalate (b.argLines.map String.toList)).splitOn '\n') =
      b.argLines.map String.toList := by
    refine List.splitOn_intercalate _ ?_ ?_
    · intro line hline
      obtain ⟨s, hs, rfl⟩ := List.mem_map.1 hline
      exact h s hs
    · simp [GatewayDeploymentBuilder.argLines]
  have htext : ("\n".intercalate b.argLines).toList =
      ['\n'].intercalate (b.argLines.map String.toList) := String.toList_intercalate
  have hback : String.ofList ∘ String.toList = id := funext fun _ => String.ofList_toList
  rw [GatewayDeploymentBuilder.execArgs, GoStd.split, htext, hsplit, List.map_map, hback,
    List.map_id]

variable (b expand)

/-- The flags that take a value, in the order of the template, with the values that the pod
gives them and what they do to the command; `e` is the command that is expected. -/
def allAssignments (e : Command) : List ((String × String) × (Command → Command)) :=
  [(("log-level", e.logLevel), fun c => { c with logLevel := e.logLevel }),
    (("gateway-host", e.gatewayHost), fun c => { c with gatewayHost := e.gatewayHost }),
    (("gateway-name", e.gatewayName), fun c => { c with gatewayName := e.gatewayName }),
    (("gateway-namespace", e.gatewayNamespace),
      fun c => { c with gatewayNamespace := e.gatewayNamespace }),
    (("consul-http-address", e.consulHTTPAddress),
      fun c => { c with consulHTTPAddress := e.consulHTTPAddress }),
    (("consul-http-port",
        expand (orDefaultIntString b.gwConfig.consulSpec.portSpec.http defaultConsulHTTPPort)),
      fun c => { c with consulHTTPPort := e.consulHTTPPort }),
    (("consul-xds-port",
        expand (orDefaultIntString b.gwConfig.consulSpec.portSpec.grpc defaultConsulXDSPort)),
      fun c => { c with consulXDSPort := e.consulXDSPort }),
    (("acl-auth-method", e.aclAuthMethod), fun c => { c with aclAuthMethod := e.aclAuthMethod }),
    (("consul-primary-datacenter", e.consulPrimaryDatacenter),
      fun c => { c with consulPrimaryDatacenter := e.consulPrimaryDatacenter }),
    (("envoy-bootstrap-path", expand "/bootstrap/envoy.json"),
      fun c => { c with bootstrapPath := e.bootstrapPath }),
    (("envoy-sds-address", e.sdsServerAddress),
      fun c => { c with sdsServerAddress := e.sdsServerAddress }),
    (("envoy-sds-port", expand (itoa b.sdsPort)),
      fun c => { c with sdsServerPort := e.sdsServerPort })]

/-- The template leaves three of the flags out when their values are empty. -/
def present (name : String) : Bool :=
  if name = "gateway-namespace" then b.consulGatewayNamespace ≠ ""
  else if name = "acl-auth-method" then b.gwConfig.consulSpec.authSpec.method ≠ ""
  else if name = "consul-primary-datacenter" then b.consulPrimaryDatacenter ≠ ""
  else true

def assignments : List ((String × String) × (Command → Command)) :=
  (allAssignments b expand (Command.expected b expand)).filter fun assignment =>
    present b assignment.1.1

variable {b expand}

theorem argLines_eq : b.argLines = "-log-json" :: args ((assignments b id).map Prod.fst) := by
  unfold GatewayDeploymentBuilder.argLines assignments allAssignments
  by_cases hnamespace : b.consulGatewayNamespace = "" <;>
    by_cases hmethod : b.gwConfig.consulSpec.authSpec.method = "" <;>
    by_cases hdatacenter : b.consulPrimaryDatacenter = "" <;>
    simp [present, hnamespace, hmethod, hdatacenter, args, Command.expected]

theorem map_fst_assignments :
    (assignments b expand).map Prod.fst =
      ((assignments b id).map Prod.fst).map fun setting => (setting.1, expand setting.2) := by
  have hall : (allAssignments b expand (Command.expected b expand)).map Prod.fst =
      ((allAssignments b id (Command.expected b id)).map Prod.fst).map
        fun setting => (setting.1, expand setting.2) := rfl
  have hfilter : ∀ l : List ((String × String) × (Command → Command)),
      (l.filter fun assignment => present b assignment.1.1).map Prod.fst =
        (l.map Prod.fst).filter fun setting => present b setting.1 := by
    intro l
    rw [List.filter_map]
    rfl
  rw [assignments, assignments, hfilter, hfilter, hall, List.filter_map]
  rfl

/-- The names of the flags hold no references. -/
theorem dollar_notMem_name {setting : String × String}
    (h : setting ∈ (assignments b id).map Prod.fst) : '$' ∉ ("-" ++ setting.1).toList := by
  obtain ⟨assignment, hmem, rfl⟩ := List.mem_map.1 h
  have hall : ∀ assignment ∈ allAssignments b id (Command.expected b id),
      '$' ∉ ("-" ++ assignment.1.1).toList := by
    simp only [allAssignments, List.forall_mem_cons]
    exact ⟨by decide, by decide, by decide, by decide, by decide, by decide, by decide, by decide,
      by decide, by decide, by decide, by decide, by simp⟩
  exact hall assignment (List.mem_of_mem_filter hmem)

/-- The arguments of the pod are a switch and the settings. -/
theorem map_argLines (hexpand : ExpandsReferences expand) :
    b.argLines.map expand = "-log-json" :: args ((assignments b expand).map Prod.fst) := by
  rw [argLines_eq, List.map_cons, map_args fun setting h => hexpand _ (dollar_notMem_name h),
    ← map_fst_assignments, hexpand "-log-json" (by decide)]

theorem expand_itoa (hexpand : ExpandsReferences expand) (n : ℤ) : expand (itoa n) = itoa n := by
  refine hexpand _ fun hmem => ?_
  rcases mem_itoa hmem with h | h <;> exact absurd h (by decide)

/-- A port is read back; the default is what the flag would have been without it. -/
theorem parseInt_orDefault (hexpand : ExpandsReferences expand) {n d : ℤ} (hn : IsInt n)
    (hd : IsInt d) :
    parseInt (expand (orDefaultIntString n (itoa d))) = .ok (if n ≠ 0 then n else d) := by
  rw [orDefaultIntString]
  split_ifs
  · rw [expand_itoa hexpand, parseInt_itoa hn]
  · rw [expand_itoa hexpand, parseInt_itoa hd]

theorem sets_assignments (hexpand : ExpandsReferences expand) (hports : PortsFit b) :
    ∀ assignment ∈ assignments b expand,
      Sets Command.flagSet assignment.1 assignment.2 := by
  have hall : ∀ assignment ∈ allAssignments b expand (Command.expected b expand),
      Sets Command.flagSet assignment.1 assignment.2 := by
    simp only [allAssignments, List.forall_mem_cons]
    have hhttp := parseInt_orDefault hexpand hports.1 (d := 8500) ⟨by decide, by decide⟩
    have hxds := parseInt_orDefault hexpand hports.2.1 (d := 8502) ⟨by decide, by decide⟩
    have hsds : parseInt (expand (itoa b.sdsPort)) = .ok b.sdsPort := by
      rw [expand_itoa hexpand, parseInt_itoa hports.2.2]
    refine ⟨⟨_, rfl, rfl, fun _ => rfl⟩, ⟨_, rfl, rfl, fun _ => rfl⟩, ⟨_, rfl, rfl, fun _ => rfl⟩,
      ⟨_, rfl, rfl, fun _ => rfl⟩, ⟨_, rfl, rfl, fun _ => rfl⟩, ⟨_, rfl, rfl, fun s => ?_⟩,
      ⟨_, rfl, rfl, fun s => ?_⟩, ⟨_, rfl, rfl, fun _ => rfl⟩, ⟨_, rfl, rfl, fun _ => rfl⟩,
      ⟨_, rfl, rfl, fun s => ?_⟩, ⟨_, rfl, rfl, fun _ => rfl⟩, ⟨_, rfl, rfl, fun s => ?_⟩, by simp⟩
    · exact congrArg (Except.map fun n => { s with consulHTTPPort := n }) hhttp
    · exact congrArg (Except.map fun n => { s with consulXDSPort := n }) hxds
    · exact congrArg (fun v => Except.ok { s with bootstrapPath := v })
        (hexpand "/bootstrap/envoy.json" (by decide))
    · exact congrArg (Except.map fun n => { s with sdsServerPort := n }) hsds
  exact fun assignment hmem => hall assignment (List.mem_of_mem_filter hmem)

theorem foldl_assignments (hexpand : ExpandsReferences expand) :
    (assignments b expand).foldl (fun c assignment => assignment.2 c) { logJSON := true } =
      Command.expected b expand := by
  have hempty : expand "" = "" := hexpand "" (by decide)
  unfold assignments allAssignments
  by_cases hnamespace : b.consulGatewayNamespace = "" <;>
    by_cases hmethod : b.gwConfig.consulSpec.authSpec.method = "" <;>
    by_cases hdatacenter : b.consulPrimaryDatacenter = "" <;>
    simp [present, hnamespace, hmethod, hdatacenter, hempty, Command.expected]

/-- **The command reads what the controller has written.** -/
theorem parse_execArgs (hlines : SingleLines b) (hports : PortsFit b)
    (hexpand : ExpandsReferences expand) :
    Command.parseFlags (b.execArgs.map expand) = .ok (Command.expected b expand) := by
  have hswitch : parse Command.flagSet
      ("-log-json" :: args ((assignments b expand).map Prod.fst)) {} =
      parse Command.flagSet (args ((assignments b expand).map Prod.fst)) { logJSON := true } :=
    parse_switch "log-json" (by decide) rfl rfl rfl
  have hargs := parse_args (by decide) (sets_assignments hexpand hports) [] { logJSON := true }
  rw [List.append_nil, foldl_assignments hexpand] at hargs
  rw [Command.parseFlags, execArgs_eq hlines, map_argLines hexpand, hswitch, hargs]
  rfl

end Exec
