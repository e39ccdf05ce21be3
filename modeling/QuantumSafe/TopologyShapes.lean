import QuantumSafe.PyShapes
import QuantumSafe.ValidateTopology

set_option autoImplicit false

/- Which topologies `validate_topology` gets through without raising: the shapes that
its lookups, loops and string operations need. -/
namespace QuantumSafe.LabContract

open PyText PyValue PyIpAddress CeosContract RenderTopo Reports

/-- What `_host_exec_commands` makes commands of. -/
def execShape : Value → Bool
  | .none => true
  | .list commands => commands.all Value.showable
  | _ => false

def bindsEntry : Text × (Value → Bool) := (text "binds", Value.isContainer)
def execEntry : Text × (Value → Bool) := (text "exec", execShape)

/-- The keys of `kme_env_for_node`. -/
def kmeEnvKeys : List Text :=
  [ text "HOST", text "DEFAULT_KEY_SIZE", text "MAX_KEY_COUNT", text "MAX_KEYS_PER_REQUEST",
    text "MAX_KEY_SIZE", text "MIN_KEY_SIZE", text "KEY_GEN_SEC_TO_GEN", text "CA_FILE", text "SAE_CERT",
    text "PORT", text "KME_ID", text "ATTACHED_SAE_ID", text "OTHER_KMES", text "KME_CERT", text "KME_KEY",
    text "SAE_CLIENT_IPS" ]

def envEntry : Text × (Value → Bool) :=
  (text "env", dictWith (kmeEnvKeys.map fun key => (key, Value.showable)))

/-- The first of `cap-add` and `cap_add` that is true can be searched. -/
def capsShape : Value → Bool
  | .dict entries =>
      let dashed := (find (text "cap-add") entries).getD .none
      let underscored := (find (text "cap_add") entries).getD .none
      if dashed.truthy then dashed.isContainer else !underscored.truthy || underscored.isContainer
  | _ => false

/-- A switch or a service. -/
def nodeShape : Value → Bool := dictWith [bindsEntry, execEntry]

/-- The hosts are the only nodes that may be null, and their binds are not looked at. -/
def hostShape : Value → Bool := nullOr (dictWith [execEntry])

def kmeShape (cfg : Value) : Bool := dictWith [bindsEntry, envEntry, execEntry] cfg && capsShape cfg

def nodesShape : Value → Bool :=
  dictWith (Ceos.all.map (fun ceos => (ceos.name, nodeShape)) ++
    hostDataPlane.map (fun expected => (expected.host.name, hostShape)) ++
    [ (LabNode.radius.name, nodeShape), (LabNode.syslog.name, nodeShape),
      (LabNode.testRunner.name, nodeShape), (kmeNodeA.node.name, kmeShape),
      (kmeNodeB.node.name, kmeShape) ])

def kindsShape : Value → Bool :=
  dictWith [(text "arista_ceos", dictWith [(text "env", Value.isDict)])]

def linkShape : Value → Bool := dictWith [(text "endpoints", eachOf Value.isString)]

def topologyShape : Value → Bool :=
  dictWith [(text "kinds", kindsShape), (text "nodes", nodesShape), (text "links", eachOf linkShape)]

def dataShape : Value → Bool :=
  dictWith [(text "mgmt", Value.isDict), (text "topology", topologyShape)]

section

variable {cfg nodes topology : Value} {key expected message start : Text} {binds : List Text}

theorem returns_get_pure_iff {Item : Type} {change : Value → Item} :
    Returns (cfg.get key >>= fun value => pure (change value)) ↔ cfg.isDict = true := by
  rw [returns_pure_iff, Value.get, returns_getOr_iff]

theorem returns_fieldErrors_iff : Returns (fieldErrors cfg key expected message) ↔ cfg.isDict = true :=
  returns_get_pure_iff

theorem returns_eitherErrors_iff {placeholder : Text} :
    Returns (eitherErrors cfg key expected placeholder message) ↔ cfg.isDict = true :=
  returns_get_pure_iff

theorem returns_networkModeErrors_iff : Returns (networkModeErrors cfg message) ↔ cfg.isDict = true :=
  returns_get_pure_iff

/-- Without an expected bind, nothing would be searched. -/
theorem returns_bindsErrors_iff (some : binds ≠ []) {value : Value} :
    Returns (bindsErrors value start binds) ↔ value.isContainer = true := by
  rw [bindsErrors, returns_forEach_iff]
  simp only [returns_pure_iff, returns_has_iff]
  constructor
  · intro every
    exact every _ (List.head_mem some)
  · intro container _ _
    exact container

/-- `cfg.get("binds", [])` and the checks of it. -/
theorem returns_getBinds_iff (some : binds ≠ []) :
    Returns (cfg.getOr (text "binds") (.list []) >>= fun value => bindsErrors value start binds) ↔
      dictWith [bindsEntry] cfg = true :=
  returns_getOr_bind_iff (fun _ => returns_bindsErrors_iff some) rfl

theorem returns_nodeErrors_iff {node : LabNode} {errors : Value → Except Raised (List Text)}
    {shape : Value → Bool} (rule : ∀ cfg, Returns (errors cfg) ↔ shape cfg = true) :
    Returns (nodeErrors nodes node errors) ↔ dictWith [(node.name, nullOr shape)] nodes = true := by
  apply returns_getOr_bind_iff
  · intro cfg
    cases cfg with
    | none => exact iff_of_true (returns_ok _) rfl
    | _ => exact rule _
  · rfl

theorem returns_addressErrors_iff {ips ips6 : LabNode → Text} {node : LabNode} :
    Returns (addressErrors nodes ips ips6 node) ↔
      dictWith [(node.name, nullOr Value.isDict)] nodes = true := by
  apply returns_nodeErrors_iff
  intro cfg
  rw [returns_inTurn_iff]
  simp only [List.forall_mem_cons, returns_fieldErrors_iff]
  constructor
  · intro every
    exact every.1
  · intro dict
    refine ⟨dict, dict, ?_, List.forall_mem_nil _⟩
    split
    · exact returns_networkModeErrors_iff.mpr dict
    · split
      · exact returns_networkModeErrors_iff.mpr dict
      · exact returns_ok []

theorem returns_hostErrors_iff {host : HostDataPlane} :
    Returns (hostErrors nodes host) ↔ dictWith [(host.host.name, nullOr Value.isDict)] nodes = true := by
  apply returns_nodeErrors_iff
  intro cfg
  rw [returns_inTurn_iff]
  simp only [List.forall_mem_cons, returns_fieldErrors_iff, returns_networkModeErrors_iff]
  constructor
  · intro every
    exact every.1
  · intro dict
    exact ⟨dict, dict, dict, List.forall_mem_nil _⟩

theorem returns_linuxNodeErrors_iff {node : LabNode} {image : Text} {ips : LabNode → Text}
    (some : binds ≠ []) :
    Returns (linuxNodeErrors cfg node image ips binds) ↔ dictWith [bindsEntry] cfg = true := by
  rw [linuxNodeErrors, returns_inTurn_iff]
  simp only [List.forall_mem_cons, returns_fieldErrors_iff, returns_getBinds_iff some]
  constructor
  · intro every
    exact every.2.2.2.1
  · intro shaped
    have dict := isDict_of_dictWith shaped
    exact ⟨dict, dict, dict, shaped, List.forall_mem_nil _⟩

theorem returns_startupErrors_iff {ceos : Ceos} :
    Returns (startupErrors nodes ceos) ↔ dictWith [(ceos.name, Value.isDict)] nodes = true :=
  returns_getOr_bind_iff (fun _ => returns_fieldErrors_iff) rfl

theorem returns_nodeBindsErrors_iff {node : Text} (some : binds ≠ []) :
    Returns (nodeBindsErrors nodes node start binds) ↔
      dictWith [(node, dictWith [bindsEntry])] nodes = true :=
  returns_getOr_bind_iff (fun _ => returns_getBinds_iff some) rfl

theorem capAdd_dict (entries : List (Value × Value)) :
    capAdd (.dict entries) =
      let dashed := (find (text "cap-add") entries).getD .none
      let underscored := (find (text "cap_add") entries).getD .none
      .ok (if dashed.truthy then dashed else if underscored.truthy then underscored else .list []) := by
  rw [capAdd, Value.get, Value.getOr, ok_bind]
  dsimp only
  split <;> rfl

theorem returns_capAdd_iff :
    Returns (capAdd cfg >>= fun caps => caps.has key >>= fun found => pure (require found message)) ↔
      capsShape cfg = true := by
  cases cfg with
  | dict entries =>
      rw [capAdd_dict, ok_bind, returns_pure_iff, returns_has_iff, capsShape]
      split
      · exact Iff.rfl
      · split
        · next filled => rw [filled, Bool.not_true, Bool.false_or]
        · next empty =>
            rw [Bool.not_eq_true] at empty
            rw [empty]
            exact Iff.rfl
  | _ => exact iff_of_false not_returns_error Bool.false_ne_true

variable {printable : Char → Bool} {spec : KmeNode} {ips ips6 : LabNode → Text}

theorem kmeEnvKeys_eq : (kmeEnvForNode spec ips ips6).map Prod.fst = kmeEnvKeys := rfl

theorem returns_kmeEnvErrors_iff :
    Returns (kmeEnvErrors printable cfg spec ips ips6) ↔ dictWith [envEntry] cfg = true := by
  refine returns_getOr_bind_iff (fun env => ?_) rfl
  have each : ∀ entry : Text × Text, Returns (env.get entry.1 >>= fun value => value.strOf printable >>=
      fun shown => pure (require (shown == entry.2) (spec.node.name ++ text " env " ++ entry.1 ++
        text " must be " ++ reprText printable entry.2))) ↔
      dictWith [(entry.1, Value.showable)] env = true := by
    intro entry
    apply returns_getOr_bind_iff
    · intro value
      rw [returns_pure_iff, returns_strOf_iff]
    · rfl
  have one : text "HOST" ∈ kmeEnvKeys := List.mem_cons_self
  rw [returns_forEach_iff, dictWith_map_of_mem one, ← kmeEnvKeys_eq, List.forall_mem_map]
  exact forall₂_congr fun entry _ => each entry

theorem returns_kmeNodeErrors_iff :
    Returns (kmeNodeErrors printable nodes spec ips ips6) ↔
      dictWith [(spec.node.name, nullOr fun cfg => dictWith [bindsEntry, envEntry] cfg && capsShape cfg)] nodes =
        true := by
  apply returns_nodeErrors_iff
  intro cfg
  have some : kmeBinds ≠ [] := List.cons_ne_nil _ _
  rw [returns_inTurn_iff, Bool.and_eq_true, dictWith_cons]
  simp only [List.forall_mem_cons, returns_linuxNodeErrors_iff some, returns_kmeEnvErrors_iff,
    returns_capAdd_iff]
  constructor
  · rintro ⟨binds, env, caps, -⟩
    exact ⟨⟨binds, env⟩, caps⟩
  · rintro ⟨⟨binds, env⟩, caps⟩
    exact ⟨binds, env, caps, List.forall_mem_nil _⟩

theorem returns_hostExecCommands_iff :
    Returns (hostExecCommands printable cfg) ↔ dictWith [execEntry] cfg = true := by
  refine returns_getOr_bind_iff (fun commands => ?_) rfl
  cases commands with
  | none => exact iff_of_true (returns_ok _) rfl
  | list commands =>
      dsimp only
      rw [returns_mapM_iff, execShape, List.all_eq_true]
      exact forall₂_congr fun command _ => returns_strOf_iff
  | _ => exact iff_of_false not_returns_error Bool.false_ne_true

theorem returns_execErrors_iff {ceos : Ceos} :
    Returns (execErrors printable nodes ceos expected message) ↔
      dictWith [(ceos.name, dictWith [execEntry])] nodes = true := by
  apply returns_getOr_bind_iff
  · intro cfg
    rw [returns_pure_iff, returns_hostExecCommands_iff]
  · rfl

/-- Of the checks of a switch, those of its binds and of its commands. -/
theorem returns_ceosNodeErrors_iff {ceos : Ceos} :
    Returns (ceosNodeErrors printable nodes ceos) ↔
      dictWith [(ceos.name, dictWith [bindsEntry])] nodes = true ∧
        dictWith [(ceos.name, dictWith [execEntry])] nodes = true := by
  have some : ceosBinds ceos ≠ [] := List.cons_ne_nil _ _
  rw [ceosNodeErrors, returns_inTurn_pair_iff, returns_nodeBindsErrors_iff some, returns_execErrors_iff]

/-- The checks about QuaDRA look at what is looked at anyway. -/
theorem returns_quadraErrors (swix : Option QuadraSwix)
    (shaped : ∀ ceos : Ceos, dictWith [(ceos.name, dictWith [bindsEntry])] nodes = true ∧
      dictWith [(ceos.name, dictWith [execEntry])] nodes = true) :
    Returns (quadraErrors printable nodes swix) := by
  cases swix with
  | none => exact returns_ok []
  | some swix =>
      have some : [quadraSwixClabBind swix] ≠ [] := List.cons_ne_nil _ _
      rw [quadraErrors, returns_inTurn_pair_iff, returns_forEach_iff, returns_forEach_iff]
      simp only [returns_nodeBindsErrors_iff some, returns_execErrors_iff]
      exact ⟨fun ceos _ => (shaped ceos).1, fun ceos _ => (shaped ceos).2⟩

theorem returns_forEachEndpoint_iff {check : Text → List Text} :
    Returns (forEachEndpoint topology check) ↔
      dictWith [(text "links", eachOf linkShape)] topology = true := by
  apply returns_getOr_bind_iff
  · intro links
    apply returns_iter_bind_iff
    intro link
    apply returns_getOr_bind_iff
    · intro endpoints
      apply returns_iter_bind_iff
      intro endpoint
      rw [returns_pure_iff, returns_asStr_iff]
    · rfl
  · rfl

theorem hashable_of_isString {value : Value} (string : value.isString = true) : value.hashable = true := by
  cases value with
  | str value => rfl
  | _ => cases string

/-- A link with endpoints that are all strings has a tuple that can be hashed. -/
theorem returns_hashedTuple {endpoints : Value} (strings : eachOf Value.isString endpoints = true) :
    Returns endpoints.hashedTuple := by
  rw [eachOf] at strings
  rw [Value.hashedTuple]
  split at strings
  · next items iterates =>
      have every := List.all_eq_true.mp strings
      have hashable : items.all Value.hashable = true :=
        List.all_eq_true.mpr fun item member => hashable_of_isString (every item member)
      rw [iterates, ok_bind, if_pos hashable]
      exact returns_ok _
  · cases strings

theorem returns_actualLinks (shaped : dictWith [(text "links", eachOf linkShape)] topology = true) :
    Returns (actualLinks topology) := by
  refine returns_getOr_bind (fun links each => returns_iter_bind (fun link shape => ?_) each) rfl shaped
  cases link with
  | dict entries =>
      rw [has_dict, ok_bind, Value.subscript]
      cases there : find (text "endpoints") entries with
      | none => exact returns_ok []
      | some endpoints =>
          have entry : (Value.dict entries).subscript (text "endpoints") = .ok endpoints := by
            rw [Value.subscript, there]
            rfl
          have strings := dictWith_subscript shape List.mem_cons_self entry
          exact returns_pure_iff.mpr (returns_hashedTuple strings)
  | _ => cases shape

theorem returns_kmeLinkErrors_iff :
    Returns (kmeLinkErrors printable topology) ↔
      dictWith [(text "links", eachOf linkShape)] topology = true := by
  rw [kmeLinkErrors, returns_pure_iff, kmeDataPlaneEndpoints, returns_pure_iff, returns_forEachEndpoint_iff]

theorem returns_linkErrors (shaped : dictWith [(text "links", eachOf linkShape)] topology = true) :
    Returns (linkErrors printable topology) := by
  rw [linkErrors, returns_inTurn_pair_iff, missingLinkErrors, returns_pure_iff, returns_forEachEndpoint_iff]
  exact ⟨returns_actualLinks shaped, shaped⟩

theorem returns_validateHostDataPlane_iff :
    Returns (validateHostDataPlane printable nodes) ↔
      ∀ expected ∈ hostDataPlane, dictWith [(expected.host.name, hostShape)] nodes = true := by
  rw [validateHostDataPlane, returns_forEach_iff]
  refine forall₂_congr fun expected _ => returns_getOr_bind_iff (fun cfg => ?_) rfl
  cases cfg with
  | none => exact iff_of_true (returns_ok _) rfl
  | _ => exact returns_pure_iff.trans returns_hostExecCommands_iff

theorem returns_validateMgmtTopologyNodes_iff :
    Returns (validateMgmtTopologyNodes printable nodes) ↔
      nodes.isContainer = true ∧
        ∀ node ∈ mgmtLinuxNodes, dictWith [(node.name, dictWith [execEntry])] nodes = true := by
  rw [validateMgmtTopologyNodes, returns_inTurn_pair_iff, returns_pure_iff, returns_has_iff,
    returns_forEach_iff]
  apply and_congr_right
  intro _
  refine forall₂_congr fun node _ => returns_getOr_bind_iff (fun cfg => ?_) rfl
  rw [returns_bind_iff]
  simp only [returns_pure_iff, returns_hostExecCommands_iff, exists_and_right]
  rw [and_iff_right_iff_imp]
  intro shaped
  exact returns_networkModeErrors_iff.mpr (isDict_of_dictWith shaped)

theorem returns_kindsErrors_iff {ceosImage : Text} :
    Returns (kindsErrors topology ceosImage) ↔
      dictWith [(text "nodes", Value.isContainer)] topology = true ∧
        dictWith [(text "kinds", kindsShape)] topology = true := by
  rw [kindsErrors, returns_inTurn_pair_iff]
  apply and_congr
  · refine returns_getOr_bind_iff (fun nodes => ?_) rfl
    rw [returns_pure_iff, returns_has_iff]
  · refine returns_getOr_bind_iff (fun allKinds => returns_getOr_bind_iff (fun kinds => ?_) rfl) rfl
    rw [returns_inTurn_pair_iff, returns_eitherErrors_iff,
      returns_getOr_bind_iff (fun _ => returns_fieldErrors_iff) rfl, and_iff_right_iff_imp]
    exact isDict_of_dictWith

end

end QuantumSafe.LabContract
