import QuantumSafe.CeosSymbolic
import QuantumSafe.TemplateLines

set_option autoImplicit false

/- The files that `render_config_templates` writes, as lines of f-strings over the
management values. -/
namespace QuantumSafe.RenderTopo

open PyText SymbolicText CeosContract

/-- The values of `quadraBase` and of the three entries of one role. -/
def quadraTable (profile intf peerIp : Text) : Table :=
  [ (text "KME_A_PORT", [num kmeAPort]),
    (text "KME_B_PORT", [num kmeBPort]),
    (text "KME_SAE_ID", [chars kmeSaeId]),
    (text "KME_B_SAE_ID", [chars kmeBSaeId]),
    (text "QUADRA_KEY_RX", [chars quadraKeyRx]),
    (text "QUADRA_KEY_TX", [chars quadraKeyTx]),
    (text "QUADRA_SC_RX_ID", [chars quadraScRxId]),
    (text "QUADRA_SC_TX_ID", [chars quadraScTxId]),
    (text "MGMT_IP_KME_A", [slot (.ip .kmeA)]),
    (text "MGMT_IP_KME_B", [slot (.ip .kmeB)]),
    (text "QUADRA_MACSEC_PROFILE", [chars profile]),
    (text "QUADRA_MACSEC_INTF", [chars intf]),
    (text "QUADRA_PEER_IP", [chars peerIp]) ]

def quadraMasterTable : Table :=
  quadraTable quadraMacsecProfileMaster (text "Ethernet2") (text "10.255.0.6")

def quadraSlaveTable : Table :=
  quadraTable quadraMacsecProfileSlave (text "Ethernet1") (text "10.255.0.5")

def expanded (table : Table) (file : List Text) : List FString := (expandFile table file).getD []

/-- The values that the templates of the switches and of the RADIUS clients use. -/
def templateTable : Table :=
  [ (text "MGMT_GATEWAY", [slot .gateway]),
    (text "MGMT_PREFIX", [slot .prefixLen]),
    (text "MGMT_IPV6_GATEWAY", [slot .gateway6]),
    (text "MGMT_IPV6_PREFIX", [slot .prefixLen6]),
    (text "MGMT_IP_CEOS1_BOTH", [slot (.ip .ceos1Both)]),
    (text "MGMT_IP_CEOS2_PQC", [slot (.ip .ceos2Pqc)]),
    (text "MGMT_IP_CEOS3_QKD", [slot (.ip .ceos3Qkd)]),
    (text "MGMT_IP_TEST_RUNNER", [slot (.ip .testRunner)]),
    (text "MGMT_IPV6_CEOS1_BOTH", [slot (.ip6 .ceos1Both)]),
    (text "MGMT_IPV6_CEOS2_PQC", [slot (.ip6 .ceos2Pqc)]),
    (text "MGMT_IPV6_CEOS3_QKD", [slot (.ip6 .ceos3Qkd)]),
    (text "MGMT_IPV6_TEST_RUNNER", [slot (.ip6 .testRunner)]),
    (text "RADIUS_SERVER_IP", [slot (.ip6 .radius)]),
    (text "SYSLOG_SERVER_IPV4", [slot (.ip .syslog)]),
    (text "SYSLOG_SERVER_IPV6", [slot (.ip6 .syslog)]),
    (text "CONTROL_PLANE_ACL", controlPlaneAclTemplate.map chars),
    (text "QUADRA_MACSEC_MASTER", expanded quadraMasterTable quadraMacsecMasterTemplate),
    (text "QUADRA_MACSEC_SLAVE", expanded quadraSlaveTable quadraMacsecSlaveTemplate),
    (text "QUADRA_DAEMON_MASTER", expanded quadraMasterTable quadraDaemonMasterTemplate),
    (text "QUADRA_DAEMON_SLAVE", expanded quadraSlaveTable quadraDaemonSlaveTemplate) ]

/-- The last line ends in a character that `rstrip` keeps. -/
def endsVisible (lines : List FString) : Bool :=
  match lines.getLast?.bind List.getLast? with
  | some (.char c) => c != '\n'
  | _ => false

/-- The dictionary that `build_substitutions` returns. -/
def templateItems (values : MgmtValues) (ceosImage mgmtSubnet mgmtIpv6Subnet : Text) : List (Text × Text) :=
  substitutionItems ceosImage mgmtSubnet mgmtIpv6Subnet values
    (valueText values (expanded quadraMasterTable quadraMacsecMasterTemplate))
    (valueText values (expanded quadraSlaveTable quadraMacsecSlaveTemplate))
    (valueText values (expanded quadraMasterTable quadraDaemonMasterTemplate))
    (valueText values (expanded quadraSlaveTable quadraDaemonSlaveTemplate))

def substitutionKeys : List Text :=
  (substitutionItems [] [] [] (fun _ => []) [] [] [] []).map Prod.fst

/-- The files that `render_config_templates` writes. -/
def renderedFiles (values : MgmtValues) : List (Text × Text) :=
  templatePaths.map fun template =>
    (template.1, fileText ((expanded templateTable template.2).map (fill values)))

theorem lookup_map {α β : Type} (f : α → β) (entries : List (Text × α)) (key : Text) :
    (entries.map fun entry => (entry.1, f entry.2)).lookup key = (entries.lookup key).map f := by
  induction entries with
  | nil => rfl
  | cons entry rest ih =>
      rw [List.map_cons, List.lookup_cons, List.lookup_cons, ih]
      split <;> rfl

theorem expandFile_expanded {table : Table} {file : List Text} (known : (expandFile table file).isSome = true) :
    expandFile table file = some (expanded table file) := by
  obtain ⟨lines, same⟩ := Option.isSome_iff_exists.mp known
  rw [expanded, same, Option.getD_some]

theorem valueText_chars (values : MgmtValues) (s : Text) : valueText values [chars s] = s := by
  simp [valueText]

theorem valueText_slot (values : MgmtValues) (name : MgmtValue) :
    valueText values [slot name] = values name := by
  simp [valueText]

theorem rstripNewlines_fileText (values : MgmtValues) {lines : List FString}
    (ends : endsVisible lines = true) :
    rstripNewlines (fileText (lines.map (fill values))) = valueText values lines := by
  rw [endsVisible] at ends
  split at ends
  · rename_i c known
    obtain ⟨last, lastLine, lastSymbol⟩ := Option.bind_eq_some_iff.mp known
    obtain ⟨front, rfl⟩ := List.getLast?_eq_some_iff.mp lastLine
    obtain ⟨body, rfl⟩ := List.getLast?_eq_some_iff.mp lastSymbol
    have shape : valueText values (front ++ [body ++ [Symbol.char c]]) =
        linesBefore (front.map (fill values)) ++ fill values body ++ [c] := by
      rw [valueText, List.map_append, List.map_singleton, unlines_around]
      simp [linesAfter]
    have filled : (front ++ [body ++ [Symbol.char c]]).map (fill values) ≠ [] := by simp
    have file : fileText ((front ++ [body ++ [Symbol.char c]]).map (fill values)) =
        valueText values (front ++ [body ++ [Symbol.char c]]) ++ ['\n'] :=
      unlines_append filled (List.cons_ne_nil _ _)
    rw [file, rstripNewlines, List.rdropWhile_concat_pos _ _ _ (by simp), shape,
      List.rdropWhile_concat_neg _ _ _ (by simpa using ends)]
  · cases ends

/-- Whatever the zone ids are. -/
def anyZone : MgmtValue → Char → Bool := zoneAllowed fun _ => true

/-- What rendering needs, and reading back: no `$` and no carriage return. -/
def openZone : MgmtValue → Char → Bool := zoneAllowed fun c => c != '$' && c != '\r'

theorem fits_anyZone {values : MgmtValues} (fits : Fits openZone values) : Fits anyZone values := by
  refine fits.mono fun name c allowed => ?_
  cases name <;> first | rfl | exact allowed

theorem fits_openZone {values : MgmtValues} (fits : Fits mgmtAllowed values) : Fits openZone values := by
  refine fits.mono fun name c allowed => ?_
  have visible : (!isSpace c && c != '$') = true → (c != '$' && c != '\r') = true := by
    intro both
    rw [Bool.and_eq_true, Bool.not_eq_true'] at both
    refine Bool.and_eq_true _ _ ▸ ⟨both.2, bne_iff_ne.mpr ?_⟩
    rintro rfl
    exact absurd both.1 (by decide)
  cases name <;> first | exact allowed | exact visible allowed

section

variable {values : MgmtValues}

theorem notMem_configText {allowed : MgmtValue → Char → Bool} (fits : Fits allowed values) {c : Char}
    {lines : List FString} (visible : c ≠ '\n') (plain : lines.all (lacks allowed c) = true) :
    c ∉ configText values lines := by
  intro inside
  rcases mem_join inside with separator | ⟨line, member, inside⟩
  · exact visible (List.mem_singleton.mp separator)
  · obtain ⟨symbols, listed, rfl⟩ := List.mem_map.mp member
    exact notMem_fill fits (List.all_eq_true.mp plain symbols listed) inside

theorem agrees_of_lookup {allowed : MgmtValue → Char → Bool} (fits : Fits allowed values)
    {items : List (Text × Text)} {table : Table}
    (found : ∀ entry ∈ table, items.lookup entry.1 = some (valueText values entry.2))
    (plain : table.all (fun entry => entry.2.all (lacks allowed '$')) = true) :
    Agrees values items table := by
  intro key value known
  obtain ⟨before, after, split, -⟩ := List.lookup_eq_some_iff.mp known
  have member : (key, value) ∈ table := by
    rw [split]
    exact List.mem_append_right before List.mem_cons_self
  exact ⟨found (key, value) member,
    notMem_configText fits (by decide) (List.all_eq_true.mp plain (key, value) member)⟩

theorem renderQuadra_expanded {items : List (Text × Text)} {table : Table} {file : List Text}
    (keys : ∀ item ∈ items, IsKey item.1) (agrees : Agrees values items table)
    (known : (expandFile table file).isSome = true) (ends : endsVisible (expanded table file) = true) :
    renderQuadra file items = .ok (valueText values (expanded table file)) := by
  rw [renderQuadra, renderFile_expandFile keys agrees (expandFile_expanded known), Except.map,
    rstripNewlines_fileText values ends]

theorem lookup_quadra (profile intf peerIp : Text) : ∀ entry ∈ quadraTable profile intf peerIp,
    (quadraBase (fun node => values (.ip node)) ++
      [(text "QUADRA_MACSEC_PROFILE", profile), (text "QUADRA_MACSEC_INTF", intf),
        (text "QUADRA_PEER_IP", peerIp)]).lookup entry.1 = some (valueText values entry.2) := by
  simp only [quadraTable, List.forall_mem_cons, num, valueText_chars, valueText_slot]
  refine ⟨rfl, rfl, rfl, rfl, rfl, rfl, rfl, rfl, rfl, rfl, rfl, rfl, rfl, ?_⟩
  intro entry member
  cases member

/-- The keys of a dictionary are valid whatever its values are. -/
theorem isKey_of_keys {items : List (Text × Text)} (keys : List Text) (same : items.map Prod.fst = keys)
    (valid : keys.all (fun key => decide (IsKey key)) = true) : ∀ item ∈ items, IsKey item.1 := by
  intro item member
  have listed : item.1 ∈ keys := same ▸ List.mem_map_of_mem member
  exact of_decide_eq_true (List.all_eq_true.mp valid item.1 listed)

variable (plain : Fits anyZone values)

include plain in
/-- A file of a role with the values of the role. -/
theorem renderQuadra_master (file : List Text) (known : (expandFile quadraMasterTable file).isSome = true)
    (ends : endsVisible (expanded quadraMasterTable file) = true) :
    renderQuadra file (quadraMasterCtx fun node => values (.ip node)) =
      .ok (valueText values (expanded quadraMasterTable file)) := by
  have keys : ∀ item ∈ quadraMasterCtx fun node => values (.ip node), IsKey item.1 :=
    isKey_of_keys (quadraMasterTable.map Prod.fst) rfl (by decide +kernel)
  have agrees := agrees_of_lookup plain (lookup_quadra quadraMacsecProfileMaster (text "Ethernet2")
    (text "10.255.0.6")) (by decide +kernel)
  exact renderQuadra_expanded keys agrees known ends

include plain in
theorem renderQuadra_slave (file : List Text) (known : (expandFile quadraSlaveTable file).isSome = true)
    (ends : endsVisible (expanded quadraSlaveTable file) = true) :
    renderQuadra file (quadraSlaveCtx fun node => values (.ip node)) =
      .ok (valueText values (expanded quadraSlaveTable file)) := by
  have keys : ∀ item ∈ quadraSlaveCtx fun node => values (.ip node), IsKey item.1 :=
    isKey_of_keys (quadraSlaveTable.map Prod.fst) rfl (by decide +kernel)
  have agrees := agrees_of_lookup plain (lookup_quadra quadraMacsecProfileSlave (text "Ethernet1")
    (text "10.255.0.5")) (by decide +kernel)
  exact renderQuadra_expanded keys agrees known ends

include plain in
theorem buildSubstitutions_eq {ceosImage mgmtSubnet mgmtIpv6Subnet : Text}
    (known : subnetValues mgmtSubnet mgmtIpv6Subnet = .ok values) :
    buildSubstitutions ceosImage mgmtSubnet mgmtIpv6Subnet =
      .ok (templateItems values ceosImage mgmtSubnet mgmtIpv6Subnet) := by
  have macsecMaster := renderQuadra_master plain quadraMacsecMasterTemplate (by decide +kernel)
    (by decide +kernel)
  have macsecSlave := renderQuadra_slave plain quadraMacsecSlaveTemplate (by decide +kernel)
    (by decide +kernel)
  have daemonMaster := renderQuadra_master plain quadraDaemonMasterTemplate (by decide +kernel)
    (by decide +kernel)
  have daemonSlave := renderQuadra_slave plain quadraDaemonSlaveTemplate (by decide +kernel)
    (by decide +kernel)
  rw [buildSubstitutions, known]
  simp only [Except.mapError, bind, Except.bind, macsecMaster, macsecSlave, daemonMaster, daemonSlave]
  rfl

theorem lookup_templateItems (ceosImage mgmtSubnet mgmtIpv6Subnet : Text) :
    ∀ entry ∈ templateTable, (templateItems values ceosImage mgmtSubnet mgmtIpv6Subnet).lookup entry.1 =
      some (valueText values entry.2) := by
  have acl : rstripNewlines (fileText controlPlaneAclTemplate) =
      valueText values (controlPlaneAclTemplate.map chars) := by
    have ends : endsVisible (controlPlaneAclTemplate.map chars) = true := by decide +kernel
    rw [← rstripNewlines_fileText values ends, List.map_map]
    simp [Function.comp_def]
  simp only [templateTable, List.forall_mem_cons, valueText_slot, ← acl]
  refine ⟨rfl, rfl, rfl, rfl, rfl, rfl, rfl, rfl, rfl, rfl, rfl, rfl, rfl, rfl, rfl, rfl, rfl, rfl,
    rfl, rfl, ?_⟩
  intro entry member
  cases member

theorem templateItems_keys (ceosImage mgmtSubnet mgmtIpv6Subnet : Text) :
    (templateItems values ceosImage mgmtSubnet mgmtIpv6Subnet).map Prod.fst = substitutionKeys := by
  simp only [templateItems, substitutionKeys, substitutionItems, List.map_cons, List.map_nil]

theorem isKey_templateItems (ceosImage mgmtSubnet mgmtIpv6Subnet : Text) :
    ∀ item ∈ templateItems values ceosImage mgmtSubnet mgmtIpv6Subnet, IsKey item.1 :=
  isKey_of_keys substitutionKeys (templateItems_keys ceosImage mgmtSubnet mgmtIpv6Subnet) (by decide +kernel)

variable (fits : Fits openZone values)

include fits in
theorem renderFile_expanded (ceosImage mgmtSubnet mgmtIpv6Subnet : Text) {file : List Text}
    (known : (expandFile templateTable file).isSome = true) :
    renderFile file (templateItems values ceosImage mgmtSubnet mgmtIpv6Subnet) =
      .ok (fileText ((expanded templateTable file).map (fill values))) := by
  have agrees := agrees_of_lookup fits (lookup_templateItems ceosImage mgmtSubnet mgmtIpv6Subnet)
    (by decide +kernel)
  exact renderFile_expandFile (isKey_templateItems _ _ _) agrees (expandFile_expanded known)

theorem renderConfigTemplates_of_ok {ceosImage mgmtSubnet mgmtIpv6Subnet : Text}
    {substitutions : List (Text × Text)}
    (built : buildSubstitutions ceosImage mgmtSubnet mgmtIpv6Subnet = .ok substitutions) :
    renderConfigTemplates ceosImage mgmtSubnet mgmtIpv6Subnet =
      templatePaths.mapM fun template => do
        return (template.1, ← renderFile template.2 substitutions) := by
  rw [renderConfigTemplates, built]
  rfl

include fits in
theorem mapM_renderFile (ceosImage mgmtSubnet mgmtIpv6Subnet : Text) {templates : List (Text × List Text)}
    (expands : templates.all (fun template => (expandFile templateTable template.2).isSome) = true) :
    templates.mapM (fun template => do
      return (template.1, ← renderFile template.2
        (templateItems values ceosImage mgmtSubnet mgmtIpv6Subnet))) =
      .ok (templates.map fun template =>
        (template.1, fileText ((expanded templateTable template.2).map (fill values)))) := by
  rw [PyJson.mapM_ok_iff, List.forall₂_map_right_iff, List.forall₂_same]
  intro template member
  rw [renderFile_expanded fits ceosImage mgmtSubnet mgmtIpv6Subnet
    (List.all_eq_true.mp expands template member)]
  rfl

include fits in
/-- Rendering succeeds for every pair of subnets whose values have no `$` in them. -/
theorem renderConfigTemplates_eq {ceosImage mgmtSubnet mgmtIpv6Subnet : Text}
    (known : subnetValues mgmtSubnet mgmtIpv6Subnet = .ok values) :
    renderConfigTemplates ceosImage mgmtSubnet mgmtIpv6Subnet = .ok (renderedFiles values) := by
  have expands : templatePaths.all (fun template => (expandFile templateTable template.2).isSome) = true := by
    decide +kernel
  rw [renderConfigTemplates_of_ok (buildSubstitutions_eq (fits_anyZone fits) known),
    mapM_renderFile fits ceosImage mgmtSubnet mgmtIpv6Subnet expands, renderedFiles]

include fits in
theorem writtenConfig_renderedFiles (ceos : Ceos) :
    writtenConfig (renderedFiles values) ceos =
      some (configText values (expanded templateTable (ceosTemplate ceos) ++ [[]])) := by
  have template : templatePaths.lookup (ceosOutput ceos) = some (ceosTemplate ceos) := by
    cases ceos <;> decide +kernel
  have written : (renderedFiles values).lookup (ceosOutput ceos) =
      some (configText values (expanded templateTable (ceosTemplate ceos) ++ [[]])) := by
    rw [renderedFiles, lookup_map fun file => fileText ((expanded templateTable file).map (fill values)),
      template, Option.map_some, fileText, configText, List.map_append]
    rfl
  have plain : (expanded templateTable (ceosTemplate ceos) ++ [[]]).all (lacks openZone '\r') = true := by
    cases ceos <;> decide +kernel
  have absent := notMem_configText fits (by decide) plain
  rw [writtenConfig, written, Option.map_some, universalNewlines_of_notMem absent]

end

end QuantumSafe.RenderTopo
