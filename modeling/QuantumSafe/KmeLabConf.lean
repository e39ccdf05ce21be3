import QuantumSafe.CeosContract
import QuantumSafe.KmeSaeClient
import QuantumSafe.MgmtAddresses
import QuantumSafe.PyInt
import QuantumSafe.PyPath

set_option autoImplicit false

/- The settings file of the lab SAE client: `render_kme_lab_conf` of `lab/render_topo.py`
writes it, `load_radius_config` of `lab/kme_sae_client.py` reads it. -/
namespace QuantumSafe.KmeLabConf

open PyText PyPath PyInt PyIpAddress CeosContract KmeSaeClient Reports

/-- The text files of a file system. -/
abbrev Files := PosixPath → Option Text

def kmeKeySize : Nat := 32

/-- `f"{name}={value}"`. -/
def settingLine (setting : Text × Text) : Text := setting.1 ++ '=' :: setting.2

def pkiDir (repoRoot : PosixPath) : PosixPath :=
  ((repoRoot.div (text "lab")).div (text ".gen")).div (text "kme-pki")

def labConfPath (repoRoot : PosixPath) : PosixPath :=
  ((repoRoot.div (text "lab")).div (text ".gen")).div (text "kme-lab.conf")

def labConfHeader : Text :=
  text "# Generated by make gen-topo — ETSI QKD 014 endpoints for lab SAE client"

def labSettings (repoRoot : PosixPath) (ips : LabNode → Text) : List (Text × Text) :=
  [ (text "KME_A_HOST", ips .kmeA),
    (text "KME_A_PORT", natText kmeAPort),
    (text "KME_B_HOST", ips .kmeB),
    (text "KME_B_PORT", natText kmeBPort),
    (text "MASTER_SAE_ID", kmeSaeId),
    (text "SLAVE_SAE_ID", kmeBSaeId),
    (text "KEY_SIZE", natText kmeKeySize),
    (text "MASTER_CERT", ((pkiDir repoRoot).div (text "sae.crt.pem")).str),
    (text "MASTER_KEY", ((pkiDir repoRoot).div (text "sae.key.pem")).str),
    (text "SLAVE_CERT", ((pkiDir repoRoot).div (text "sae-b.crt.pem")).str),
    (text "SLAVE_KEY", ((pkiDir repoRoot).div (text "sae-b.key.pem")).str),
    (text "CA_CERT", ((pkiDir repoRoot).div (text "ca.crt.pem")).str) ]

def labConfText (repoRoot : PosixPath) (ips : LabNode → Text) : Text :=
  join ['\n'] ([labConfHeader] ++ (labSettings repoRoot ips).map settingLine ++ [[]])

/-- `render_kme_lab_conf`: the files afterwards and the path that is returned. -/
def renderKmeLabConf (files : Files) (repoRoot : PosixPath) (mgmtSubnet : Text) :
    Except AddressError (Files × PosixPath) := do
  let ips ← mgmtIpsForSubnet (some mgmtSubnet)
  let outPath := labConfPath repoRoot
  return (fun path => if path = outPath then some (labConfText repoRoot ips) else files path, outPath)

/-- `line.partition("=")`, without the separator. -/
def partition (line : Text) : Text × Text := (cut ['='] line).getD (line, [])

/-- The body of the loop of `load_radius_config`; later settings come first. -/
def readLine (values : List (Text × Text)) (rawLine : Text) : List (Text × Text) :=
  let line := strip rawLine
  if line.isEmpty || startswith line ['#'] then values
  else (strip (partition line).1, strip (partition line).2) :: values

def required : List Text :=
  [ text "KME_A_HOST", text "KME_A_PORT", text "KME_B_HOST", text "KME_B_PORT",
    text "MASTER_SAE_ID", text "SLAVE_SAE_ID", text "KEY_SIZE", text "MASTER_CERT",
    text "MASTER_KEY", text "SLAVE_CERT", text "SLAVE_KEY", text "CA_CERT" ]

/-- `KmeRadiusConfig.from_mapping`. A path stands in the record with its text. -/
def fromMapping (values : List (Text × Text)) : Except Failure KmeRadiusConfig :=
  let get := fun name => (values.lookup name).getD []
  let missing := required.filter fun name => (get name).isEmpty
  if missing ≠ [] then fail (text "missing config keys: " ++ join (text ", ") missing)
  else
    match parseInt (get (text "KME_A_PORT")), parseInt (get (text "KME_B_PORT")),
      parseInt (get (text "KEY_SIZE")) with
    | some kmeAPort, some kmeBPort, some keySize => .ok
        { kmeAHost := get (text "KME_A_HOST")
          kmeAPort := kmeAPort
          kmeBHost := get (text "KME_B_HOST")
          kmeBPort := kmeBPort
          masterSaeId := get (text "MASTER_SAE_ID")
          slaveSaeId := get (text "SLAVE_SAE_ID")
          keySize := keySize
          masterCert := (PosixPath.ofText (get (text "MASTER_CERT"))).str
          masterKey := (PosixPath.ofText (get (text "MASTER_KEY"))).str
          slaveCert := (PosixPath.ofText (get (text "SLAVE_CERT"))).str
          slaveKey := (PosixPath.ofText (get (text "SLAVE_KEY"))).str
          caCert := (PosixPath.ofText (get (text "CA_CERT"))).str }
    | _, _, _ => .error .uncaught

/-- `load_radius_config`, in the repository at `repo`. -/
def loadRadiusConfig (repo : PosixPath) (files : Files) (path : Option PosixPath) :
    Except Failure KmeRadiusConfig :=
  let configPath := path.getD (labConfPath repo)
  match files configPath with
  | none => fail (text "KME config not found: " ++ configPath.str)
  | some content => fromMapping ((splitlines (universalNewlines content)).foldl readLine [])

/- A settings file is read back line by line -/

/-- A text that `strip` leaves alone and that is not empty. -/
structure Trimmed (s : Text) : Prop where
  filled : s ≠ []
  front : ∀ c, s.head? = some c → isSpace c = false
  back : ∀ c, s.getLast? = some c → isSpace c = false

theorem Trimmed.strip_eq {s : Text} (trimmed : Trimmed s) : strip s = s :=
  strip_eq_self trimmed.front trimmed.back

theorem trimmed_of_visible {s : Text} (filled : s ≠ []) (visible : ∀ c ∈ s, isSpace c = false) :
    Trimmed s :=
  ⟨filled, fun c head => visible c (List.mem_of_head? head),
    fun c last => visible c (List.mem_of_getLast? last)⟩

/-- A setting whose line is read back. -/
structure PlainSetting (setting : Text × Text) : Prop where
  name : Trimmed setting.1
  noEquals : '=' ∉ setting.1
  notComment : setting.1.head? ≠ some '#'
  value : Trimmed setting.2
  unbroken : Unbroken (settingLine setting)

theorem partition_settingLine {setting : Text × Text} (noEquals : '=' ∉ setting.1) :
    partition (settingLine setting) = setting := by
  have passed := cut_passed ['='] setting.1 ('=' :: setting.2) (by
    intro after filled suffix start
    obtain ⟨c, rest, split⟩ := List.exists_cons_of_ne_nil filled
    rw [split, List.cons_append, List.cons_prefix_cons] at start
    have member : c ∈ setting.1 := suffix.subset (split ▸ List.mem_cons_self)
    exact noEquals (start.1 ▸ member))
  have here : cut ['='] ('=' :: setting.2) = some ([], setting.2) := by
    simp [cut, List.isPrefixOf]
  rw [partition, settingLine, passed, here, Option.map_some, Option.getD_some, List.append_nil]

theorem trimmed_settingLine {setting : Text × Text} (name : Trimmed setting.1)
    (value : Trimmed setting.2) : Trimmed (settingLine setting) := by
  obtain ⟨c, rest, split⟩ := List.exists_cons_of_ne_nil name.filled
  refine ⟨?_, ?_, ?_⟩
  · rw [settingLine, split]
    exact List.cons_ne_nil _ _
  · intro d head
    rw [settingLine, split] at head
    apply name.front d
    rw [split]
    exact head
  · intro d last
    apply value.back d
    rw [← last, settingLine, ← List.singleton_append, ← List.append_assoc,
      List.getLast?_append_of_ne_nil _ value.filled]

theorem readLine_settingLine (values : List (Text × Text)) {setting : Text × Text}
    (plain : PlainSetting setting) : readLine values (settingLine setting) = setting :: values := by
  have line := trimmed_settingLine plain.name plain.value
  obtain ⟨c, rest, split⟩ := List.exists_cons_of_ne_nil plain.name.filled
  have shown : ((settingLine setting).isEmpty || startswith (settingLine setting) ['#']) = false := by
    have other : c ≠ '#' := by
      intro same
      apply plain.notComment
      rw [split, same]
      rfl
    rw [settingLine, split]
    simp [startswith, List.isPrefixOf, Ne.symm other]
  rw [readLine, line.strip_eq, shown, partition_settingLine plain.noEquals, plain.name.strip_eq, plain.value.strip_eq]
  rfl

theorem foldl_readLine (values settings : List (Text × Text))
    (plain : ∀ setting ∈ settings, PlainSetting setting) :
    (settings.map settingLine).foldl readLine values = settings.reverse ++ values := by
  induction settings generalizing values with
  | nil => rfl
  | cons setting settings ih =>
      rw [List.map_cons, List.foldl_cons, readLine_settingLine values (plain setting List.mem_cons_self),
        ih _ fun later member => plain later (List.mem_cons_of_mem setting member),
        List.reverse_cons, List.append_assoc]
      rfl

/-- The lines of a file that starts with a comment and ends in a line feed. -/
theorem readSettings {header : Text} {settings : List (Text × Text)} (unbroken : Unbroken header)
    (skipped : readLine [] header = []) (plain : ∀ setting ∈ settings, PlainSetting setting) :
    (splitlines (universalNewlines (join ['\n'] ([header] ++ settings.map settingLine ++ [[]])))).foldl
      readLine [] = settings.reverse := by
  have lines : ∀ line ∈ [header] ++ settings.map settingLine, Unbroken line := by
    intro line member
    rcases List.mem_append.mp member with first | later
    · rw [List.mem_singleton.mp first]
      exact unbroken
    · obtain ⟨setting, inside, same⟩ := List.mem_map.mp later
      rw [← same]
      exact (plain setting inside).unbroken
  have noReturn : '\r' ∉ join ['\n'] ([header] ++ settings.map settingLine ++ [[]]) := by
    intro member
    rcases mem_join member with separator | ⟨line, inside, member⟩
    · exact absurd (List.mem_singleton.mp separator) (by decide)
    · rcases List.mem_append.mp inside with shown | last
      · exact absurd (lines line shown '\r' member) (by decide)
      · rw [List.mem_singleton.mp last] at member
        cases member
  rw [universalNewlines_of_notMem noReturn]
  have split := splitlines_unlines ([header] ++ settings.map settingLine) lines
  rw [unlines] at split
  rw [split, List.singleton_append, List.foldl_cons, skipped, foldl_readLine [] settings plain,
    List.append_nil]

/- What the lab writes -/

/-- The characters of an address without a zone id. -/
theorem isSpace_addressChar {c : Char} (shown : isHexDigit c = true ∨ c = ':' ∨ c = '.') :
    isSpace c = false := by
  rcases shown with digit | colon | dot
  · exact isSpace_hexDigit digit
  · rw [colon]
    decide
  · rw [dot]
    decide

/-- A sum has no zone id. -/
theorem mem_str_add {address sum : Address} {offset : Nat} (added : address.add offset = .ok sum) :
    sum.str ≠ [] ∧ ∀ c ∈ sum.str, isHexDigit c = true ∨ c = ':' ∨ c = '.' := by
  cases address with
  | v4 address =>
      obtain ⟨host, -, rfl⟩ := map_ok_iff.mp added
      constructor
      · intro empty
        have read := parseIPv4_str host
        rw [show host.str = [] from empty] at read
        cases read
      · intro c member
        rcases mem_str_v4 host member with digit | dot
        · exact Or.inl (isHexDigit_of_isDigit digit)
        · exact Or.inr (Or.inr dot)
  | v6 address =>
      obtain ⟨host, shown⟩ := add_v6_digits added
      rw [shown]
      refine ⟨List.ne_nil_of_mem (colon_mem_digits host), ?_⟩
      intro c member
      rcases mem_digits host member with digit | colon
      · exact Or.inl digit
      · exact Or.inr (Or.inl colon)

/-- The characters of a setting's name. -/
def isNameChar (c : Char) : Bool := !isSpace c && c != '=' && c != '#'

theorem required_names : required.all (fun name => !name.isEmpty && name.all isNameChar) = true := by
  decide

theorem plainSetting {name value : Text} (known : name ∈ required) (trimmed : Trimmed value)
    (unbroken : Unbroken value) : PlainSetting (name, value) := by
  have checked := List.all_eq_true.mp required_names name known
  rw [Bool.and_eq_true, Bool.not_eq_true', List.isEmpty_eq_false_iff] at checked
  have chars : ∀ c ∈ name, (isSpace c = false ∧ c ≠ '=') ∧ c ≠ '#' := by
    intro c member
    have plain := List.all_eq_true.mp checked.2 c member
    rwa [isNameChar, Bool.and_eq_true, Bool.and_eq_true, Bool.not_eq_true', bne_iff_ne,
      bne_iff_ne] at plain
  have visible : ∀ c ∈ name, isSpace c = false := fun c member => (chars c member).1.1
  have equals : Unbroken ['='] := unbroken_of_visible (visible_of_all (by decide))
  refine ⟨trimmed_of_visible checked.1 visible, ?_, ?_, trimmed, ?_⟩
  · intro member
    exact (chars '=' member).1.2 rfl
  · intro head
    exact (chars '#' (List.mem_of_head? head)).2 rfl
  · exact unbroken_append (unbroken_of_visible visible) (unbroken_append equals unbroken)

theorem plainSetting_of_visible {name value : Text} (known : name ∈ required) (filled : value ≠ [])
    (visible : ∀ c ∈ value, isSpace c = false) : PlainSetting (name, value) :=
  plainSetting known (trimmed_of_visible filled visible) (unbroken_of_visible visible)

theorem absolute_pkiDir {repoRoot : PosixPath} (absolute : repoRoot.IsAbsolute) :
    (pkiDir repoRoot).IsAbsolute :=
  PosixPath.absolute_div (PosixPath.absolute_div (PosixPath.absolute_div absolute (by decide))
    (by decide)) (by decide)

theorem unbroken_div {path : PosixPath} (absolute : path.IsAbsolute) (unbroken : Unbroken path.str)
    {name : Text} (plain : IsName name) (fine : Unbroken name) : Unbroken (path.div name).str := by
  intro c member
  exact (PosixPath.mem_str_div absolute plain member).elim (unbroken c) (fine c)

theorem unbroken_pkiDir {repoRoot : PosixPath} (absolute : repoRoot.IsAbsolute)
    (unbroken : Unbroken repoRoot.str) : Unbroken (pkiDir repoRoot).str := by
  have lab := PosixPath.absolute_div absolute (show IsName (text "lab") by decide)
  have gen := PosixPath.absolute_div lab (show IsName (text ".gen") by decide)
  have inLab := unbroken_div absolute unbroken (show IsName (text "lab") by decide)
    (unbroken_of_visible (visible_of_all (by decide)))
  have inGen := unbroken_div lab inLab (show IsName (text ".gen") by decide)
    (unbroken_of_visible (visible_of_all (by decide)))
  exact unbroken_div gen inGen (by decide) (unbroken_of_visible (visible_of_all (by decide)))

/-- A file of the PKI directory: whatever stands inside the path, its text starts with
a slash and ends as the file's name does. -/
theorem plainSetting_path {repoRoot : PosixPath} {name file : Text} (known : name ∈ required)
    (absolute : repoRoot.IsAbsolute) (unbroken : Unbroken repoRoot.str) (plain : IsName file)
    (visible : ∀ c ∈ file, isSpace c = false) :
    PlainSetting (name, ((pkiDir repoRoot).div file).str) := by
  have head := PosixPath.head?_str (PosixPath.absolute_div (absolute_pkiDir absolute) plain)
  have last := PosixPath.getLast?_str_div (absolute_pkiDir absolute) plain
  apply plainSetting known
  · refine ⟨List.ne_nil_of_mem (List.mem_of_head? head), ?_, ?_⟩
    · intro c first
      rw [head] at first
      cases first
      decide
    · intro c final
      rw [last] at final
      exact visible c (List.mem_of_getLast? final)
  · exact unbroken_div (absolute_pkiDir absolute) (unbroken_pkiDir absolute unbroken) plain
      (unbroken_of_visible visible)

theorem plainSetting_host {mgmtSubnet name : Text} {suffix : Nat} {host : Text}
    (known : name ∈ required) (ok : mgmtIp (some mgmtSubnet) suffix = .ok host) :
    PlainSetting (name, host) := by
  obtain ⟨network, -, ok⟩ := bind_ok_iff.mp ok
  obtain ⟨sum, added, same⟩ := bind_ok_iff.mp ok
  cases same
  obtain ⟨filled, shown⟩ := mem_str_add added
  exact plainSetting_of_visible known filled fun c member => isSpace_addressChar (shown c member)

theorem labSettings_plain {repoRoot : PosixPath} {mgmtSubnet : Text} {ips : LabNode → Text}
    (absolute : repoRoot.IsAbsolute) (unbroken : Unbroken repoRoot.str)
    (accepted : mgmtIpsForSubnet (some mgmtSubnet) = .ok ips) :
    ∀ setting ∈ labSettings repoRoot ips, PlainSetting setting := by
  have host := fun node : LabNode => forEveryNode_ok accepted node
  intro setting member
  simp only [labSettings, List.mem_cons, List.not_mem_nil, or_false] at member
  rcases member with
    same | same | same | same | same | same | same | same | same | same | same | same <;> rw [same]
  · exact plainSetting_host (by decide) (host .kmeA)
  · exact plainSetting_of_visible (by decide) (by decide) (visible_of_all (by decide))
  · exact plainSetting_host (by decide) (host .kmeB)
  · exact plainSetting_of_visible (by decide) (by decide) (visible_of_all (by decide))
  · exact plainSetting_of_visible (by decide) (by decide) (visible_of_all (by decide))
  · exact plainSetting_of_visible (by decide) (by decide) (visible_of_all (by decide))
  · exact plainSetting_of_visible (by decide) (by decide) (visible_of_all (by decide))
  all_goals
    exact plainSetting_path (by decide) absolute unbroken (by decide) (visible_of_all (by decide))

theorem get_ne_nil {settings : List (Text × Text)} (plain : ∀ setting ∈ settings, PlainSetting setting)
    {name : Text} (known : name ∈ settings.map Prod.fst) :
    ¬ ((settings.reverse.lookup name).getD []).isEmpty = true := by
  cases found : settings.reverse.lookup name with
  | none =>
      obtain ⟨setting, member, same⟩ := List.mem_map.mp known
      have other := List.lookup_eq_none_iff.mp found setting (List.mem_reverse.mpr member)
      rw [same] at other
      simp at other
  | some value =>
      obtain ⟨before, after, split, -⟩ := List.lookup_eq_some_iff.mp found
      have member : (name, value) ∈ settings := by
        rw [← List.mem_reverse, split]
        exact List.mem_append_right before List.mem_cons_self
      rw [Option.getD_some, List.isEmpty_iff]
      exact (plain (name, value) member).value.filled

theorem unbroken_labConfHeader : Unbroken labConfHeader := by
  have plain : labConfHeader.all (fun c => !isLineBreak c) = true := by decide
  intro c member
  simpa using List.all_eq_true.mp plain c member

theorem fromMapping_labSettings {repoRoot : PosixPath} {ips : LabNode → Text}
    (plain : ∀ setting ∈ labSettings repoRoot ips, PlainSetting setting) :
    fromMapping (labSettings repoRoot ips).reverse = .ok
      { kmeAHost := ips .kmeA
        kmeAPort := kmeAPort
        kmeBHost := ips .kmeB
        kmeBPort := kmeBPort
        masterSaeId := kmeSaeId
        slaveSaeId := kmeBSaeId
        keySize := kmeKeySize
        masterCert := ((pkiDir repoRoot).div (text "sae.crt.pem")).str
        masterKey := ((pkiDir repoRoot).div (text "sae.key.pem")).str
        slaveCert := ((pkiDir repoRoot).div (text "sae-b.crt.pem")).str
        slaveKey := ((pkiDir repoRoot).div (text "sae-b.key.pem")).str
        caCert := ((pkiDir repoRoot).div (text "ca.crt.pem")).str } := by
  have complete : required.filter (fun name =>
      (((labSettings repoRoot ips).reverse.lookup name).getD []).isEmpty) = [] := by
    rw [List.filter_eq_nil_iff]
    intro name known
    exact get_ne_nil plain known
  have port : ∀ {name : Text} {value : Nat},
      (labSettings repoRoot ips).reverse.lookup name = some (natText value) →
      parseInt (natText value) = some (value : Int) →
      parseInt (((labSettings repoRoot ips).reverse.lookup name).getD []) = some (value : Int) := by
    intro name value found read
    rw [found]
    exact read
  have portA : parseInt (((labSettings repoRoot ips).reverse.lookup (text "KME_A_PORT")).getD []) =
      some (kmeAPort : Int) := port rfl (by decide +kernel)
  have portB : parseInt (((labSettings repoRoot ips).reverse.lookup (text "KME_B_PORT")).getD []) =
      some (kmeBPort : Int) := port rfl (by decide +kernel)
  have size : parseInt (((labSettings repoRoot ips).reverse.lookup (text "KEY_SIZE")).getD []) =
      some (kmeKeySize : Int) := port rfl (by decide +kernel)
  have path : ∀ {name : Text} {path : PosixPath},
      (labSettings repoRoot ips).reverse.lookup name = some path.str →
      (PosixPath.ofText (((labSettings repoRoot ips).reverse.lookup name).getD [])).str = path.str := by
    intro name path found
    rw [found, Option.getD_some, path.ofText_str]
  have masterCert := path (show (labSettings repoRoot ips).reverse.lookup (text "MASTER_CERT") =
    some ((pkiDir repoRoot).div (text "sae.crt.pem")).str from rfl)
  have masterKey := path (show (labSettings repoRoot ips).reverse.lookup (text "MASTER_KEY") =
    some ((pkiDir repoRoot).div (text "sae.key.pem")).str from rfl)
  have slaveCert := path (show (labSettings repoRoot ips).reverse.lookup (text "SLAVE_CERT") =
    some ((pkiDir repoRoot).div (text "sae-b.crt.pem")).str from rfl)
  have slaveKey := path (show (labSettings repoRoot ips).reverse.lookup (text "SLAVE_KEY") =
    some ((pkiDir repoRoot).div (text "sae-b.key.pem")).str from rfl)
  have caCert := path (show (labSettings repoRoot ips).reverse.lookup (text "CA_CERT") =
    some ((pkiDir repoRoot).div (text "ca.crt.pem")).str from rfl)
  rw [fromMapping, complete]
  dsimp only
  rw [if_neg (not_not_intro rfl), portA, portB, size, masterCert, masterKey, slaveCert, slaveKey,
    caCert]
  rfl

/-- The reader gives back what the writer was given, for every path of the repository. -/
theorem loadRadiusConfig_renderKmeLabConf (repo : PosixPath) (files : Files) {repoRoot : PosixPath}
    {mgmtSubnet : Text} {ips : LabNode → Text} (absolute : repoRoot.IsAbsolute)
    (unbroken : Unbroken repoRoot.str) (accepted : mgmtIpsForSubnet (some mgmtSubnet) = .ok ips) :
    ∃ written outPath, renderKmeLabConf files repoRoot mgmtSubnet = .ok (written, outPath) ∧
      loadRadiusConfig repo written (some outPath) = .ok
        { kmeAHost := ips .kmeA
          kmeAPort := kmeAPort
          kmeBHost := ips .kmeB
          kmeBPort := kmeBPort
          masterSaeId := kmeSaeId
          slaveSaeId := kmeBSaeId
          keySize := kmeKeySize
          masterCert := ((pkiDir repoRoot).div (text "sae.crt.pem")).str
          masterKey := ((pkiDir repoRoot).div (text "sae.key.pem")).str
          slaveCert := ((pkiDir repoRoot).div (text "sae-b.crt.pem")).str
          slaveKey := ((pkiDir repoRoot).div (text "sae-b.key.pem")).str
          caCert := ((pkiDir repoRoot).div (text "ca.crt.pem")).str } := by
  have plain := labSettings_plain absolute unbroken accepted
  have read := readSettings unbroken_labConfHeader (by decide) plain
  refine ⟨fun path => if path = labConfPath repoRoot then some (labConfText repoRoot ips) else files path,
    labConfPath repoRoot, ?_, ?_⟩
  · rw [renderKmeLabConf, accepted]
    rfl
  · rw [loadRadiusConfig, Option.getD_some, if_pos rfl]
    dsimp only
    rw [labConfText, read]
    exact fromMapping_labSettings plain

/-- A repository under a directory whose name has every character that the reader treats
specially. -/
theorem loadRadiusConfig_renderKmeLabConf_special :
    ∃ written outPath config,
      renderKmeLabConf (fun _ => none) (PosixPath.ofText (text "/srv/# a=b ")) (text "10.0.0.0/8") =
        .ok (written, outPath) ∧
      loadRadiusConfig (PosixPath.ofText (text "/srv")) written (some outPath) = .ok config ∧
      config.kmeBHost = text "10.0.0.52" ∧
      config.masterCert = text "/srv/# a=b /lab/.gen/kme-pki/sae.crt.pem" := by
  have v4 : ipNetwork (subnetOr defaultMgmtSubnet (some (text "10.0.0.0/8"))) =
      .ok ⟨.v4 ⟨0x0a000000, by decide⟩, 8⟩ := by
    decide +kernel
  have unbroken : Unbroken (PosixPath.ofText (text "/srv/# a=b ")).str := by
    have plain : (PosixPath.ofText (text "/srv/# a=b ")).str.all (fun c => !isLineBreak c) = true := by
      decide +kernel
    intro c member
    simpa using List.all_eq_true.mp plain c member
  obtain ⟨written, outPath, rendered, loaded⟩ :=
    loadRadiusConfig_renderKmeLabConf (PosixPath.ofText (text "/srv")) (fun _ => none)
      (show (PosixPath.ofText (text "/srv/# a=b ")).IsAbsolute by unfold PosixPath.IsAbsolute; decide)
      unbroken (mgmtIpsForSubnet_of_lt v4 (by decide))
  exact ⟨written, outPath, _, rendered, loaded, by decide +kernel, by decide +kernel⟩

end QuantumSafe.KmeLabConf
