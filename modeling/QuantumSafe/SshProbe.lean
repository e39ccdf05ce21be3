import QuantumSafe.CeosContract
import QuantumSafe.LabelledWords

set_option autoImplicit false

/- `probe_ssh_pqc` of `lab/test_pqc_connections.py`, and what it reads from the
transcript with `lab/tls_wire.py`. -/
namespace QuantumSafe.SshProbe

open PyText PyRegex CeosContract

def kexLabel : Text := text "kex: algorithm:"
def cipherLabel : Text := text "cipher:"

def extractSshKex (output : Text) : Option Text := firstWord kexLabel output
def extractSshCipher (output : Text) : Option Text := firstWord cipherLabel output

/-- The `PqcConnectionError`s of the probe, with the values that their messages quote. -/
inductive SshProbeError where
  | exited (node mgmtIp detail : Text)
  | kex (node mgmtIp expected : Text) (kex cipher : Option Text)
  | cipher (node mgmtIp expected : Text) (cipher : Option Text)
  | hostname (node : Text)
deriving DecidableEq, Repr

/-- The result of `run_ssh_pqc_probe`. -/
structure SshResult where
  returncode : Int
  stdout : Text
  stderr : Text

def SshResult.output (result : SshResult) : Text := result.stdout ++ result.stderr

/-- `probe_ssh_pqc` on the result of the ssh command. -/
def probeSshPqc (node mgmtIp : Text) (result : SshResult) : Except SshProbeError Unit :=
  let output := result.output
  if result.returncode ≠ 0 then
    let stripped := strip output
    let detail := if stripped = [] then text "exit " ++ intText result.returncode else stripped
    .error (.exited node mgmtIp (detail.drop (detail.length - 500)))
  else
    let kex := extractSshKex output
    let cipher := extractSshCipher output
    if kex ≠ some sshPqcKex then .error (.kex node mgmtIp sshPqcKex kex cipher)
    else if cipher ≠ some sshPqcCiphers then .error (.cipher node mgmtIp sshPqcCiphers cipher)
    else if !contains node output then .error (.hostname node)
    else .ok ()

def directions : List Text := [text "server->client", text "client->server"]

/-- A line of the transcript with `kex: algorithm:` behind a given text. -/
def KexLine (output line before : Text) : Prop :=
  line ∈ splitlines output ∧ ∃ rest, line = before ++ (kexLabel ++ rest)

/-- A line `kex: <direction> cipher: <word>` of the transcript. -/
def CipherLine (output word : Text) : Prop :=
  ∃ line ∈ splitlines output, ∃ direction ∈ directions,
    ∃ before, WordAt (text "kex: " ++ direction ++ text " " ++ cipherLabel) line before word

/-- An accepted transcript has the required algorithms on all of its lines. -/
structure AllNegotiated (node mgmtIp : Text) (result : SshResult) : Prop where
  kex : probeSshPqc node mgmtIp result = .ok () →
    ∀ line before, KexLine result.output line before → WordAt kexLabel line before sshPqcKex
  cipher : probeSshPqc node mgmtIp result = .ok () →
    ∀ word, CipherLine result.output word → word = sshPqcCiphers

/-- What makes the probe refuse a result. -/
inductive Refused (node : Text) (result : SshResult) : Prop
  | exited (failed : result.returncode ≠ 0)
  | kex (other : ¬ FirstWord kexLabel result.output sshPqcKex)
  | cipher (other : ¬ FirstWord cipherLabel result.output sshPqcCiphers)
  | hostname (absent : contains node result.output = false)

/-- Every negotiation line agrees with the first of its kind. -/
structure Uniform (output : Text) : Prop where
  kex : ∀ line before, KexLine output line before →
    ∃ word, WordAt kexLabel line before word ∧ FirstWord kexLabel output word
  cipher : ∀ word, CipherLine output word → FirstWord cipherLabel output word

variable {node mgmtIp : Text} {result : SshResult}

theorem probeSshPqc_ok :
    probeSshPqc node mgmtIp result = .ok () ↔
      result.returncode = 0 ∧ FirstWord kexLabel result.output sshPqcKex ∧
        FirstWord cipherLabel result.output sshPqcCiphers ∧ contains node result.output = true := by
  simp only [← firstWord_iff]
  unfold probeSshPqc extractSshKex extractSshCipher
  by_cases exits : result.returncode = 0
  · by_cases kex : firstWord kexLabel result.output = some sshPqcKex
    · by_cases cipher : firstWord cipherLabel result.output = some sshPqcCiphers
      · by_cases host : contains node result.output = true <;> simp [exits, kex, cipher, host]
      · simp [exits, kex, cipher]
    · simp [exits, kex]
  · simp [exits]

theorem refused_iff : Refused node result ↔ probeSshPqc node mgmtIp result ≠ .ok () := by
  rw [Ne, probeSshPqc_ok]
  constructor
  · rintro refused ⟨exits, kex, cipher, host⟩
    cases refused with
    | exited failed => exact failed exits
    | kex other => exact other kex
    | cipher other => exact other cipher
    | hostname absent => simp [absent] at host
  · intro refused
    rw [not_and_or, not_and_or, not_and_or, Bool.not_eq_true] at refused
    rcases refused with failed | kex | cipher | absent
    · exact .exited failed
    · exact .kex kex
    · exact .cipher cipher
    · exact .hostname absent

/-- The probe is right exactly on the results that it refuses, and on those whose
negotiation lines all agree with the first ones. -/
theorem allNegotiated_iff :
    AllNegotiated node mgmtIp result ↔ Refused node result ∨ Uniform result.output := by
  by_cases accepted : probeSshPqc node mgmtIp result = .ok ()
  · obtain ⟨-, kex, cipher, -⟩ := probeSshPqc_ok.mp accepted
    have open_ : ¬ Refused node result := fun refused => refused_iff.mp refused accepted
    rw [or_iff_right open_]
    constructor
    · intro all
      refine ⟨fun line before named => ?_, fun word named => ?_⟩
      · exact ⟨sshPqcKex, all.kex accepted line before named, kex⟩
      · rw [all.cipher accepted word named]
        exact cipher
    · intro uniform
      refine ⟨fun _ line before named => ?_, fun _ word named => ?_⟩
      · obtain ⟨word, here, first⟩ := uniform.kex line before named
        exact firstWord_unique first kex ▸ here
      · exact firstWord_unique (uniform.cipher word named) cipher
  · have vacuous : AllNegotiated node mgmtIp result :=
      ⟨fun accepted' => absurd accepted' accepted, fun accepted' => absurd accepted' accepted⟩
    exact iff_of_true vacuous (Or.inl (refused_iff.mpr accepted))

/-- One direction negotiates another cipher. -/
def mixedCiphers : SshResult where
  returncode := 0
  stdout := text "\x7b\"hostname\":\"ceos1-both\"\x7d\n"
  stderr := text "debug1: kex: algorithm: mlkem768x25519-sha256\n" ++
    text "debug1: kex: server->client cipher: aes256-gcm@openssh.com MAC: <implicit>\n" ++
    text "debug1: kex: client->server cipher: chacha20-poly1305@openssh.com MAC: <implicit>\n"

theorem not_allNegotiated_mixedCiphers :
    ¬ AllNegotiated (text "ceos1-both") (text "172.20.127.11") mixedCiphers := by
  intro all
  let line := text "debug1: kex: client->server cipher: chacha20-poly1305@openssh.com MAC: <implicit>"
  have stops : Regex.Stops nonSpace (text " MAC: <implicit>") := by
    intro c head
    cases head
    decide
  have named : CipherLine mixedCiphers.output (text "chacha20-poly1305@openssh.com") := by
    refine ⟨line, by decide +kernel, text "client->server", by decide, text "debug1: ", ?_⟩
    exact ⟨_, rfl, text " ", text " MAC: <implicit>", rfl, List.all_eq_true.mp (by decide), by decide,
      List.all_eq_true.mp (by decide), stops⟩
  have same := all.cipher (by decide +kernel) _ named
  exact absurd same (by decide)

end QuantumSafe.SshProbe
