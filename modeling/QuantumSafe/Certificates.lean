import QuantumSafe.PyText

set_option autoImplicit false

/- Certificates, their PEM files and the extension configurations they are made
with. -/
namespace Openssl

open PyText

/-- `extensions` is the text of the extension configuration it was made with;
`signer` is the key that signed it. -/
structure Certificate where
  subject : Text
  key : Nat
  signer : Nat
  extensions : Text

/-- What a PEM block carries. Keys are numbered. -/
inductive Object where
  | privateKey (key : Nat)
  | request (subject : Text) (key : Nat)
  | certificate (certificate : Certificate)

/-- A PEM encoding: blocks can be read one after another from the front of a
text, and each ends its last line. -/
structure Pem where
  encode : Object → Text
  read : Text → Option (Object × Text)
  read_encode : ∀ object rest, read (encode object ++ rest) = some (object, rest)
  ends : ∀ object, ∃ front last, encode object = front ++ [last, '\n'] ∧ isSpace last = false

/-- The first block of a file. -/
def Pem.held (pem : Pem) (file : Option Text) : Option Object :=
  file.bind fun content => (pem.read content).map Prod.fst

theorem Pem.held_encode (pem : Pem) (object : Object) :
    pem.held (some (pem.encode object)) = some object := by
  have whole := pem.read_encode object []
  rw [List.append_nil] at whole
  simp [Pem.held, whole]

/-- `text.rstrip() + "\n"` gives a PEM block back. -/
theorem Pem.rstrip_line (pem : Pem) (object : Object) :
    rstrip (pem.encode object) ++ text "\n" = pem.encode object := by
  obtain ⟨front, last, shape, visible⟩ := pem.ends object
  have newline : isSpace '\n' = true := by decide
  rw [shape, rstrip, show front ++ [last, '\n'] = front ++ [last] ++ ['\n'] by simp,
    List.rdropWhile_concat_pos _ _ _ newline, List.rdropWhile_concat_neg _ _ _ (by simp [visible])]
  rfl

/-- The comma-separated values of one extension. -/
def extensionValues (extensions name : Text) : List Text :=
  match (splitlines extensions).find? fun line => strip (splitHead (text "=") line) == name with
  | some line => ((splitTail (text "=") line).splitOn ',').map strip
  | none => []

/-- Entries of a subjectAltName. -/
def ipEntry (ip : Text) : Text := text "IP:" ++ ip

def dnsEntry (name : Text) : Text := text "DNS:" ++ name

def entryIp (value : Text) : Option Text :=
  if startswith value (text "IP:") then some (value.drop 3) else none

/-- The addresses that a certificate is valid for. -/
def Certificate.ips (certificate : Certificate) : List Text :=
  (extensionValues certificate.extensions (text "subjectAltName")).filterMap entryIp

def Certificate.CertSign (certificate : Certificate) : Prop :=
  text "keyCertSign" ∈ extensionValues certificate.extensions (text "keyUsage")

/-- A value that needs no quoting in an extension configuration. -/
def Solid (value : Text) : Prop := ∀ c ∈ value, c ≠ ',' ∧ isSpace c = false

/-- The text of an IP address, as far as openssl and the programs split it. -/
abbrev IpText := { ip : Text // ip ≠ [] ∧ Solid ip }

theorem solid_of_all {value : Text} (all : (value.all fun c => c != ',' && !isSpace c) = true) :
    Solid value := by
  intro c inside
  simpa using List.all_eq_true.mp all c inside

theorem Solid.append {first second : Text} (solid : Solid first) (also_ : Solid second) :
    Solid (first ++ second) := by
  intro c inside
  rcases List.mem_append.mp inside with here | later
  · exact solid c here
  · exact also_ c later

theorem strip_solid {value : Text} (solid : Solid value) : strip value = value :=
  strip_eq_self (fun c first => (solid c (List.mem_of_head? first)).2)
    fun c last => (solid c (List.mem_of_getLast? last)).2

theorem strip_space_solid {value : Text} (solid : Solid value) : strip (' ' :: value) = value := by
  have space : isSpace ' ' = true := by decide
  have front : lstrip (' ' :: value) = lstrip value := by simp [lstrip, space]
  rw [strip, front]
  exact strip_solid solid

theorem Solid.notMem_comma {value : Text} (solid : Solid value) : ',' ∉ value :=
  fun inside => (solid ',' inside).1 rfl

theorem unbroken_of_solid {value : Text} (solid : Solid value) : Unbroken value := by
  intro c inside
  have visible := (solid c inside).2
  rw [Bool.eq_false_iff]
  intro breaks
  rw [isSpace_of_isLineBreak c breaks] at visible
  cases visible

/-- The values of a first line `subjectAltName = ...`, up to blanks around them. -/
theorem extensionValues_altNames (values : List Text) (rest : Text) (filled : values ≠ [])
    (separate : ∀ value ∈ values, ',' ∉ value) (unbroken : ∀ value ∈ values, Unbroken value) :
    extensionValues (text "subjectAltName =" ++ join [','] values ++ '\n' :: rest)
      (text "subjectAltName") = values.map strip := by
  have line : Unbroken (text "subjectAltName =" ++ join [','] values) := by
    intro c inside
    rcases List.mem_append.mp inside with header | joined
    · have plain : ((text "subjectAltName =").all fun d => !isLineBreak d) = true := by decide
      simpa using List.all_eq_true.mp plain c header
    · rcases mem_join joined with comma | ⟨value, member, has⟩
      · rw [List.mem_singleton.mp comma]
        decide
      · exact unbroken value member c has
  have parts : cut (text "=") (text "subjectAltName =" ++ join [','] values) =
      some (text "subjectAltName ", join [','] values) := rfl
  have head : splitHead (text "=") (text "subjectAltName =" ++ join [','] values) =
      text "subjectAltName " := by rw [splitHead, parts]; rfl
  have tail : splitTail (text "=") (text "subjectAltName =" ++ join [','] values) =
      join [','] values := by rw [splitTail, parts]; rfl
  have named : (strip (text "subjectAltName ") == text "subjectAltName") = true := by decide
  unfold extensionValues
  rw [splitlines_line _ _ line]
  simp only [List.find?_cons, head, named, tail]
  rw [join, List.splitOn_intercalate ',' separate filled]

theorem filterMap_entryIp (ips names : List Text) :
    (ips.map ipEntry ++ names.map dnsEntry).filterMap entryIp = ips := by
  have addresses : (ips.map ipEntry).filterMap entryIp = ips := by
    rw [List.filterMap_map]
    exact (List.filterMap_congr fun ip _ => rfl).trans List.filterMap_some
  have others : (names.map dnsEntry).filterMap entryIp = [] := by
    rw [List.filterMap_map, List.filterMap_eq_nil_iff]
    exact fun name _ => rfl
  rw [List.filterMap_append, addresses, others, List.append_nil]

theorem solid_ipEntry {ip : Text} (solid : Solid ip) : Solid (ipEntry ip) :=
  Solid.append (solid_of_all (by decide)) solid

theorem solid_dnsEntry {name : Text} (solid : Solid name) : Solid (dnsEntry name) :=
  Solid.append (solid_of_all (by decide)) solid

theorem join_cons (sep part : Text) (parts : List Text) :
    join sep (part :: parts) = part ++ parts.flatMap (sep ++ ·) := by
  induction parts generalizing part with
  | nil => simp [join]
  | cons next rest ih =>
      rw [join, List.intercalate_cons_cons, List.flatMap_cons, ← List.append_assoc]
      rw [show sep.intercalate (next :: rest) = join sep (next :: rest) from rfl, ih next]
      simp only [List.append_assoc]

/-- A value of an extension, perhaps after a blank. -/
def Padded (value : Text) : Prop := ∃ entry, Solid entry ∧ (value = entry ∨ value = ' ' :: entry)

theorem Padded.usable {value : Text} (padded : Padded value) : ',' ∉ value ∧ Unbroken value := by
  obtain ⟨entry, solid, rfl | rfl⟩ := padded
  · exact ⟨solid.notMem_comma, unbroken_of_solid solid⟩
  · refine ⟨by simp [solid.notMem_comma], fun c inside => ?_⟩
    rcases List.mem_cons.mp inside with rfl | later
    · decide
    · exact unbroken_of_solid solid c later

/-- The addresses of a first line `subjectAltName = ...`. -/
theorem ips_of_padded {certificate : Certificate} {values : List Text} (rest : Text)
    (padded : ∀ value ∈ values, Padded value) (filled : values ≠ [])
    (made : certificate.extensions =
      text "subjectAltName =" ++ join [','] values ++ '\n' :: rest) :
    certificate.ips = (values.map strip).filterMap entryIp := by
  rw [Certificate.ips, made, extensionValues_altNames values rest filled
    (fun value member => (padded value member).usable.1)
    (fun value member => (padded value member).usable.2)]

theorem map_strip_solid {entries : List Text} (solid : ∀ entry ∈ entries, Solid entry) :
    entries.map strip = entries :=
  (List.map_congr_left fun entry member => strip_solid (solid entry member)).trans (List.map_id _)

theorem solid_entries {ips names : List Text} (solidIps : ∀ ip ∈ ips, Solid ip)
    (solidNames : ∀ name ∈ names, Solid name) :
    ∀ entry ∈ ips.map ipEntry ++ names.map dnsEntry, Solid entry := by
  intro entry member
  rcases List.mem_append.mp member with address | named
  · obtain ⟨ip, inside, rfl⟩ := List.mem_map.mp address
    exact solid_ipEntry (solidIps ip inside)
  · obtain ⟨name, inside, rfl⟩ := List.mem_map.mp named
    exact solid_dnsEntry (solidNames name inside)

/-- Entries separated by a comma and a blank. -/
theorem ips_of_spaced {certificate : Certificate} {ips : List Text} (names : List Text)
    (rest : Text) (filled : ips ≠ []) (solidIps : ∀ ip ∈ ips, Solid ip)
    (solidNames : ∀ name ∈ names, Solid name)
    (made : certificate.extensions = text "subjectAltName = " ++
      join (text ", ") (ips.map ipEntry ++ names.map dnsEntry) ++ '\n' :: rest) :
    certificate.ips = ips := by
  have solid := solid_entries solidIps solidNames
  have nonempty : ips.map ipEntry ++ names.map dnsEntry ≠ [] := by simp [filled]
  generalize entriesEq : ips.map ipEntry ++ names.map dnsEntry = entries at solid made nonempty
  cases entries with
  | nil => exact absurd rfl nonempty
  | cons entry others =>
      have shape : certificate.extensions = text "subjectAltName =" ++
          join [','] ((entry :: others).map (' ' :: ·)) ++ '\n' :: rest := by
        rw [made, List.map_cons, join_cons, join_cons, List.flatMap_map]
        simp [text]
      have stripped : ((entry :: others).map (' ' :: ·)).map strip = entry :: others := by
        rw [List.map_map]
        exact (List.map_congr_left fun e member => strip_space_solid (solid e member)).trans
          (List.map_id _)
      rw [ips_of_padded rest ?_ (by simp) shape, stripped, ← entriesEq, filterMap_entryIp]
      intro value member
      obtain ⟨e, inside, rfl⟩ := List.mem_map.mp member
      exact ⟨e, solid e inside, Or.inr rfl⟩

/-- Entries separated by commas, the names after the addresses. -/
theorem ips_of_compact {certificate : Certificate} {ips : List Text} (name : Text)
    (names : List Text) (rest : Text) (solidIps : ∀ ip ∈ ips, Solid ip)
    (solidNames : ∀ each ∈ name :: names, Solid each)
    (made : certificate.extensions = text "subjectAltName = " ++ join (text ",") (ips.map ipEntry) ++
      ((name :: names).map dnsEntry).flatMap (text "," ++ ·) ++ '\n' :: rest) :
    certificate.ips = ips := by
  have solidDns : ∀ entry ∈ (name :: names).map dnsEntry, Solid entry := by
    intro entry member
    exact solid_entries solidIps solidNames entry (List.mem_append_right _ member)
  cases ips with
  | nil =>
      have shape : certificate.extensions = text "subjectAltName =" ++
          join [','] ([' '] :: (name :: names).map dnsEntry) ++ '\n' :: rest := by
        rw [made, join_cons]
        simp [text, join]
      have blank : Solid [] := by simp [Solid]
      rw [ips_of_padded rest ?_ (by simp) shape, List.map_cons, map_strip_solid solidDns,
        strip_space_solid blank]
      · exact filterMap_entryIp [] (name :: names)
      · intro value member
        rcases List.mem_cons.mp member with rfl | listed
        · exact ⟨[], blank, Or.inr rfl⟩
        · exact ⟨value, solidDns value listed, Or.inl rfl⟩
  | cons ip more =>
      have solid := solid_entries solidIps solidNames
      have shape : certificate.extensions = text "subjectAltName =" ++ join [',']
          ((' ' :: ipEntry ip) :: (more.map ipEntry ++ (name :: names).map dnsEntry)) ++
            '\n' :: rest := by
        rw [made, List.map_cons, join_cons, join_cons, List.flatMap_append]
        simp [text]
      have others : ∀ entry ∈ more.map ipEntry ++ (name :: names).map dnsEntry, Solid entry :=
        fun entry member => solid entry (List.mem_cons_of_mem _ member)
      have stripped : ((' ' :: ipEntry ip) :: (more.map ipEntry ++
          (name :: names).map dnsEntry)).map strip =
            (ip :: more).map ipEntry ++ (name :: names).map dnsEntry := by
        rw [List.map_cons, map_strip_solid others,
          strip_space_solid (solid (ipEntry ip) List.mem_cons_self)]
        rfl
      rw [ips_of_padded rest ?_ (by simp) shape, stripped, filterMap_entryIp]
      intro value member
      rcases List.mem_cons.mp member with rfl | listed
      · exact ⟨ipEntry ip, solid _ List.mem_cons_self, Or.inr rfl⟩
      · exact ⟨value, others value listed, Or.inl rfl⟩

/-- The key usages and how openssl prints them. -/
def usageNames : List (Text × Text) :=
  [(text "digitalSignature", text "Digital Signature"),
    (text "nonRepudiation", text "Non Repudiation"),
    (text "keyEncipherment", text "Key Encipherment"),
    (text "dataEncipherment", text "Data Encipherment"),
    (text "keyAgreement", text "Key Agreement"),
    (text "keyCertSign", text "Certificate Sign"),
    (text "cRLSign", text "CRL Sign"),
    (text "encipherOnly", text "Encipher Only"),
    (text "decipherOnly", text "Decipher Only")]

/-- Standard output of `openssl x509 -noout -ext keyUsage`. -/
def printedKeyUsage (certificate : Certificate) : Text :=
  let values := extensionValues certificate.extensions (text "keyUsage")
  if values = [] then []
  else
    text "X509v3 Key Usage: " ++ (if text "critical" ∈ values then text "critical" else []) ++
      text "\n    " ++
      join (text ", ") (usageNames.filterMap fun usage =>
        if usage.1 ∈ values then some usage.2 else none) ++ text "\n"

/-- Of all that openssl prints for key usages, only "Certificate Sign" has an f. -/
theorem certSign_of_printed {certificate : Certificate}
    (printed : contains (text "certificate sign") (lower (printedKeyUsage certificate)) = true) :
    certificate.CertSign := by
  have present : 'f' ∈ lower (printedKeyUsage certificate) :=
    ((contains_iff _ _).mp printed).subset (by decide)
  obtain ⟨c, inside, lowers⟩ := List.mem_flatMap.mp present
  unfold printedKeyUsage at inside
  dsimp only at inside
  split at inside
  · cases inside
  · have noneIn {s : Text} (all : (s.all fun d => !(lowerChar d).contains 'f') = true) :
        ∀ d ∈ s, 'f' ∉ lowerChar d := by
      intro d member
      simpa using List.all_eq_true.mp all d member
    have header : ∀ d ∈ text "X509v3 Key Usage: " ++ text "critical" ++ text "\n    " ++ text ", ",
        'f' ∉ lowerChar d := noneIn (by decide)
    have others : ∀ usage ∈ usageNames, usage.1 ≠ text "keyCertSign" →
        ∀ d ∈ usage.2, 'f' ∉ lowerChar d := by
      have all : (usageNames.all fun usage => usage.1 == text "keyCertSign" ||
          usage.2.all fun d => !(lowerChar d).contains 'f') = true := by decide
      intro usage listed other
      have each := List.all_eq_true.mp all usage listed
      rw [Bool.or_eq_true, beq_iff_eq] at each
      exact noneIn (each.resolve_left other)
    simp only [List.mem_append] at inside header
    rcases inside with (((title | critical) | indent) | usages) | newline
    · exact absurd lowers (header c (by simp [title]))
    · split at critical
      · exact absurd lowers (header c (by simp [critical]))
      · cases critical
    · exact absurd lowers (header c (by simp [indent]))
    · rcases mem_join usages with comma | ⟨part, member, has⟩
      · exact absurd lowers (header c (by simp [comma]))
      · obtain ⟨usage, listed, shown⟩ := List.mem_filterMap.mp member
        by_cases sign : usage.1 = text "keyCertSign"
        · split at shown
          · rename_i held
            rw [sign] at held
            exact held
          · cases shown
        · split at shown
          · cases shown
            exact absurd lowers (others usage listed sign c has)
          · cases shown
    · exact absurd lowers (header c (by simp [text] at newline ⊢; simp [newline]))

section Quoted

/-- A text with every character marked and the end marked. -/
def quote (s : Text) : Text :=
  match s with
  | [] => ['.']
  | c :: rest => '+' :: c :: quote rest

def unquote : Text → Option (Text × Text)
  | '.' :: rest => some ([], rest)
  | '+' :: c :: rest => (unquote rest).map fun parts => (c :: parts.1, parts.2)
  | _ => none

theorem unquote_quote (s rest : Text) : unquote (quote s ++ rest) = some (s, rest) := by
  induction s with
  | nil => rfl
  | cons c s ih => simp [quote, unquote, ih]

def quoteNat (n : Nat) : Text := quote (List.replicate n '1')

def unquoteNat (s : Text) : Option (Nat × Text) :=
  (unquote s).map fun parts => (parts.1.length, parts.2)

theorem unquoteNat_quoteNat (n : Nat) (rest : Text) :
    unquoteNat (quoteNat n ++ rest) = some (n, rest) := by
  simp [unquoteNat, quoteNat, unquote_quote]

def lineEnd : Text := ['-', '\n']

def quotedObject : Object → Text
  | .privateKey key => 'k' :: quoteNat key ++ lineEnd
  | .request subject key => 'r' :: quote subject ++ quoteNat key ++ lineEnd
  | .certificate c =>
      'c' :: quote c.subject ++ quoteNat c.key ++ quoteNat c.signer ++ quote c.extensions ++ lineEnd

def readQuoted : Text → Option (Object × Text)
  | 'k' :: rest => do
      let (key, rest) ← unquoteNat rest
      return (.privateKey key, rest.drop 2)
  | 'r' :: rest => do
      let (subject, rest) ← unquote rest
      let (key, rest) ← unquoteNat rest
      return (.request subject key, rest.drop 2)
  | 'c' :: rest => do
      let (subject, rest) ← unquote rest
      let (key, rest) ← unquoteNat rest
      let (signer, rest) ← unquoteNat rest
      let (extensions, rest) ← unquote rest
      return (.certificate ⟨subject, key, signer, extensions⟩, rest.drop 2)
  | _ => none

/-- An encoding that meets the requirements. -/
def Pem.quoted : Pem where
  encode := quotedObject
  read := readQuoted
  read_encode object rest := by
    cases object <;>
      simp [quotedObject, readQuoted, unquote_quote, unquoteNat_quoteNat, lineEnd, List.append_assoc]
  ends object := by
    have visible : isSpace '-' = false := by decide
    cases object with
    | privateKey key => exact ⟨'k' :: quoteNat key, '-', rfl, visible⟩
    | request subject key => exact ⟨'r' :: quote subject ++ quoteNat key, '-', rfl, visible⟩
    | certificate c =>
        exact ⟨'c' :: quote c.subject ++ quoteNat c.key ++ quoteNat c.signer ++ quote c.extensions,
          '-', rfl, visible⟩

end Quoted

end Openssl
