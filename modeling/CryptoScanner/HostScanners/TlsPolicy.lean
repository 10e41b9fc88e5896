import CryptoScanner.HostScanners.ConfigText
import CryptoScanner.Library.Dict
import CryptoScanner.Library.Distinct
import CryptoScanner.Python.JsonDecoder
import CryptoScanner.Python.PosixPath
import CryptoScanner.Scan.AgentMapper

/-!
# The TLS policy of a configuration file

`crypto_utils.py` and `registry.py`.  A file is the text that `read_text` gives.
-/

namespace CryptoScanner.HostScanners

open Python Library

variable [PyText]

def dedupe (values : List (List Char)) : List (List Char) :=
  distinct (· = []) (fun value other => decide (value = other)) values

/-! ## 1. References to key files -/

def referenceKeys : List String :=
  ["hostkey", "ssl_certificate_key", "sslcertificatekeyfile", "smtpd_tls_key_file",
    "smtp_tls_key_file", "tls_key_file", "ssl_key_file", "keyfile", "key_file", "private_key"]

/-- The first word of a line and the rest of it, as `extract_key_references_from_config` reads
them. -/
def firstWord (line : List Char) : Option (List Char × List Char) :=
  let stripped := rstripChars [';'] (strip line)
  if stripped = [] ∨ stripped.head? = some '#' then none
  else
    -- a comment after the directive goes, with the blanks in front of it
    let stripped := if '#' ∈ stripped then strip (beforeHash stripped) else stripped
    (splitAtSpace stripped).map fun (key, value) => (lower key, stripChars quotes (strip value))

def keyReference (line : List Char) : Option (List Char) :=
  match firstWord line with
  | some (key, value) => if String.ofList key ∈ referenceKeys then some value else none
  | none => none

def extractKeyReferencesFromConfig (text : List Char) : List (List Char) :=
  dedupe (findKeyFilePaths 0 text ++ (splitLines text).filterMap keyReference)

/-! ## 2. Values of TLS directives -/

/-- The items of `re.split` at runs of separators, up to empty ones, which its callers drop. -/
def splitAtRuns (separator : Char → Bool) (value : List Char) : List (List Char) :=
  value.splitOnP separator

def cleanToken (token : List Char) : List Char := stripChars ['\'', '"', ';'] (strip token)

def normalizeTlsProtocol (value : List Char) : Option String :=
  let normalized := (upper (strip value)).map fun c => if c = '_' then '.' else c
  -- the two words that name no single version
  if String.ofList normalized ∈ ["ALL", "NONE"] then none
  else
    [("SSLV2", "SSLv2"), ("SSLV3", "SSLv3"), ("TLSV1", "TLSv1"), ("TLSV1.0", "TLSv1.0"),
      ("TLSV1.1", "TLSv1.1"), ("TLSV1.2", "TLSv1.2"), ("TLSV1.3", "TLSv1.3")].lookup
        (String.ofList normalized)

/-- A token of a protocol list: whether it is disabled, and the protocol. -/
def tlsProtocol (token : List Char) : Option (Bool × List Char) :=
  let token := cleanToken token
  if token = [] then none
  else
    (normalizeTlsProtocol (token.dropWhile (· ∈ ['!', '+', '-']))).map fun protocol =>
      (decide (token.head? = some '!' ∨ token.head? = some '-'), protocol.toList)

def extractTlsProtocols (value : List Char) : List (List Char) × List (List Char) :=
  let protocols := (splitAtRuns (fun c => PyText.isSpace c || c == ',') value).filterMap tlsProtocol
  ((protocols.filter (!·.1)).map Prod.snd, (protocols.filter (·.1)).map Prod.snd)

def splitCipherSuites (value : List Char) : List (List Char) :=
  ((splitAtRuns (fun c => PyText.isSpace c || c == ',' || c == ':') value).map cleanToken).filter
    (· ≠ [])

/-! ## 3. The policy -/

inductive DirectiveKind where
  | protocols
  | cipherSuites
  | certificate
  | privateKey
  deriving DecidableEq, Repr

def directiveKeys : List (DirectiveKind × List String) :=
  [(.protocols, ["ssl_protocols", "sslprotocol", "ssl_protocol", "ssl_min_protocol_version",
      "ssl_max_protocol_version", "minimum_tls_version", "tls_versions", "smtpd_tls_protocols",
      "smtp_tls_protocols", "smtpd_tls_mandatory_protocols", "smtp_tls_mandatory_protocols"]),
    (.cipherSuites, ["ssl_ciphers", "sslciphersuite", "ssl_cipher_suite", "cipher_suites",
      "smtpd_tls_ciphers", "smtp_tls_ciphers", "smtpd_tls_mandatory_ciphers",
      "smtp_tls_mandatory_ciphers"]),
    (.certificate, ["ssl_certificate", "sslcertificatefile", "ssl_cert_file",
      "smtpd_tls_cert_file", "smtp_tls_cert_file", "tls_cert_file", "certfile", "cert_file",
      "certificate"]),
    (.privateKey, ["ssl_certificate_key", "sslcertificatekeyfile", "ssl_key_file",
      "smtpd_tls_key_file", "smtp_tls_key_file", "tls_key_file", "keyfile", "key_file",
      "private_key"])]

/-- The recognised directives; the first set that has the key decides. -/
def directiveKind (lowerKey : List Char) : Option DirectiveKind :=
  (directiveKeys.find? fun entry => String.ofList lowerKey ∈ entry.2).map Prod.fst

/-- What `parse_tls_config_policy` collects. -/
structure TlsPolicy where
  policy : List (List Char × List Char) := []
  tlsVersions : List (List Char) := []
  disabledProtocols : List (List Char) := []
  cipherSuites : List (List Char) := []
  certificatePaths : List (List Char) := []
  privateKeyPaths : List (List Char) := []

def TlsPolicy.record (state : TlsPolicy) (directive : List Char × List Char) : TlsPolicy :=
  let lowerKey := lower directive.1
  let value := directive.2
  -- every directive is copied, recognised or not, and a later one replaces an earlier one
  let state := { state with policy := Dict.set lowerKey value state.policy }
  match directiveKind lowerKey with
  | some .protocols =>
      { state with
        tlsVersions := state.tlsVersions ++ (extractTlsProtocols value).1
        disabledProtocols := state.disabledProtocols ++ (extractTlsProtocols value).2 }
  | some .cipherSuites =>
      { state with cipherSuites := state.cipherSuites ++ splitCipherSuites value }
  | some .certificate => { state with certificatePaths := state.certificatePaths ++ [value] }
  | some .privateKey => { state with privateKeyPaths := state.privateKeyPaths ++ [value] }
  | none => state

def directives (text : List Char) : List (List Char × List Char) :=
  (splitLines text).filterMap parseConfigDirective

/-- The loop of `parse_tls_config_policy` -/
def collectPolicy (text : List Char) : TlsPolicy := (directives text).foldl TlsPolicy.record {}

def textList (values : List (List Char)) : Json :=
  .list (values.map fun value => .str (String.ofList value))

def policyJson (policy : List (List Char × List Char)) : Json :=
  .dict (policy.map fun entry => (String.ofList entry.1, .str (String.ofList entry.2)))

def entryFor {α : Type} (items : List α) (key : String) (value : Json) : List (String × Json) :=
  if items = [] then [] else [(key, value)]

/-- The result of `parse_tls_config_policy` -/
def TlsPolicy.result (state : TlsPolicy) : List (String × Json) :=
  entryFor state.policy "policy" (policyJson state.policy) ++
  (entryFor state.tlsVersions "tls_versions" (textList (dedupe state.tlsVersions)) ++
  (entryFor state.disabledProtocols "disabled_protocols"
    (textList (dedupe state.disabledProtocols)) ++
  (entryFor state.cipherSuites "cipher_suites" (textList (dedupe state.cipherSuites)) ++
  (entryFor state.certificatePaths "certificate_paths"
    (textList (dedupe state.certificatePaths)) ++
  entryFor state.privateKeyPaths "private_key_paths"
    (textList (dedupe state.privateKeyPaths))))))

def parseTlsConfigPolicy (text : List Char) : List (String × Json) := (collectPolicy text).result

/-! ## 4. The finding -/

def tlsConfigFinding (path : List Char) (findingType : String) (text : List Char) :
    Option Scan.Finding :=
  let state := collectPolicy text
  let policy := parseTlsConfigPolicy text
  let references := extractKeyReferencesFromConfig text
  if policy = [] ∧ references = [] then none
  else
    let finding : Scan.Finding :=
      [("type", .str findingType), ("path", .str (String.ofList path)),
        ("referenced_by",
          textList (if references = [] then dedupe state.privateKeyPaths else references))]
    -- the policy comes after the fixed entries and may write over them
    let finding := Dict.update finding policy
    -- the first version of the file, in the order of the file, is called the minimum
    match (dedupe state.tlsVersions).head? with
    | some version => some (Dict.set "minimum_tls_version" (.str (String.ofList version)) finding)
    | none =>
        if policy = [] then some (Dict.set "minimum_tls_version" (.str "TLS config") finding)
        else some finding

/-- `_tls_config_finding`, and the algorithm that the finding of `postgresql.conf` gets. -/
def directiveFinding (path : List Char) (findingType : String) (algorithm : Option (List Char))
    (text : List Char) : Option Scan.Finding :=
  (tlsConfigFinding path findingType text).map fun finding =>
    match algorithm with
    | some algorithm => Dict.set "algorithm" (.str (String.ofList algorithm)) finding
    | none => finding

/-! ## 5. Key sets -/

def normalizeAlgorithm (value : List Char) : List Char :=
  let normalized := strip value
  let upper := (upper normalized).map fun c => if c = '_' then '-' else c
  if "ECDSAP".toList <+: upper ∨ "ECDSA-P".toList <+: upper then
    "ECDSA-P".toList ++ upper.rtakeWhile (· ≠ 'P')
  else if upper = "ED25519".toList then "Ed25519".toList
  else if "RSA-".toList <+: upper then upper
  else normalized

def normalizeCurve (curve : List Char) : List Char :=
  (([("prime256v1", "P-256"), ("secp384r1", "P-384"), ("secp521r1", "P-521"), ("P-256", "P-256"),
    ("P-384", "P-384"), ("P-521", "P-521")].lookup (String.ofList curve)).map String.toList).getD
      curve

/-- A text that is too deep or has too long a number, a document that is no object, or keys that
are no list. -/
inductive KeySetError where
  | decode (error : DecodeError)
  | attribute
  | type
  deriving DecidableEq, Repr

section

variable (floatRepr : PyFloat → List Char) (limits : Limits)

def jwkAlgorithm (key : List (String × Json)) : Option (List Char) :=
  let get (name : String) : Json := (key.lookup name).getD .null
  let algorithm := if (get "algorithm").truthy then get "algorithm" else get "alg"
  if algorithm.truthy then some (normalizeAlgorithm (algorithm.pyStr floatRepr))
  else if get "kty" = .str "RSA" ∧ (get "bits").truthy then
    some ("RSA-".toList ++ (get "bits").pyStr floatRepr)
  else if get "kty" = .str "EC" ∧ (get "crv").truthy then
    some ("ECDSA-".toList ++ normalizeCurve ((get "crv").pyStr floatRepr))
  else none

/-- The algorithms of the items of `data.get("keys", [])` that are objects. -/
def keysAlgorithms : Option Json → Except KeySetError (List (List Char))
  | none | some (.dict _) | some (.str _) => .ok []
  | some (.list keys) =>
      .ok (dedupe (keys.filterMap fun key =>
        match key with
        | .dict key => jwkAlgorithm floatRepr key
        | _ => none))
  | some _ => .error .type

def parseJwksAlgorithms (text : List Char) : Except KeySetError (List (List Char)) :=
  match rawDecode limits (skipSpace text) with
  | .error .malformed => .ok []
  | .error error => .error (.decode error)
  | .ok (data, rest) =>
      if skipSpace rest ≠ [] then .ok []
      else
        match data with
        | .dict data =>
            match data.lookup "algorithms" with
            | some (.list items) => .ok (items.map (Json.pyStr floatRepr))
            | _ => keysAlgorithms floatRepr (data.lookup "keys")
        | _ => .error .attribute

/-! ## 6. The kinds of files -/

inductive ConfigFile where
  | tls
  | postgres
  | jwtKeys
  | oidcKeys
  deriving DecidableEq, Repr

/-- What the branches of `_app_config_finding` take a file for. -/
def configFile (path : PosixPath) : Option ConfigFile :=
  if ".conf".toList <:+ path.name ∧ Has "nginx" path.str then some .tls
  else if String.ofList path.name ∈ ["main.cf", "httpd.conf", "apache2.conf"] ∨
    Has "/conf.d/" path.str then some .tls
  else if path.name = "postgresql.conf".toList then some .postgres
  else if path.name = "current.json".toList then some .jwtKeys
  else if path.name = "jwks.json".toList then some .oidcKeys
  else if path.name = "tls.properties".toList then some .tls
  else none

def keySetFinding (path : List Char) (findingType : String) (algorithms : List (List Char)) :
    Option Scan.Finding :=
  if algorithms = [] then none
  else
    some [("type", .str findingType), ("path", .str (String.ofList path)),
      ("algorithms", textList algorithms)]

/-- `_app_config_finding`, given the algorithm of the certificate of the database server. -/
def appConfigFinding (serverAlgorithm : Option (List Char)) (path : PosixPath)
    (text : List Char) : Except KeySetError (Option Scan.Finding) :=
  match configFile path with
  | some .tls => .ok (directiveFinding path.str "tls_config" none text)
  | some .postgres =>
      .ok (directiveFinding path.str "postgres_tls_config"
        (some (serverAlgorithm.getD "TLS config".toList)) text)
  | some .jwtKeys =>
      (parseJwksAlgorithms floatRepr limits text).map (keySetFinding path.str "jwt_signing_key")
  | some .oidcKeys =>
      (parseJwksAlgorithms floatRepr limits text).map (keySetFinding path.str "oidc_jwks")
  | none => .ok none

def DirectiveFile (path : PosixPath) : Prop :=
  configFile path = some .tls ∨ configFile path = some .postgres

instance (path : PosixPath) : Decidable (DirectiveFile path) :=
  inferInstanceAs (Decidable (_ ∨ _))

variable {floatRepr limits} {serverAlgorithm : Option (List Char)} {path : PosixPath}

theorem appConfigFinding_directives (h : DirectiveFile path) :
    ∃ findingType ∈ ["tls_config", "postgres_tls_config"], ∃ algorithm, ∀ text,
      appConfigFinding floatRepr limits serverAlgorithm path text =
        .ok (directiveFinding path.str findingType algorithm text) := by
  rcases h with htls | hpostgres
  · refine ⟨"tls_config", by decide, none, fun text => ?_⟩
    rw [appConfigFinding, htls]
  · refine ⟨"postgres_tls_config", by decide, some (serverAlgorithm.getD "TLS config".toList),
      fun text => ?_⟩
    rw [appConfigFinding, hpostgres]

/-- The finding of any other file lists the algorithms of a key set. -/
theorem appConfigFinding_other (h : ¬ DirectiveFile path) {text : List Char}
    {finding : Scan.Finding}
    (hfinding : appConfigFinding floatRepr limits serverAlgorithm path text = .ok (some finding)) :
    ∃ findingType algorithms,
      keySetFinding path.str findingType algorithms = some finding := by
  rw [appConfigFinding] at hfinding
  cases hkind : configFile path with
  | none =>
      rw [hkind] at hfinding
      cases hfinding
  | some kind =>
      rw [hkind] at hfinding
      cases kind with
      | tls => exact absurd (.inl hkind) h
      | postgres => exact absurd (.inr hkind) h
      | jwtKeys =>
          cases hkeys : parseJwksAlgorithms floatRepr limits text with
          | error e =>
              rw [hkeys] at hfinding
              cases hfinding
          | ok algorithms =>
              rw [hkeys] at hfinding
              exact ⟨_, algorithms, Except.ok.inj hfinding⟩
      | oidcKeys =>
          cases hkeys : parseJwksAlgorithms floatRepr limits text with
          | error e =>
              rw [hkeys] at hfinding
              cases hfinding
          | ok algorithms =>
              rw [hkeys] at hfinding
              exact ⟨_, algorithms, Except.ok.inj hfinding⟩

omit [PyText] in
theorem lookup_keySetFinding {path : List Char} {findingType : String}
    {algorithms : List (List Char)} {finding : Scan.Finding}
    (h : keySetFinding path findingType algorithms = some finding) {key : String}
    (hkey : key ∉ ["type", "path", "algorithms"]) : finding.lookup key = none := by
  unfold keySetFinding at h
  split at h
  · cases h
  · cases h
    have hne : ∀ name ∈ ["type", "path", "algorithms"], (key == name) = false :=
      fun name hname => beq_false_of_ne fun heq => hkey (heq ▸ hname)
    rw [List.lookup_cons, hne _ (by simp), List.lookup_cons, hne _ (by simp), List.lookup_cons,
      hne _ (by simp), List.lookup_nil]

end

/-! ## 7. What the parts depend on -/

/-- The lists that two states have in common do not depend on their policies. -/
theorem record_withPolicy (state : TlsPolicy) (policy : List (List Char × List Char))
    (directive : List Char × List Char) :
    { state with policy := policy }.record directive =
      { state.record directive with
        policy := Dict.set (lower directive.1) directive.2 policy } := by
  simp only [TlsPolicy.record]
  split <;> rfl

theorem foldl_record_withPolicy (state : TlsPolicy) (policy : List (List Char × List Char))
    (items : List (List Char × List Char)) :
    items.foldl TlsPolicy.record { state with policy := policy } =
      { items.foldl TlsPolicy.record state with
        policy := Dict.update policy (items.map fun item => (lower item.1, item.2)) } := by
  induction items generalizing state policy with
  | nil => rfl
  | cons item items ih =>
      rw [List.foldl_cons, record_withPolicy, ih]
      rfl

theorem record_unrecognised (state : TlsPolicy) {directive : List Char × List Char}
    (h : directiveKind (lower directive.1) = none) :
    state.record directive =
      { state with policy := Dict.set (lower directive.1) directive.2 state.policy } := by
  simp only [TlsPolicy.record]
  rw [h]

/-- A list that each directive extends is the list of what all directives add. -/
theorem collectPolicy_flatMap {p : TlsPolicy → List (List Char)}
    {added : List Char × List Char → List (List Char)} (hempty : p {} = [])
    (h : ∀ state directive, p (state.record directive) = p state ++ added directive)
    (text : List Char) : p (collectPolicy text) = (directives text).flatMap added := by
  have hfold : ∀ (items : List (List Char × List Char)) (state : TlsPolicy),
      p (items.foldl TlsPolicy.record state) = p state ++ items.flatMap added := by
    intro items
    induction items with
    | nil => simp
    | cons directive items ih =>
        intro state
        rw [List.foldl_cons, ih, h, List.flatMap_cons, List.append_assoc]
  rw [collectPolicy, hfold, hempty, List.nil_append]

omit [PyText] in
theorem mem_dedupe {values : List (List Char)} (h : [] ∉ values) {value : List Char} :
    value ∈ dedupe values ↔ value ∈ values := by
  constructor
  · intro hmem
    exact (mem_of_mem_distinct _ _ hmem).1
  · intro hmem
    have hkeep : ¬ value = [] := fun heq => h (heq ▸ hmem)
    obtain ⟨other, hother, heq | hsame⟩ := covered_distinct (· = []) _ hmem hkeep
    · exact heq ▸ hother
    · exact of_decide_eq_true hsame ▸ hother

omit [PyText] in
theorem head?_dedupe {values : List (List Char)} (h : [] ∉ values) :
    (dedupe values).head? = values.head? := by
  cases values with
  | nil => rfl
  | cons value values =>
      have hkeep : value ≠ [] := fun heq => h (heq ▸ List.mem_cons_self)
      have hfirst : [value] <+: dedupe (value :: values) := by
        have hstep : distinctStep (· = []) (fun value other => decide (value = other)) [] value =
            [value] := by
          unfold distinctStep
          rw [if_neg (by simp [hkeep]), List.nil_append]
        unfold dedupe distinct
        rw [List.foldl_cons, hstep]
        exact prefix_foldl_distinctStep _ _ [value] values
      obtain ⟨rest, hrest⟩ := hfirst
      rw [← hrest]
      rfl

omit [PyText] in
theorem lookup_entryFor {α : Type} (items : List α) (key other : String) (value : Json) :
    (entryFor items key value).lookup other =
      if other = key ∧ items ≠ [] then some value else none := by
  unfold entryFor
  by_cases hempty : items = []
  · simp [hempty]
  · by_cases hkey : other = key
    · simp [hempty, hkey]
    · rw [if_neg hempty, if_neg fun hboth => hkey hboth.1, List.lookup_cons,
        beq_false_of_ne hkey]
      rfl

omit [PyText] in
theorem textList_injective : Function.Injective textList := by
  intro values values' h
  have htext : Function.Injective fun value : List Char => Json.str (String.ofList value) :=
    fun value value' heq => String.ofList_injective (Json.str.inj heq)
  exact htext.list_map (Json.list.inj h)

omit [PyText] in
theorem map_fst_entryFor {α : Type} (items : List α) (key : String) (value : Json) :
    List.Sublist ((entryFor items key value).map Prod.fst) [key] := by
  unfold entryFor
  split
  · exact List.nil_sublist _
  · exact List.Sublist.refl _

omit [PyText] in
theorem nodup_keys_result (state : TlsPolicy) : (state.result.map Prod.fst).Nodup := by
  have hsub : List.Sublist (state.result.map Prod.fst)
      (["policy"] ++ (["tls_versions"] ++ (["disabled_protocols"] ++ (["cipher_suites"] ++
        (["certificate_paths"] ++ ["private_key_paths"]))))) := by
    simp only [TlsPolicy.result, List.map_append]
    repeat' apply List.Sublist.append
    all_goals apply map_fst_entryFor
  apply hsub.nodup
  decide

omit [PyText] in
theorem lookup_result_policy {state : TlsPolicy} (h : state.policy ≠ []) :
    state.result.lookup "policy" = some (policyJson state.policy) := by
  rw [TlsPolicy.result, entryFor, if_neg h]
  rfl

/-- An entry of a finding that no later step sets is that of the policy, or one of the first. -/
theorem lookup_directiveFinding {path : List Char} {findingType : String}
    {algorithm : Option (List Char)} {text : List Char} {finding : Scan.Finding}
    (h : directiveFinding path findingType algorithm text = some finding) {key : String}
    (hminimum : key ≠ "minimum_tls_version") (halgorithm : key ≠ "algorithm") :
    ∃ references, finding.lookup key = ((parseTlsConfigPolicy text).lookup key).or
      ([("type", .str findingType), ("path", .str (String.ofList path)),
        ("referenced_by", references)].lookup key) := by
  unfold directiveFinding at h
  obtain ⟨found, hfound, rfl⟩ := Option.map_eq_some_iff.mp h
  have hupdate : ∀ d : Scan.Finding, (Dict.update d (parseTlsConfigPolicy text)).lookup key =
      ((parseTlsConfigPolicy text).lookup key).or (d.lookup key) := fun d =>
    Dict.lookup_update (nodup_keys_result _) d key
  have htls : ∃ references, found.lookup key = ((parseTlsConfigPolicy text).lookup key).or
      ([("type", .str findingType), ("path", .str (String.ofList path)),
        ("referenced_by", references)].lookup key) := by
    unfold tlsConfigFinding at hfound
    simp only at hfound
    split at hfound
    · cases hfound
    · split at hfound
      · cases hfound
        rw [Dict.lookup_set, if_neg hminimum, hupdate]
        exact ⟨_, rfl⟩
      · split at hfound
        · cases hfound
          rw [Dict.lookup_set, if_neg hminimum, hupdate]
          exact ⟨_, rfl⟩
        · cases hfound
          rw [hupdate]
          exact ⟨_, rfl⟩
  obtain ⟨references, hlookup⟩ := htls
  refine ⟨references, ?_⟩
  cases algorithm with
  | none => exact hlookup
  | some algorithm => rw [Dict.lookup_set, if_neg halgorithm, hlookup]

theorem directiveFinding_of_policy (path : List Char) (findingType : String)
    (algorithm : Option (List Char)) {text : List Char} (h : parseTlsConfigPolicy text ≠ []) :
    ∃ finding, directiveFinding path findingType algorithm text = some finding := by
  have hsome : ∃ finding, tlsConfigFinding path findingType text = some finding := by
    unfold tlsConfigFinding
    simp only
    rw [if_neg fun hboth => h hboth.1]
    split
    · exact ⟨_, rfl⟩
    · rw [if_neg h]
      exact ⟨_, rfl⟩
  obtain ⟨finding, hfinding⟩ := hsome
  rw [directiveFinding, hfinding]
  exact ⟨_, rfl⟩

/-- An entry of the policy is an entry of the finding. -/
theorem directiveFinding_lookup (path : List Char) (findingType : String)
    (algorithm : Option (List Char)) {text : List Char} {key : String} {value : Json}
    (h : (parseTlsConfigPolicy text).lookup key = some value)
    (hminimum : key ≠ "minimum_tls_version") (halgorithm : key ≠ "algorithm") :
    ∃ finding, directiveFinding path findingType algorithm text = some finding ∧
      finding.lookup key = some value := by
  have hne : parseTlsConfigPolicy text ≠ [] := by
    intro hnil
    rw [hnil] at h
    cases h
  obtain ⟨finding, hfinding⟩ := directiveFinding_of_policy path findingType algorithm hne
  obtain ⟨references, hlookup⟩ := lookup_directiveFinding hfinding hminimum halgorithm
  exact ⟨finding, hfinding, by rw [hlookup, h]; rfl⟩

/-- Every finding of a file with a directive carries the whole policy. -/
theorem directiveFinding_policy (path : List Char) (findingType : String)
    (algorithm : Option (List Char)) {text : List Char} (h : (collectPolicy text).policy ≠ []) :
    ∃ finding, directiveFinding path findingType algorithm text = some finding ∧
      finding.lookup "policy" = some (policyJson (collectPolicy text).policy) :=
  directiveFinding_lookup path findingType algorithm (lookup_result_policy h) (by decide)
    (by decide)

omit [PyText] in
theorem policyJson_injective : Function.Injective policyJson := by
  intro policy policy' h
  have hentry : Function.Injective fun entry : List Char × List Char =>
      (String.ofList entry.1, Json.str (String.ofList entry.2)) := by
    intro entry entry' heq
    have hkey := String.ofList_injective (congrArg Prod.fst heq)
    have hvalue := String.ofList_injective (Json.str.inj (congrArg Prod.snd heq))
    exact Prod.ext hkey hvalue
  exact hentry.list_map (Json.dict.inj h)

end CryptoScanner.HostScanners
