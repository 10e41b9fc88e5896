import CryptoScanner.Assets.Context
import CryptoScanner.Library.Regex
import CryptoScanner.Library.Substitution
import CryptoScanner.Snapshots.Pagination

/-!
# The enriched CBOM of the migration prompt

What `migration_plan.py` puts into the prompt for one risk score, and the redaction of the names of
legacy algorithms in it.
-/

namespace CryptoScanner.Snapshots

open Library Python RiskEngine

/-! ## 1. `LEGACY_ALGORITHM_PATTERN` -/

inductive PatternClass
  | letter (c : Char)
  /-- `\d` -/
  | digit
  /-- `[ -]` -/
  | separator
  deriving DecidableEq, Repr

/-- The characters that a character of the pattern, written in upper case, matches under
`IGNORECASE`: beyond ASCII the two `i` of Turkish and the long `s`. -/
def ignoreCase (c d : Char) : Bool :=
  d == c || d == c.toLower || (c == 'I' && (d.toNat == 0x130 || d.toNat == 0x131)) ||
    (c == 'S' && d.toNat == 0x17f)

def legacyText (w : String) : Pattern PatternClass := .literal (w.toList.map .letter)

/-- `(?:-\d+)?` -/
def legacySize : Pattern PatternClass := .opt (.seq (legacyText "-") (.many .digit))

/-- `(?:[ -]?P-?\d+)?` -/
def legacyCurve : Pattern PatternClass :=
  .opt (.seq (.opt (.one .separator))
    (.seq (legacyText "P") (.seq (.opt (legacyText "-")) (.many .digit))))

/-- `LEGACY_ALGORITHM_PATTERN` between its two `\b`. -/
def legacyAlgorithmPattern : Pattern PatternClass :=
  .oneOf (.seq (legacyText "RSA") legacySize)
    [.seq (legacyText "ECDSA") legacyCurve, legacyText "ECDH", legacyText "ED25519",
      legacyText "ED448", legacyText "X25519", legacyText "X448", legacyText "DHE",
      legacyText "DH", legacyText "DIFFIE-HELLMAN", .seq (legacyText "MODP") legacySize,
      .seq (legacyText "GROUP") (.many .digit)]

section

variable [PyText]

def patternTable : ClassTable PatternClass Char where
  holds
    | .letter c => ignoreCase c
    | .digit => fun d => (PyText.decimal d).isSome
    | .separator => fun d => d == ' ' || d == '-'
  isWord := PyText.isWord

/-- `LEGACY_ALGORITHM_PATTERN.search(text)` finds nothing. -/
def Clean (text : List Char) : Prop := legacyAlgorithmPattern.search patternTable text = false

instance (text : List Char) : Decidable (Clean text) := inferInstanceAs (Decidable (_ = false))

def redactLegacyAlgorithm (value : List Char) : List Char :=
  legacyAlgorithmPattern.sub patternTable "legacy-public-key".toList value

/-- An ASCII text is searched alike by every interpreter. -/
theorem clean_ascii {text : List Char} (h : ∀ c ∈ text, isAscii c = true) :
    Clean text ↔ @Clean asciiText text := by
  -- `\d` and `\w` are the only classes that an interpreter has a say in
  have hsearch := @Pattern.search_congr PatternClass Char patternTable (@patternTable asciiText)
    legacyAlgorithmPattern text (by
      intro c hc k
      cases k with
      | letter d => rfl
      | digit =>
          show (PyText.decimal c).isSome = _
          rw [PyText.decimal_ascii c (h c hc)]
          rfl
      | separator => rfl) fun c hc => PyText.isWord_ascii c (h c hc)
  unfold Clean
  rw [hsearch]

/-! ## 2. The replacement -/

theorem isWord_of_ignoreCase {c d : Char} (hc : c ∈ ['R', 'E', 'X', 'D', 'M', 'G'])
    (h : ignoreCase c d = true) : PyText.isWord d = true := by
  -- none of the six is the `I` or the `S` of `ignoreCase`
  have hd : d = c ∨ d = c.toLower := by
    simp only [List.mem_cons, List.not_mem_nil, or_false] at hc
    rcases hc with rfl | rfl | rfl | rfl | rfl | rfl <;> simpa [ignoreCase] using h
  have hascii : ∀ e ∈ ['R', 'E', 'X', 'D', 'M', 'G'], isAscii e = true ∧ isAscii e.toLower = true ∧
      isAsciiWord e = true ∧ isAsciiWord e.toLower = true := by decide
  rcases hd with rfl | rfl
  · rw [PyText.isWord_ascii d (hascii d hc).1]
    exact (hascii d hc).2.2.1
  · rw [PyText.isWord_ascii _ (hascii c hc).2.1]
    exact (hascii c hc).2.2.2

theorem ignoreCase_of_first {d : Char} (h : legacyAlgorithmPattern.first patternTable d = true) :
    ∃ c ∈ ['R', 'E', 'X', 'D', 'M', 'G'], ignoreCase c d = true := by
  rw [legacyAlgorithmPattern, Pattern.first_oneOf, List.any_eq_true] at h
  obtain ⟨r, hr, hfirst⟩ := h
  simp only [legacyText, String.reduceToList, List.map_cons, List.mem_cons, List.not_mem_nil,
    or_false] at hr
  rcases hr with rfl | rfl | rfl | rfl | rfl | rfl | rfl | rfl | rfl | rfl | rfl | rfl <;>
    simp only [Pattern.first_literal_seq, Pattern.first_literal_cons] at hfirst <;>
    exact ⟨_, by decide, hfirst⟩

/-- The only `l` of the pattern are the two of `HELLMAN`. -/
theorem last_legacy : legacyAlgorithmPattern.last patternTable 'l' = false := by
  have hdigit : PyText.decimal 'l' = none := by
    rw [PyText.decimal_ascii 'l' (by decide)]
    rfl
  simp [legacyAlgorithmPattern, legacyText, legacySize, legacyCurve, Pattern.oneOf,
    Pattern.literal, Pattern.opt, Pattern.last, Pattern.nullable, patternTable, ignoreCase, hdigit]

theorem pair_legacy : legacyAlgorithmPattern.pair patternTable 'l' 'e' = false := by
  have hdigit : PyText.decimal 'l' = none := by
    rw [PyText.decimal_ascii 'l' (by decide)]
    rfl
  simp [legacyAlgorithmPattern, legacyText, legacySize, legacyCurve, Pattern.oneOf,
    Pattern.literal, Pattern.opt, Pattern.pair, Pattern.last, Pattern.first, Pattern.nullable,
    patternTable, ignoreCase, hdigit]

/-- Where a match could start in the replacement, the character before is a letter. -/
theorem inside_replacement (u : List Char) (d : Char) (v : List Char)
    (hword : u ++ d :: v = "legacy-public-key".toList)
    (h : legacyAlgorithmPattern.first patternTable d = true) :
    u.getLast?.any PyText.isWord = true := by
  obtain ⟨c, hc, hd⟩ := ignoreCase_of_first h
  have hcut : (u, d :: v) ∈ cuts "legacy-public-key".toList := mem_cuts.mpr hword
  -- every `e` and `g` of the replacement stands behind a letter
  have hbefore : ∀ cut ∈ cuts "legacy-public-key".toList, ∀ e ∈ cut.2.head?,
      (∃ c ∈ ['R', 'E', 'X', 'D', 'M', 'G'], ignoreCase c e = true) →
        cut.1.getLast?.any (fun e' => isAscii e' && isAsciiWord e') = true := by
    decide +kernel
  obtain ⟨e, hlast, hword⟩ := (Option.any_eq_true _ _).mp (hbefore _ hcut d rfl ⟨c, hc, hd⟩)
  rw [Bool.and_eq_true] at hword
  rw [hlast, Option.any_some, PyText.isWord_ascii e hword.1]
  exact hword.2

theorem replacement_inert :
    legacyAlgorithmPattern.Inert patternTable "legacy-public-key".toList where
  not_nullable := by decide
  first_isWord := by
    intro d h
    obtain ⟨c, hc, hd⟩ := ignoreCase_of_first h
    exact isWord_of_ignoreCase hc hd
  entry := ⟨'l', 'e', "gacy-public-key".toList, rfl, PyText.isWord_ascii 'l' (by decide),
    last_legacy, pair_legacy⟩
  inside := inside_replacement
  exit_isWord := PyText.isWord_ascii 'y' (by decide)

theorem redacted_clean (value : List Char) : Clean (redactLegacyAlgorithm value) :=
  replacement_inert.search_sub value

end

/-! ## 3. JSON values -/

mutual

def texts : Json → List (List Char)
  | .str s => [s.toList]
  | .list xs => listTexts xs
  | .dict kvs => dictTexts kvs
  | _ => []

def listTexts : List Json → List (List Char)
  | [] => []
  | x :: xs => texts x ++ listTexts xs

def dictTexts : List (String × Json) → List (List Char)
  | [] => []
  | (key, x) :: kvs => key.toList :: (texts x ++ dictTexts kvs)

end

mutual

def keys : Json → List (List Char)
  | .list xs => listKeys xs
  | .dict kvs => dictKeys kvs
  | _ => []

def listKeys : List Json → List (List Char)
  | [] => []
  | x :: xs => keys x ++ listKeys xs

def dictKeys : List (String × Json) → List (List Char)
  | [] => []
  | (key, x) :: kvs => key.toList :: (keys x ++ dictKeys kvs)

end

theorem mem_dictTexts {kvs : List (String × Json)} {text : List Char} :
    text ∈ dictTexts kvs ↔ ∃ kv ∈ kvs, text = kv.1.toList ∨ text ∈ texts kv.2 := by
  induction kvs with
  | nil => simp [dictTexts]
  | cons kv kvs ih =>
      rw [dictTexts, List.mem_cons, List.mem_append, ih, List.exists_mem_cons_iff, or_assoc]

theorem keys_of_not_truthy {value : Json} (h : value.truthy = false) : keys value = [] := by
  cases value with
  | list xs =>
      have hnil : xs = [] := by simpa [Json.truthy] using h
      rw [hnil]
      rfl
  | dict kvs =>
      have hnil : kvs = [] := by simpa [Json.truthy] using h
      rw [hnil]
      rfl
  | _ => rfl

section

variable [PyText]

mutual

def redactLegacyAlgorithms : Json → Json
  -- the keys are kept as they are
  | .dict kvs => .dict (redactDict kvs)
  | .list xs => .list (redactList xs)
  | .str s => .str (String.ofList (redactLegacyAlgorithm s.toList))
  | value => value

def redactList : List Json → List Json
  | [] => []
  | x :: xs => redactLegacyAlgorithms x :: redactList xs

def redactDict : List (String × Json) → List (String × Json)
  | [] => []
  | (key, x) :: kvs => (key, redactLegacyAlgorithms x) :: redactDict kvs

end

def AllClean (value : Json) : Prop := ∀ text ∈ texts value, Clean text

mutual

theorem allClean_redacted (value : Json) :
    AllClean (redactLegacyAlgorithms value) ↔ ∀ key ∈ keys value, Clean key := by
  cases value with
  | str s =>
      constructor
      · intro _ key hkey
        cases hkey
      · intro _ text htext
        rw [redactLegacyAlgorithms, texts, String.toList_ofList] at htext
        rw [List.mem_singleton.mp htext]
        exact redacted_clean s.toList
  | list xs => exact allClean_redactList xs
  | dict kvs => exact allClean_redactDict kvs
  | null | bool | int | float =>
      constructor
      · intro _ key hkey
        cases hkey
      · intro _ text htext
        cases htext

theorem allClean_redactList (xs : List Json) :
    (∀ text ∈ listTexts (redactList xs), Clean text) ↔ ∀ key ∈ listKeys xs, Clean key := by
  cases xs with
  | nil => exact Iff.rfl
  | cons x xs =>
      rw [redactList, listTexts, listKeys, List.forall_mem_append, List.forall_mem_append]
      exact and_congr (allClean_redacted x) (allClean_redactList xs)

theorem allClean_redactDict (kvs : List (String × Json)) :
    (∀ text ∈ dictTexts (redactDict kvs), Clean text) ↔ ∀ key ∈ dictKeys kvs, Clean key := by
  cases kvs with
  | nil => exact Iff.rfl
  | cons kv kvs =>
      obtain ⟨key, x⟩ := kv
      rw [redactDict, dictTexts, dictKeys, List.forall_mem_cons, List.forall_mem_cons,
        List.forall_mem_append, List.forall_mem_append]
      exact and_congr_right fun _ =>
        and_congr (allClean_redacted x) (allClean_redactDict kvs)

end

end

/-! ## 4. The payload -/

structure ScoredAsset where
  assetId : Id
  asset : Asset
  target : Option (Id × Target)
  override : Option AssetContextOverride
  score : ℚ
  tier : Tier
  factors : Json

def idJson : Option Id → Json
  | none => .null
  | some id => .int id

def textJson (text : List Char) : Json := .str (String.ofList text)

def orEmpty (value : Json) : Json := if value.truthy then value else .dict []

def transportText : Transport → String
  | .tcp => "TCP"
  | .udp => "UDP"

def fieldName : ContextField → String
  | .sensitivity => "sensitivity"
  | .lifespanYears => "lifespan_years"
  | .criticality => "criticality"
  | .exposure => "exposure"
  | .serviceRole => "service_role"

def sourceText : ContextSource → String
  | .assetOverride => "asset_override"
  | .target => "target"
  | .heuristic => "heuristic"

def fieldJson : (field : ContextField) → Option field.Value → Json
  | _, none => .null
  | .lifespanYears, some years => .int (Int.ofNat years)
  | .sensitivity, some text => textJson text
  | .criticality, some text => textJson text
  | .exposure, some text => textJson text
  | .serviceRole, some text => textJson text

def contextItems (context : Context) : List (String × Json) :=
  contextFields.map fun field => (fieldName field, fieldJson field (context field))

def sourceItems (sources : ContextField → ContextSource) : List (String × Json) :=
  contextFields.map fun field => (fieldName field, .str (sourceText (sources field)))

def evidenceItems : Option Json → List (String × Json)
  | none => []
  | some evidence => [("homepage_inference", evidence)]

def targetPayload : Option (Id × Target) → Json
  | none => .null
  | some (id, target) =>
      .dict [("id", .int id), ("host", .str target.host), ("port", .int target.port),
        ("transport", .str (transportText target.transport)),
        ("protocol_hint", textJson target.protocolHint.text),
        ("sni", (target.sni.map Json.str).getD .null),
        ("agent_enabled", .bool target.agentEnabled),
        ("context", .dict (contextItems target.context.field ++
          evidenceItems target.context.homepageInference))]

section

variable [PyText]

def assetPayload (assetId : Id) (asset : Asset) : Json :=
  .dict [("id", .int assetId), ("snapshot_id", idJson asset.snapshot),
    ("bom_ref", textJson asset.bomRef), ("name", textJson asset.name),
    ("asset_class", textJson asset.assetClass), ("asset_type", textJson asset.assetType),
    ("algorithm", textJson (redactLegacyAlgorithm asset.algorithm)),
    ("algorithm_family", textJson (redactLegacyAlgorithm asset.algorithmFamily)),
    ("metadata", redactLegacyAlgorithms (orEmpty asset.metadata))]

def enrichedCbomPayload (row : ScoredAsset) : Json :=
  let target := row.target.map Prod.snd
  .dict [("asset", assetPayload row.assetId row.asset), ("target", targetPayload row.target),
    ("effective_context", .dict (contextItems (effectiveContext target row.override))),
    ("context_sources", .dict (sourceItems (contextSources target row.override))),
    ("risk", .dict [("score", .int (roundHalfEven row.score)), ("tier", textJson (tierText row.tier)),
      ("factors", redactLegacyAlgorithms (orEmpty row.factors))])]

/-! ## 5. What is left -/

omit [PyText] in
def contextTexts (context : Context) : List (List Char) :=
  contextFields.flatMap fun field => texts (fieldJson field (context field))

omit [PyText] in
def targetTexts : Option (Id × Target) → List (List Char)
  | none => []
  | some (_, target) =>
      target.host.toList :: target.sni.toList.map String.toList ++
        contextTexts target.context.field ++ target.context.homepageInference.toList.flatMap texts

omit [PyText] in
def unredactedTexts (row : ScoredAsset) : List (List Char) :=
  [row.asset.bomRef, row.asset.name, row.asset.assetClass, row.asset.assetType] ++
    keys row.asset.metadata ++ keys row.factors ++ contextTexts (overrideToDict row.override) ++
    targetTexts row.target

omit [PyText] in
def fixedTexts : List String :=
  ["asset", "id", "snapshot_id", "bom_ref", "name", "asset_class", "asset_type", "algorithm",
    "algorithm_family", "metadata", "target", "host", "port", "transport", "protocol_hint", "sni",
    "agent_enabled", "context", "homepage_inference", "effective_context", "context_sources",
    "risk", "score", "tier", "factors", "sensitivity", "lifespan_years", "criticality", "exposure",
    "service_role", "asset_override", "heuristic", "TCP", "UDP", "TLS", "SSH", "IKE", "SMTP",
    "IMAP", "POP3", "UNKNOWN", "CRITICAL", "HIGH", "MEDIUM", "LOW"]

theorem clean_of_fixed {word : String} (h : word ∈ fixedTexts) : Clean word.toList := by
  have hascii : ∀ w ∈ fixedTexts, ∀ c ∈ w.toList, isAscii c = true := by decide +kernel
  have hfixed : ∀ w ∈ fixedTexts,
      legacyAlgorithmPattern.search (@patternTable asciiText) w.toList = false := by
    decide +kernel
  exact (clean_ascii (hascii word h)).mpr (hfixed word h)

theorem allClean_dict {kvs : List (String × Json)} :
    AllClean (.dict kvs) ↔ ∀ kv ∈ kvs, Clean kv.1.toList ∧ AllClean kv.2 := by
  constructor
  · intro h kv hkv
    have hkey := h kv.1.toList (mem_dictTexts.mpr ⟨kv, hkv, .inl rfl⟩)
    exact ⟨hkey, fun text htext => h text (mem_dictTexts.mpr ⟨kv, hkv, .inr htext⟩)⟩
  · intro h text htext
    obtain ⟨kv, hkv, rfl | htext⟩ := mem_dictTexts.mp htext
    · exact (h kv hkv).1
    · exact (h kv hkv).2 text htext

theorem allClean_object {kvs : List (String × Json)}
    (hkeys : ∀ key ∈ kvs.map Prod.fst, key ∈ fixedTexts) :
    AllClean (.dict kvs) ↔ ∀ value ∈ kvs.map Prod.snd, AllClean value := by
  rw [allClean_dict, List.forall_mem_map]
  refine forall₂_congr fun kv hkv => ?_
  have hkey : Clean kv.1.toList := clean_of_fixed (hkeys kv.1 (List.mem_map_of_mem hkv))
  exact and_iff_right hkey

@[simp] theorem allClean_str {word : String} : AllClean (.str word) ↔ Clean word.toList :=
  List.forall_mem_singleton

@[simp] theorem allClean_textJson {text : List Char} : AllClean (textJson text) ↔ Clean text := by
  rw [textJson, allClean_str, String.toList_ofList]

@[simp] theorem allClean_null : AllClean .null := fun _ h => nomatch h

@[simp] theorem allClean_bool {b : Bool} : AllClean (.bool b) := fun _ h => nomatch h

@[simp] theorem allClean_int {n : Int} : AllClean (.int n) := fun _ h => nomatch h

@[simp] theorem allClean_idJson {id : Option Id} : AllClean (idJson id) := by
  cases id <;> simp [idJson]

theorem allClean_orEmpty_redacted {value : Json} :
    AllClean (redactLegacyAlgorithms (orEmpty value)) ↔ ∀ key ∈ keys value, Clean key := by
  rw [allClean_redacted, orEmpty]
  cases h : value.truthy with
  | true => rfl
  | false =>
      rw [keys_of_not_truthy h]
      rfl

theorem allClean_contextItems {context : Context} :
    AllClean (.dict (contextItems context)) ↔ ∀ text ∈ contextTexts context, Clean text := by
  have hkeys : ∀ key ∈ (contextItems context).map Prod.fst, key ∈ fixedTexts := by
    simp [contextItems, contextFields, fieldName, fixedTexts]
  rw [allClean_object hkeys, contextTexts, contextItems, List.map_map, List.forall_mem_map,
    List.forall_mem_flatMap]
  rfl

theorem allClean_sourceItems (sources : ContextField → ContextSource) :
    AllClean (.dict (sourceItems sources)) := by
  have hkeys : ∀ key ∈ (sourceItems sources).map Prod.fst, key ∈ fixedTexts := by
    simp [sourceItems, contextFields, fieldName, fixedTexts]
  rw [allClean_object hkeys, sourceItems, List.map_map, List.forall_mem_map]
  intro field _
  apply allClean_str.mpr
  apply clean_of_fixed
  cases sources field <;> decide

/-- The effective context has the texts of the override, and texts of the target. -/
theorem clean_effectiveContext {target : Option Target} {override : Option AssetContextOverride}
    (htarget : ∀ text ∈ contextTexts (targetContext target), Clean text) :
    (∀ text ∈ contextTexts (effectiveContext target override), Clean text) ↔
      ∀ text ∈ contextTexts (overrideToDict override), Clean text := by
  simp only [contextTexts, List.forall_mem_flatMap] at htarget ⊢
  refine forall₂_congr fun field hfield => ?_
  unfold effectiveContext
  cases h : overrideToDict override field with
  | some value => rfl
  -- the target's value, which is in the payload already
  | none => exact iff_of_true (htarget field hfield) fun _ htext => by cases field <;> cases htext

theorem allClean_targetContext {context : TargetContext} :
    AllClean (.dict (contextItems context.field ++ evidenceItems context.homepageInference)) ↔
      (∀ text ∈ contextTexts context.field, Clean text) ∧
        ∀ text ∈ context.homepageInference.toList.flatMap texts, Clean text := by
  rw [allClean_dict, List.forall_mem_append, ← allClean_dict, allClean_contextItems]
  apply and_congr_right
  intro _
  cases context.homepageInference with
  | none => exact iff_of_true (fun _ h => nomatch h) fun _ h => nomatch h
  | some evidence =>
      have hkey : Clean "homepage_inference".toList := clean_of_fixed (by decide)
      rw [evidenceItems, List.forall_mem_singleton, and_iff_right hkey]
      simp [AllClean]

theorem allClean_targetPayload {target : Option (Id × Target)} :
    AllClean (targetPayload target) ↔ ∀ text ∈ targetTexts target, Clean text := by
  cases target with
  | none => exact iff_of_true allClean_null fun _ h => nomatch h
  | some row =>
      obtain ⟨id, target⟩ := row
      have htransport : Clean (transportText target.transport).toList := by
        apply clean_of_fixed
        cases target.transport <;> decide
      have hhint : Clean target.protocolHint.text := by
        cases target.protocolHint with
        | tls => exact @clean_of_fixed _ "TLS" (by decide)
        | ssh => exact @clean_of_fixed _ "SSH" (by decide)
        | ike => exact @clean_of_fixed _ "IKE" (by decide)
        | smtp => exact @clean_of_fixed _ "SMTP" (by decide)
        | imap => exact @clean_of_fixed _ "IMAP" (by decide)
        | pop3 => exact @clean_of_fixed _ "POP3" (by decide)
        | unknown => exact @clean_of_fixed _ "UNKNOWN" (by decide)
      have hsni : AllClean ((target.sni.map Json.str).getD .null) ↔
          ∀ text ∈ target.sni.toList.map String.toList, Clean text := by
        cases target.sni <;> simp
      rw [targetPayload, allClean_object (by simp [fixedTexts])]
      simp only [List.map_cons, List.map_nil, List.forall_mem_cons, List.not_mem_nil,
        false_implies, implies_true, allClean_int, allClean_str, allClean_textJson, allClean_bool,
        htransport, hhint, hsni, allClean_targetContext, true_and, and_true, targetTexts,
        List.cons_append, List.append_assoc, List.forall_mem_append]

theorem allClean_assetPayload {assetId : Id} {asset : Asset} :
    AllClean (assetPayload assetId asset) ↔
      (∀ text ∈ [asset.bomRef, asset.name, asset.assetClass, asset.assetType], Clean text) ∧
        ∀ key ∈ keys asset.metadata, Clean key := by
  rw [assetPayload, allClean_object (by simp [fixedTexts])]
  simp only [List.map_cons, List.map_nil, List.forall_mem_cons, List.not_mem_nil, false_implies,
    implies_true, allClean_int, allClean_idJson, allClean_textJson, redacted_clean,
    allClean_orEmpty_redacted, true_and, and_true, and_assoc]

theorem allClean_riskPayload {score : Int} {tier : Tier} {factors : Json} :
    AllClean (.dict [("score", .int score), ("tier", textJson (tierText tier)),
      ("factors", redactLegacyAlgorithms (orEmpty factors))]) ↔
        ∀ key ∈ keys factors, Clean key := by
  have htier : Clean (tierText tier) := by
    cases tier with
    | critical => exact @clean_of_fixed _ "CRITICAL" (by decide)
    | high => exact @clean_of_fixed _ "HIGH" (by decide)
    | medium => exact @clean_of_fixed _ "MEDIUM" (by decide)
    | low => exact @clean_of_fixed _ "LOW" (by decide)
  rw [allClean_object (by simp [fixedTexts])]
  simp only [List.map_cons, List.map_nil, List.forall_mem_cons, List.not_mem_nil, false_implies,
    implies_true, allClean_int, allClean_textJson, htier, allClean_orEmpty_redacted, true_and, and_true]

omit [PyText] in
theorem contextTexts_targetContext {target : Option (Id × Target)} {text : List Char}
    (h : text ∈ contextTexts (targetContext (target.map Prod.snd))) :
    text ∈ targetTexts target := by
  cases target with
  | none =>
      obtain ⟨field, -, htext⟩ := List.mem_flatMap.mp h
      cases field <;> cases htext
  | some row =>
      rw [targetTexts]
      exact List.mem_append_left _ (List.mem_append_right _ h)

/-- No string of the payload names a legacy algorithm exactly if no unredacted text does. -/
theorem payload_clean_iff (row : ScoredAsset) :
    (∀ text ∈ texts (enrichedCbomPayload row), Clean text) ↔
      ∀ text ∈ unredactedTexts row, Clean text := by
  show AllClean (enrichedCbomPayload row) ↔ _
  rw [enrichedCbomPayload, allClean_object (by simp [fixedTexts])]
  simp only [List.map_cons, List.map_nil, List.forall_mem_cons, List.not_mem_nil, false_implies,
    implies_true, allClean_assetPayload, allClean_targetPayload, allClean_contextItems,
    allClean_sourceItems, allClean_riskPayload, true_and, and_true, unredactedTexts,
    List.forall_mem_append]
  constructor
  · rintro ⟨⟨hasset, hmetadata⟩, htarget, heffective, hfactors⟩
    -- the target's own texts are in the payload, so only those of the override are left
    have hoverride := (clean_effectiveContext fun text htext =>
      htarget text (contextTexts_targetContext htext)).mp heffective
    exact ⟨⟨⟨⟨hasset, hmetadata⟩, hfactors⟩, hoverride⟩, htarget⟩
  · rintro ⟨⟨⟨⟨hasset, hmetadata⟩, hfactors⟩, hoverride⟩, htarget⟩
    have heffective := (clean_effectiveContext fun text htext =>
      htarget text (contextTexts_targetContext htext)).mpr hoverride
    exact ⟨⟨hasset, hmetadata⟩, htarget, heffective, hfactors⟩

end

def namedCertificate : ScoredAsset where
  assetId := 0
  asset :=
    { snapshot := some 0
      target := none
      name := "RSA-2048 server certificate".toList
      assetClass := "crypto".toList
      assetType := "certificate".toList
      bomRef := "cert-1".toList
      algorithm := "RSA-2048".toList
      algorithmFamily := "RSA".toList
      metadata := .dict [] }
  target := none
  override := none
  score := 84
  tier := .critical
  factors := .dict []

theorem namedCertificate_leaks :
    letI := asciiText
    ¬ ∀ text ∈ texts (enrichedCbomPayload namedCertificate), Clean text := by
  decide +kernel

end CryptoScanner.Snapshots
