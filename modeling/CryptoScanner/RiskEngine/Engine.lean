import Mathlib.Data.Rat.Floor
import CryptoScanner.Python.IpAddress
import CryptoScanner.Python.Number

/-!
# The risk engine

`compute_risk` and its factor functions.  The floating-point factors are exact rationals, and
`round` rounds half to even.
-/

namespace CryptoScanner.RiskEngine

open Python

/-! ## 1. Data -/

structure Weights where
  wA : ℚ
  wD : ℚ
  wE : ℚ
  wL : ℚ
  wC : ℚ
  deriving DecidableEq, Repr

def defaultWeights : Weights := ⟨1, 1, 1, 1, 1⟩

inductive ContextField
  | sensitivity
  | lifespanYears
  | criticality
  | exposure
  | serviceRole
  deriving DecidableEq, Repr

/-- `CONTEXT_FIELDS` and `TARGET_CONTEXT_FIELDS`. -/
def contextFields : List ContextField :=
  [.sensitivity, .lifespanYears, .criticality, .exposure, .serviceRole]

theorem mem_contextFields (field : ContextField) : field ∈ contextFields := by
  cases field <;> decide

def ContextField.Value : ContextField → Type
  | .lifespanYears => Nat
  | _ => List Char

instance (field : ContextField) : DecidableEq field.Value :=
  match field with
  | .lifespanYears => inferInstanceAs (DecidableEq Nat)
  | .sensitivity => inferInstanceAs (DecidableEq (List Char))
  | .criticality => inferInstanceAs (DecidableEq (List Char))
  | .exposure => inferInstanceAs (DecidableEq (List Char))
  | .serviceRole => inferInstanceAs (DecidableEq (List Char))

/-- The five context fields; `none` is the `None` of an unset field. -/
abbrev Context := (field : ContextField) → Option field.Value

/-- `default_context()` and `empty_context()`. -/
def emptyContext : Context := fun _ => none

instance : DecidableEq Context := fun c d =>
  decidable_of_iff (∀ field ∈ contextFields, c field = d field)
    ⟨fun h => funext fun field => h field (mem_contextFields field), fun h _ _ => h ▸ rfl⟩

inductive ContextSource
  | assetOverride
  | target
  | heuristic
  deriving DecidableEq, Repr

inductive Tier
  | critical
  | high
  | medium
  | low
  deriving DecidableEq, Repr

structure Factors where
  a : ℚ
  d : ℚ
  e : ℚ
  l : ℚ
  c : ℚ
  deriving DecidableEq, Repr

/-- Where the factors came from; factor `a` always comes from the algorithm table. -/
structure FactorSources where
  d : ContextSource
  e : ContextSource
  l : ContextSource
  c : ContextSource
  deriving DecidableEq, Repr

structure RiskResult where
  score : Int
  tier : Tier
  factors : Factors
  weightedFactors : Factors
  sources : FactorSources
  raw : ℚ
  weightedRaw : ℚ
  weights : Weights
  deriving DecidableEq, Repr

/-! ## 2. Arithmetic -/

inductive WeightError
  | wA
  | wD
  | wE
  | wL
  | wC
  deriving DecidableEq, Repr

def checkWeight (key : WeightError) (value : ℚ) : Except WeightError Unit :=
  if value < 1 / 2 ∨ 2 < value then throw key else pure ()

/-- `normalize_weights`; it raises on the first key out of range. -/
def normalizeWeights (weights : Weights) : Except WeightError Weights := do
  checkWeight .wA weights.wA
  checkWeight .wD weights.wD
  checkWeight .wE weights.wE
  checkWeight .wL weights.wL
  checkWeight .wC weights.wC
  return weights

def tierForScore (score : Int) : Tier :=
  if 80 ≤ score then .critical
  else if 60 ≤ score then .high
  else if 30 ≤ score then .medium
  else .low

def averageContextFactor (factors : Factors) : ℚ :=
  (factors.d + factors.e + factors.l + factors.c) / 4

def applyFactorWeight (value weight : ℚ) : ℚ :=
  if value ≤ 0 then 0
  else if 1 ≤ value then 1
  else max 0 (min 1 (1 / 2 + (value - 1 / 2) * weight))

/-! ## 3. Factors -/

section

variable [PyText]

def normalizeAlgorithmText (value : List Char) : List Char := upper (strip value)

def sizedFactor (name : List Char) (default : ℚ) (thresholds : List (Nat × ℚ)) : ℚ :=
  match thresholds.find? fun threshold => Has (toString threshold.1) name with
  | some threshold => threshold.2
  | none => default

def classicalThresholds : List (Nat × ℚ) :=
  [(1024, 1), (2048, 19 / 20), (3072, 9 / 10), (4096, 17 / 20)]

def algorithmFactor (algorithm algorithmFamily assetType : List Char) : ℚ :=
  let name := normalizeAlgorithmText algorithm
  let family := normalizeAlgorithmText algorithmFamily
  let combined := strip (family ++ ' ' :: name)
  if combined = [] then 1 / 2
  else if Has "ML-KEM" combined ∨ Has "ML-DSA" combined ∨ Has "SLH-DSA" combined ∨
      Has "FALCON" combined ∨ Has "FN-DSA" combined then
    if Has "+" combined ∨ Has "HYBRID" combined then 1 / 10 else 0
  else if Has "HYBRID" combined then 1 / 10
  else if Has "RSA" combined then sizedFactor name (19 / 20) classicalThresholds
  else if Has "DSA" combined ∧ ¬ Has "ECDSA" combined then
    sizedFactor name (19 / 20) classicalThresholds
  else if Has "ECDSA" combined ∨ Has "ECDH" combined then
    if Has "P-256" combined ∨ Has "SECP256" combined then 19 / 20
    else if Has "P-384" combined ∨ Has "SECP384" combined then 9 / 10
    else if Has "P-521" combined ∨ Has "SECP521" combined then 17 / 20
    else 9 / 10
  else if Has "X25519" combined ∨ Has "X448" combined ∨ Has "ED25519" combined ∨
      Has "ED448" combined then 9 / 10
  else if Has "DH" combined ∨ Has "MODP" combined then
    sizedFactor name (19 / 20) classicalThresholds
  else if Has "SHA-1" combined ∨ Has "SHA1" combined then
    if Has "SIGN" combined ∨ assetType = "certificate".toList ∨ assetType = "signature".toList
    then 1 else 1 / 2
  else if Has "SHA-256" combined ∨ Has "SHA-384" combined ∨ Has "SHA-512" combined ∨
      Has "SHA2" combined then 1 / 20
  else if Has "AES-128" combined then 1 / 10
  else if Has "AES-192" combined ∨ Has "AES-256" combined then 1 / 20
  else if Has "CHACHA20" combined ∨ Has "HMAC" combined then 1 / 20
  else 1 / 2

/-- `normalized_context_value`; an unset field is the empty text. -/
def normalizedContextValue (value : Option (List Char)) : List Char :=
  lower (strip (value.getD []))

def tableFactor (table : List (String × ℚ)) (key : List Char) : Option ℚ :=
  (table.find? fun entry => entry.1.toList = key).map Prod.snd

def sensitivityFactors : List (String × ℚ) :=
  [("critical", 1), ("high", 4 / 5), ("medium", 1 / 2), ("low", 1 / 5)]

def exposureFactors : List (String × ℚ) :=
  [("public_internet", 1), ("dmz", 7 / 10), ("internal_network", 2 / 5), ("air_gapped", 1 / 10)]

def criticalityFactors : List (String × ℚ) :=
  [("critical", 1), ("high", 3 / 4), ("medium", 1 / 2), ("low", 1 / 4)]

def roleSensitivityFactors : List (String × ℚ) :=
  [("auth", 9 / 10), ("pki", 9 / 10), ("kms", 9 / 10), ("database", 4 / 5), ("db", 4 / 5),
    ("postgres", 4 / 5), ("postgresql", 4 / 5), ("mysql", 4 / 5), ("mail", 3 / 5),
    ("smtp", 3 / 5), ("imap", 3 / 5), ("pop3", 3 / 5)]

def roleCriticalityFactors : List (String × ℚ) :=
  [("auth", 1), ("pki", 1), ("kms", 1), ("payment", 1), ("database", 4 / 5), ("db", 4 / 5),
    ("postgres", 4 / 5), ("postgresql", 4 / 5), ("mysql", 4 / 5), ("mail", 3 / 5),
    ("vpn", 3 / 5), ("messaging", 3 / 5), ("web-frontend", 7 / 10), ("api-gateway", 7 / 10)]

def protocolSensitivityFactors : List (String × ℚ) :=
  [("SMTP", 3 / 5), ("IMAP", 3 / 5), ("POP3", 3 / 5)]

def dataFactor (context : Context) (protocolHint : Option (List Char)) : ℚ :=
  match tableFactor sensitivityFactors (normalizedContextValue (context .sensitivity)) with
  | some factor => factor
  | none =>
      match tableFactor roleSensitivityFactors (normalizedContextValue (context .serviceRole)) with
      | some factor => factor
      | none => (tableFactor protocolSensitivityFactors (upper (protocolHint.getD []))).getD (1 / 2)

def exposureFactor (context : Context) (targetIp : Option IpAddress) : ℚ :=
  match tableFactor exposureFactors (normalizedContextValue (context .exposure)) with
  | some factor => factor
  | none =>
      match targetIp with
      | some parsed =>
          if parsed.isPrivate || parsed.isLoopback || parsed.isLinkLocal then 2 / 5 else 1
      | none => 1 / 2

omit [PyText] in
def lifespanFactor (context : Context) : ℚ :=
  let value : Option Nat := context .lifespanYears
  match value with
  | none => 1 / 2
  | some years =>
      if 25 ≤ years then 1
      else if 15 ≤ years then 17 / 20
      else if 10 ≤ years then 7 / 10
      else if 5 ≤ years then 1 / 2
      else if 1 ≤ years then 3 / 10
      else 1 / 10

def criticalityFactor (context : Context) : ℚ :=
  match tableFactor criticalityFactors (normalizedContextValue (context .criticality)) with
  | some factor => factor
  | none =>
      (tableFactor roleCriticalityFactors (normalizedContextValue (context .serviceRole))).getD
        (1 / 2)

/-! ## 4. The score -/

/-- `compute_risk`, with the weights the caller has normalized. -/
def computeRisk (algorithm algorithmFamily assetType : List Char) (context : Context)
    (contextSources : ContextField → ContextSource) (targetIp : Option IpAddress)
    (protocolHint : Option (List Char)) (weights : Weights) : Except WeightError RiskResult := do
  let resolvedWeights ← normalizeWeights weights
  let factors : Factors :=
    { a := algorithmFactor algorithm algorithmFamily assetType
      d := dataFactor context protocolHint
      e := exposureFactor context targetIp
      l := lifespanFactor context
      c := criticalityFactor context }
  let weightedFactors : Factors :=
    { a := applyFactorWeight factors.a resolvedWeights.wA
      d := applyFactorWeight factors.d resolvedWeights.wD
      e := applyFactorWeight factors.e resolvedWeights.wE
      l := applyFactorWeight factors.l resolvedWeights.wL
      c := applyFactorWeight factors.c resolvedWeights.wC }
  let weightedRaw := weightedFactors.a * averageContextFactor weightedFactors
  let score := max 0 (min 100 (roundHalfEven (weightedRaw * 100)))
  return {
    score
    tier := tierForScore score
    factors
    weightedFactors
    sources :=
      { d := contextSources .sensitivity
        e := contextSources .exposure
        l := contextSources .lifespanYears
        c := contextSources .criticality }
    raw := factors.a * averageContextFactor factors
    weightedRaw
    weights := resolvedWeights }

end

end CryptoScanner.RiskEngine
