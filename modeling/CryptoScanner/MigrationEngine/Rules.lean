import CryptoScanner.Library.Regex
import CryptoScanner.Python.Text

/-!
# The mapping rules

`mapping_rules.json` with its rules in the order of the file, and the functions that read it.  An
absent algorithm or family is the empty text, which every function of the engine treats alike.
-/

namespace CryptoScanner.MigrationEngine

open Library Python

/-! ## 1. Data -/

inductive Kind
  | pqc
  | kem
  | signature
  | hash
  | symmetric
  | safeClassical
  | unknown
  deriving DecidableEq, Repr

inductive Purpose
  | keyAgreement
  | keyExchange
  | digitalSignature
  | longTermSignature
  | hashIntegrity
  | symmetricEncryption
  | unknown
  deriving DecidableEq, Repr

/-- An entry of an algorithm set: a name, or the placeholder for the current algorithm. -/
inductive SetEntry
  | name (text : String)
  | algorithm
  deriving DecidableEq, Repr

structure Rule where
  matchRegex : Regex Char
  assetTypes : List String := []
  kind : Kind
  purpose : Option Purpose := none
  preserveCurrent : Bool := false
  hybridSet : List SetEntry := []
  replaceSet : List SetEntry := []
  longTermHybridSet : Option (List SetEntry) := none
  longTermReplaceSet : Option (List SetEntry) := none
  classicallyWeak : Bool := false
  classicallyWeakIfContains : List String := []
  deriving DecidableEq, Repr

/-- A pattern of the form `(w|v|..)`. -/
def anyOf (w : String) (ws : List String) : Regex Char := .oneOf w.toList (ws.map String.toList)

def ecp256 : Regex Char :=
  .seq (.text "ECP".toList) (.seq (.opt (.text "-".toList)) (.text "256".toList))

/-- `(\bDH\b|MODP|DIFFIE-HELLMAN|GROUP)` -/
def dhAliases : Regex Char :=
  .alt (.whole (.text "DH".toList)) (anyOf "MODP" ["DIFFIE-HELLMAN", "GROUP"])

/-! ## 2. The rules of the file -/

def pqcReady : Rule where
  matchRegex := anyOf "ML-KEM" ["ML-DSA", "SLH-DSA", "FALCON", "FN-DSA"]
  kind := .pqc
  preserveCurrent := true

def ecdhX25519P256Kex : Rule where
  matchRegex := .alt (.alt (anyOf "X25519" ["CURVE25519", "ECDH-SHA2-NISTP256"]) ecp256)
    (.text "NISTP256".toList)
  assetTypes := ["protocol", "key_agreement"]
  kind := .kem
  purpose := some .keyAgreement
  hybridSet := [.name "X25519", .name "ML-KEM-768"]
  replaceSet := [.name "ML-KEM-768"]

def dhKexAliases : Rule where
  matchRegex := dhAliases
  assetTypes := ["protocol", "key_agreement"]
  kind := .kem
  purpose := some .keyAgreement
  hybridSet := [.name "X25519", .name "ML-KEM-768"]
  replaceSet := [.name "ML-KEM-768"]
  classicallyWeakIfContains := ["1024"]

def sha1Signing : Rule where
  matchRegex := anyOf "SHA-1" ["SHA1"]
  kind := .hash
  purpose := some .digitalSignature
  replaceSet := [.name "SHA-256+"]
  classicallyWeak := true

def aes128 : Rule where
  matchRegex := .text "AES-128".toList
  kind := .symmetric
  purpose := some .symmetricEncryption
  replaceSet := [.name "AES-256"]

def safeClassicalHash : Rule where
  matchRegex := anyOf "SHA-256" ["SHA-384", "SHA-512", "SHA2"]
  kind := .safeClassical
  purpose := some .hashIntegrity
  preserveCurrent := true

def safeClassicalSymmetric : Rule where
  matchRegex := anyOf "AES-192" ["AES-256", "CHACHA20", "HMAC"]
  kind := .safeClassical
  purpose := some .symmetricEncryption
  preserveCurrent := true

def ecdsaP384P521 : Rule where
  matchRegex := .seq (.text "ECDSA".toList) (.seq .dots
    (anyOf "384" ["521", "P-384", "P384", "P-521", "P521", "SECP384", "SECP521"]))
  kind := .signature
  purpose := some .digitalSignature
  hybridSet := [.name "ECDSA P-384", .name "ML-DSA-87"]
  replaceSet := [.name "ML-DSA-87"]
  longTermHybridSet := some [.name "ECDSA P-384", .name "SLH-DSA-SHA2-192s"]
  longTermReplaceSet := some [.name "SLH-DSA-SHA2-192s"]

def ecdsaP256Aliases : Rule where
  matchRegex := .whole (anyOf "P-256" ["P256", "PRIME256V1", "SECP256R1", "NISTP256"])
  assetTypes := ["certificate", "key", "algorithm", "ssh_host_key", "ssh_user_key"]
  kind := .signature
  purpose := some .digitalSignature
  hybridSet := [.name "ECDSA P-256", .name "ML-DSA-65"]
  replaceSet := [.name "ML-DSA-65"]
  longTermHybridSet := some [.name "ECDSA P-256", .name "SLH-DSA-SHA2-128s"]
  longTermReplaceSet := some [.name "SLH-DSA-SHA2-128s"]

def ecdsaDefault : Rule where
  matchRegex := .text "ECDSA".toList
  kind := .signature
  purpose := some .digitalSignature
  hybridSet := [.name "ECDSA P-256", .name "ML-DSA-65"]
  replaceSet := [.name "ML-DSA-65"]
  longTermHybridSet := some [.name "ECDSA P-256", .name "SLH-DSA-SHA2-128s"]
  longTermReplaceSet := some [.name "SLH-DSA-SHA2-128s"]

def eddsaDefault : Rule where
  matchRegex := anyOf "ED25519" ["ED448", "EDDSA"]
  kind := .signature
  purpose := some .digitalSignature
  hybridSet := [.algorithm, .name "ML-DSA-65"]
  replaceSet := [.name "ML-DSA-65"]
  longTermHybridSet := some [.algorithm, .name "SLH-DSA-SHA2-128s"]
  longTermReplaceSet := some [.name "SLH-DSA-SHA2-128s"]

def ecdhHighSecurity : Rule where
  matchRegex := .alt (.alt (.seq (.text "ECDH".toList) (.seq .dots (anyOf "384" ["521"])))
    (.text "X448".toList)) (.text "CURVE448".toList)
  kind := .kem
  purpose := some .keyAgreement
  hybridSet := [.name "X448", .name "ML-KEM-1024"]
  replaceSet := [.name "ML-KEM-1024"]

def ecdhDefault : Rule where
  matchRegex := .alt (.alt (anyOf "ECDH" ["X25519", "CURVE25519"]) ecp256)
    (anyOf "NISTP256" ["SECP256R1"])
  kind := .kem
  purpose := some .keyAgreement
  hybridSet := [.name "X25519", .name "ML-KEM-768"]
  replaceSet := [.name "ML-KEM-768"]

def dhDefault : Rule where
  matchRegex := dhAliases
  kind := .kem
  purpose := some .keyAgreement
  hybridSet := [.name "X25519", .name "ML-KEM-768"]
  replaceSet := [.name "ML-KEM-768"]
  classicallyWeakIfContains := ["1024"]

def rsaKemLike : Rule where
  matchRegex := .text "RSA".toList
  assetTypes := ["key", "protocol", "key_agreement"]
  kind := .kem
  purpose := some .keyExchange
  hybridSet := [.name "X25519", .name "ML-KEM-768"]
  replaceSet := [.name "ML-KEM-768"]
  classicallyWeakIfContains := ["1024"]

def rsaSignature : Rule where
  matchRegex := .text "RSA".toList
  kind := .signature
  purpose := some .digitalSignature
  hybridSet := [.name "RSA-2048", .name "ML-DSA-65"]
  replaceSet := [.name "ML-DSA-65"]
  longTermHybridSet := some [.name "RSA-2048", .name "SLH-DSA-SHA2-128s"]
  longTermReplaceSet := some [.name "SLH-DSA-SHA2-128s"]
  classicallyWeakIfContains := ["1024"]

def mappingRules : List Rule :=
  [pqcReady, ecdhX25519P256Kex, dhKexAliases, sha1Signing, aes128, safeClassicalHash,
    safeClassicalSymmetric, ecdsaP384P521, ecdsaP256Aliases, ecdsaDefault, eddsaDefault,
    ecdhHighSecurity, ecdhDefault, dhDefault, rsaKemLike, rsaSignature]

def pqcMarkers : List String := ["ML-KEM", "ML-DSA", "SLH-DSA", "FALCON", "FN-DSA"]

def quantumVulnerableMarkers : List String :=
  ["RSA", "DSA", "ECDSA", "ECDH", "DH", "ED25519", "ED448", "X25519", "X448", "CURVE25519",
    "CURVE448", "MODP", "DIFFIE-HELLMAN", "GROUP14", "P-256", "P256", "PRIME256V1", "SECP256R1",
    "NISTP256", "ECP-256", "ECP256"]

/-! ## 3. Reading a text -/

section

variable [PyText]

def normalize (value : List Char) : List Char := strip (upper value)

/-- The character classes of `re` on text, without flags. -/
def textClasses : CharClasses Char := ⟨PyText.isWord, fun c => c == '\n'⟩

def combinedText (algorithmFamily algorithm : List Char) : List Char :=
  normalize algorithmFamily ++ ' ' :: normalize algorithm

def isQuantumVulnerable (algorithm algorithmFamily : List Char) : Bool :=
  let combined := combinedText algorithmFamily algorithm
  if pqcMarkers.any fun marker => Has marker combined then false
  else quantumVulnerableMarkers.any fun marker => Has marker combined

def ruleMatches (rule : Rule) (combined assetType : List Char) : Bool :=
  if rule.assetTypes ≠ [] ∧ assetType ∉ rule.assetTypes.map String.toList then false
  else rule.matchRegex.Search textClasses combined

end

/-! ## 4. What the patterns find -/

theorem search_anyOf {cls : CharClasses Char} {w : String} {ws : List String} {s : List Char} :
    (anyOf w ws).Search cls s ↔ ∃ v ∈ w :: ws, Has v s := by
  rw [anyOf, Regex.search_oneOf]
  simp only [List.mem_cons, List.mem_map, exists_eq_or_imp, exists_exists_and_eq_and]
  rfl

theorem search_ecp256 {cls : CharClasses Char} {s : List Char} :
    ecp256.Search cls s ↔ Has "ECP256" s ∨ Has "ECP-256" s :=
  Regex.search_opt_text

theorem search_dhAliases {cls : CharClasses Char} {s : List Char} :
    dhAliases.Search cls s ↔ (Regex.whole (.text "DH".toList)).Search cls s ∨
      Has "MODP" s ∨ Has "DIFFIE-HELLMAN" s ∨ Has "GROUP" s := by
  rw [dhAliases, Regex.search_alt, search_anyOf]
  simp only [List.mem_cons, List.not_mem_nil, or_false, exists_eq_or_imp, exists_eq_left]

/-- A word without white space is in a text exactly if it is in the stripped text. -/
theorem has_strip [PyText] {w : String} {s : List Char} (hw : w.toList ≠ [])
    (hspace : ∀ c ∈ w.toList, PyText.isSpace c = false) : Has w (strip s) ↔ Has w s := by
  unfold Has strip rstrip lstrip List.rdropWhile
  rw [← List.reverse_infix, List.reverse_reverse,
    infix_dropWhile (fun c hc => hspace c (List.mem_reverse.mp hc)) (by simpa using hw),
    List.reverse_infix, infix_dropWhile hspace hw]

end CryptoScanner.MigrationEngine
