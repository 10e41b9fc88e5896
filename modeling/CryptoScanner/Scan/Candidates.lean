import CryptoScanner.Models

/-!
# Asset candidates

What a scanner reports, and the two functions of `scan_assets.py` that every scanner uses.  The
digest of `hashlib` is a parameter.
-/

namespace CryptoScanner.Scan

open Library Python

class Sha256 where
  /-- `sha256(..).hexdigest()` -/
  hexdigest : List UInt8 → List Char
  /-- The digest in base 64 without padding. -/
  base64digest : List UInt8 → List Char
  length_hexdigest : ∀ bytes, (hexdigest bytes).length = 64
  length_base64digest : ∀ bytes, (base64digest bytes).length = 43

@[reducible] def constantDigest : Sha256 where
  hexdigest _ := List.replicate 64 '0'
  base64digest _ := List.replicate 43 'A'
  length_hexdigest _ := List.length_replicate
  length_base64digest _ := List.length_replicate

structure AssetCandidate where
  targetId : Id
  scannerKind : List Char
  name : List Char
  assetType : List Char
  algorithm : List Char
  algorithmFamily : List Char
  bomRef : List Char
  metadata : List (String × Json) := []
  deriving DecidableEq, Repr

def encodeUtf8 (text : List Char) : List UInt8 := text.flatMap String.utf8EncodeChar

/-- `stable_bom_ref`, on the texts of its parts; `none` is a part that is `None`. -/
def stableBomRef [Sha256] (parts : List (Option (List Char))) : List Char :=
  (Sha256.hexdigest (encodeUtf8 (List.intercalate ['|'] (parts.filterMap id)))).take 24

theorem length_stableBomRef [Sha256] (parts : List (Option (List Char))) :
    (stableBomRef parts).length = 24 := by
  rw [stableBomRef, List.length_take, Sha256.length_hexdigest]
  rfl

def familyFromAlgorithm [PyText] (algorithm : List Char) : List Char :=
  let value := upper algorithm
  if Has "ML-KEM" value ∨ Has "MLKEM" value then "ML-KEM".toList
  else if Has "ML-DSA" value ∨ Has "MLDSA" value then "ML-DSA".toList
  else if Has "SLH-DSA" value then "SLH-DSA".toList
  else if Has "ECDSA" value ∨ Has "P-256" value ∨ Has "P-384" value ∨ Has "P-521" value ∨
      Has "SECP" value then "ECDSA".toList
  else if Has "ED25519" value ∨ Has "ED448" value then "EdDSA".toList
  else if Has "RSA" value then "RSA".toList
  else if Has "HMAC" value then "HMAC".toList
  else if Has "MODP" value ∨ Has "GROUP14" value ∨ Has "DIFFIE-HELLMAN" value ∨
      value = "DH".toList then "DH".toList
  else if Has "ECDH" value ∨ Has "X25519" value ∨ Has "X448" value ∨ Has "CURVE25519" value ∨
      Has "CURVE448" value ∨ Has "ECP-" value then "ECDH".toList
  else if Has "AES" value then "AES".toList
  else if Has "CHACHA" value then "ChaCha20".toList
  else []

end CryptoScanner.Scan
