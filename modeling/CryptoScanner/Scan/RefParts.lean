import Mathlib.Data.Set.Function
import CryptoScanner.Library.Join
import CryptoScanner.Python.JsonEncoder
import CryptoScanner.Scan.AgentMapper
import CryptoScanner.Scan.KeyAgreement

/-!
# The parts of a reference

`stable_bom_ref` leaves out the parts that are `None`, takes the texts of the others and joins them
with a bar, whether or not a part has a bar in it.
-/

namespace CryptoScanner.Scan

open Python Library

/-! ## 1. Parts and their texts -/

inductive RefPart where
  | missing
  | number (n : Int)
  | text (s : List Char)
  deriving DecidableEq, Repr

namespace RefPart

/-- `str(part)`, unless the part is `None`. -/
def str : RefPart → Option (List Char)
  | missing => none
  | number n => some (encodeInt n)
  | text s => some s

/-- Two parts of one kind: both are missing, numbers or texts. -/
inductive SameKind : RefPart → RefPart → Prop
  | missing : SameKind missing missing
  | number (m n : Int) : SameKind (number m) (number n)
  | text (s t : List Char) : SameKind (text s) (text t)

end RefPart

def bomRefOf [Sha256] (parts : List RefPart) : List Char := stableBomRef (parts.map RefPart.str)

def partTexts (parts : List RefPart) : List (List Char) := parts.filterMap RefPart.str

def joinedText (parts : List RefPart) : List Char := ['|'].intercalate (partTexts parts)

/-- The texts of the parts, cut at the bars in them.  Without any part there is one empty piece. -/
def pieces (parts : List RefPart) : List (List Char) :=
  if partTexts parts = [] then [[]] else (partTexts parts).flatMap (·.splitOn '|')

def truncatedDigest [Sha256] (bytes : List UInt8) : List Char := (Sha256.hexdigest bytes).take 24

theorem bomRefOf_eq [Sha256] (parts : List RefPart) :
    bomRefOf parts = truncatedDigest (encodeUtf8 (joinedText parts)) := by
  unfold bomRefOf stableBomRef joinedText partTexts
  rw [List.filterMap_map]
  rfl

/-- The reference of an agent finding is made of four texts. -/
theorem bomRef_candidateForFinding [PyText] [Sha256] (floatRepr : PyFloat → List Char)
    (targetId : Id) (target : Target) (finding : Finding) (sourceScanner : String)
    (algorithm : List Char) :
    (candidateForFinding floatRepr targetId target finding sourceScanner algorithm).bomRef =
      sourceScanner.toList ++ ':' :: bomRefOf ([target.host.toList,
        finding.text floatRepr "type" "agent_finding".toList,
        finding.text floatRepr "path" (finding.text floatRepr "type" "agent_finding".toList),
        algorithm].map .text) := rfl

theorem encodeInt_natCast (n : Nat) : encodeInt n = (toString n).toList := by
  have hnonneg : ¬ (n : Int) < 0 := by omega
  rw [encodeInt, if_neg hnonneg]
  exact Nat.toList_repr.symm

/-- The reference of an IKE transform is made of the host, five numbers and the algorithm. -/
theorem bomRef_ikeTransformCandidate [PyText] [Sha256] (targetId : Id) (target : Target)
    (proposalIndex transformIndex transformType transformId : Nat) (algorithm : List Char) :
    (ikeTransformCandidate targetId target proposalIndex transformIndex transformType transformId
        algorithm).bomRef =
      "network:ike:".toList ++ bomRefOf [.text target.host.toList, .number target.port,
        .number proposalIndex, .number transformIndex, .number transformType, .number transformId,
        .text algorithm] := by
  unfold bomRefOf
  simp only [List.map_cons, List.map_nil, RefPart.str, encodeInt_natCast]
  rfl

/-! ## 2. What a reference determines -/

theorem encodeUtf8_injective : Function.Injective encodeUtf8 := by
  intro s t h
  -- a string is a list of bytes with a proof that they are valid
  have hbytes : s.utf8Encode = t.utf8Encode := congrArg List.toByteArray h
  apply String.ofList_injective
  unfold String.ofList
  simp only [hbytes]

theorem splitOn_joinedText (parts : List RefPart) :
    (joinedText parts).splitOn '|' = pieces parts := by
  unfold joinedText pieces
  by_cases hempty : partTexts parts = []
  · rw [if_pos hempty, hempty]
    rfl
  · rw [if_neg hempty, splitOn_intercalate_eq '|' hempty]

theorem joinedText_eq_iff {a b : List RefPart} :
    joinedText a = joinedText b ↔ pieces a = pieces b := by
  rw [← splitOn_joinedText, ← splitOn_joinedText]
  exact (splitOn_injective '|').eq_iff.symm

theorem pieces_of_no_bar {parts : List RefPart} (hne : partTexts parts ≠ [])
    (h : ∀ text ∈ partTexts parts, '|' ∉ text) : pieces parts = partTexts parts := by
  rw [← splitOn_joinedText]
  exact List.splitOn_intercalate '|' h hne

/-- Tuples whose parts are of the same kinds are told apart by their texts. -/
theorem eq_of_partTexts_eq {a b : List RefPart} (hkinds : List.Forall₂ RefPart.SameKind a b)
    (h : partTexts a = partTexts b) : a = b := by
  unfold partTexts at h
  -- two missing parts leave no text, and two others leave one each
  induction hkinds with
  | nil => rfl
  | cons hkind _ ih =>
      cases hkind with
      | missing => rw [ih h]
      | number m n =>
          have hcons := List.cons.inj h
          rw [encodeInt_injective hcons.1, ih hcons.2]
      | text s t =>
          have hcons := List.cons.inj h
          rw [show s = t from hcons.1, ih hcons.2]

theorem partTexts_eq_nil_iff {a b : List RefPart} (hkinds : List.Forall₂ RefPart.SameKind a b) :
    partTexts a = [] ↔ partTexts b = [] := by
  unfold partTexts
  induction hkinds with
  | nil => rfl
  | cons hkind _ ih =>
      cases hkind with
      | missing => exact ih
      | number m n => simp [RefPart.str]
      | text s t => simp [RefPart.str]

/-- No text of the tuple has a bar in it. -/
def NoBar (parts : List RefPart) : Prop := ∀ text ∈ partTexts parts, '|' ∉ text

section

variable [Sha256] {S : Set (List UInt8)}

theorem bomRefOf_eq_iff (hdigest : Set.InjOn truncatedDigest S) {a b : List RefPart}
    (ha : encodeUtf8 (joinedText a) ∈ S) (hb : encodeUtf8 (joinedText b) ∈ S) :
    bomRefOf a = bomRefOf b ↔ pieces a = pieces b := by
  rw [bomRefOf_eq, bomRefOf_eq, hdigest.eq_iff ha hb, encodeUtf8_injective.eq_iff,
    joinedText_eq_iff]

/-- **A reference identifies its parts** exactly if no other tuple has the same pieces.  Tuples of
the same kinds without bars are always told apart. -/
theorem bomRefOf_identifies_iff (hdigest : Set.InjOn truncatedDigest S) {a b : List RefPart}
    (ha : encodeUtf8 (joinedText a) ∈ S) (hb : encodeUtf8 (joinedText b) ∈ S) :
    ((bomRefOf a = bomRefOf b → a = b) ↔ (a = b ∨ pieces a ≠ pieces b)) ∧
    (List.Forall₂ RefPart.SameKind a b → NoBar a → NoBar b → a = b ∨ pieces a ≠ pieces b) := by
  rw [bomRefOf_eq_iff hdigest ha hb]
  constructor
  · rw [imp_iff_or_not]
  · intro hkinds hbarA hbarB
    by_cases hpieces : pieces a = pieces b
    · left
      apply eq_of_partTexts_eq hkinds
      -- without a bar the pieces are the texts, unless there is none and the one piece is empty
      by_cases hempty : partTexts a = []
      · rw [hempty, (partTexts_eq_nil_iff hkinds).mp hempty]
      · have hother : partTexts b ≠ [] := fun hnil =>
          hempty ((partTexts_eq_nil_iff hkinds).mpr hnil)
        rw [← pieces_of_no_bar hempty hbarA, hpieces, pieces_of_no_bar hother hbarB]
    · exact .inr hpieces

end

def recordedDigests : List (String × String) :=
  [("web.testbed.local|tls_config|/etc/nginx/nginx.conf|x.conf|HIGH",
      "5bd3e9a213f21b2b7e982d5d1160a2a2e7497fb2a76abc99029935e9910fbe7c"),
    ("web.testbed.local|443|web.testbed.local|TLSv1.2",
      "19e85ee3660189b94e9097b417d95369a09438c03464baed668ae6a6acf5f816"),
    ("web.testbed.local|443|web.testbed.local|TLSv1.3",
      "f6ed5620868e887229cc3f62ede6e515b5f597ef32f09477da976ceb33a94a24")]

theorem length_constantBase64 (_ : List UInt8) : (List.replicate 43 'A').length = 43 :=
  List.length_replicate

@[reducible] def recordedSha256 : Sha256 where
  hexdigest bytes :=
    ((recordedDigests.find? fun entry => encodeUtf8 entry.1.toList = bytes).map
      (·.2.toList)).getD (List.replicate 64 '0')
  base64digest _ := List.replicate 43 'A'
  length_hexdigest bytes := by
    have hall : ∀ entry ∈ recordedDigests, entry.2.toList.length = 64 := by decide +kernel
    cases hfound : recordedDigests.find? fun entry => encodeUtf8 entry.1.toList = bytes with
    | none => exact List.length_replicate
    | some entry => exact hall entry (List.mem_of_find?_eq_some hfound)
  length_base64digest := length_constantBase64

def versionParts (version : String) : List RefPart :=
  [.text "web.testbed.local".toList, .number 443, .text "web.testbed.local".toList,
    .text version.toList]

def configParts (path algorithm : String) : List RefPart :=
  [.text "web.testbed.local".toList, .text "tls_config".toList, .text path.toList,
    .text algorithm.toList]

/-- Two versions of a service have two references. -/
theorem versions_identified : letI := recordedSha256
    (bomRefOf (versionParts "TLSv1.2") = bomRefOf (versionParts "TLSv1.3") →
        versionParts "TLSv1.2" = versionParts "TLSv1.3") ↔
      (versionParts "TLSv1.2" = versionParts "TLSv1.3" ∨
        pieces (versionParts "TLSv1.2") ≠ pieces (versionParts "TLSv1.3")) := by
  let := recordedSha256
  let S : Set (List UInt8) := {encodeUtf8 (joinedText (versionParts "TLSv1.2")),
    encodeUtf8 (joinedText (versionParts "TLSv1.3"))}
  have hdigest : Set.InjOn truncatedDigest S := by
    rw [Set.injOn_pair]
    intro hsame
    exact absurd hsame (by decide +kernel)
  exact (bomRefOf_identifies_iff hdigest (.inl rfl) (.inr rfl)).1

/-- A bar in a path and a bar in an algorithm make one reference of two tuples. -/
theorem bars_collide : letI := recordedSha256
    ¬ ∀ (S : Set (List UInt8)) (a b : List RefPart), Set.InjOn truncatedDigest S →
      encodeUtf8 (joinedText a) ∈ S → encodeUtf8 (joinedText b) ∈ S →
        bomRefOf a = bomRefOf b → a = b := by
  let := recordedSha256
  intro h
  have hsame : joinedText (configParts "/etc/nginx/nginx.conf|x.conf" "HIGH") =
      joinedText (configParts "/etc/nginx/nginx.conf" "x.conf|HIGH") := by decide +kernel
  have hequal := h {encodeUtf8 (joinedText (configParts "/etc/nginx/nginx.conf" "x.conf|HIGH"))}
    (configParts "/etc/nginx/nginx.conf|x.conf" "HIGH")
    (configParts "/etc/nginx/nginx.conf" "x.conf|HIGH")
    (Set.injOn_singleton _ _) (by rw [hsame]; rfl) rfl (by rw [bomRefOf_eq, bomRefOf_eq, hsame])
  exact absurd hequal (by decide +kernel)

end CryptoScanner.Scan
