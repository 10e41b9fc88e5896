import CryptoScanner.Library.Tally
import CryptoScanner.Risk.Services
import CryptoScanner.Scan.MergedAssets
import CryptoScanner.Snapshots.Pagination
import CryptoScanner.Snapshots.QuantumVulnerable

/-!
# The dashboard

The counts of `get_dashboard_summary`, and how they agree with the summary that the scan wrote for
its snapshot.
-/

namespace CryptoScanner.Dashboard

open Library Python RiskEngine Snapshots Scan

/-! ## 1. The counts of a snapshot -/

def privateKeyAssetTypes : List (List Char) :=
  ["key", "ssh_user_key", "keystore_entry", "package_key"].map String.toList

structure TrendEntry where
  snapshotId : Id
  criticalCount : Nat
  totalCount : Nat
  deriving DecidableEq, Repr

structure DashboardCounts where
  assetCount : Nat
  byTier : List (List Char × Nat)
  byAssetType : List (List Char × Nat)
  byAlgorithmFamily : List (List Char × Nat)
  quantumVulnerableRatio : VulnerableRatio
  expiringCertificates : Nat
  dormantPrivateKeys : Nat
  trend : List TrendEntry
  deriving DecidableEq, Repr

def assetsOf (db : Database) (snapshotId : Id) : List Asset :=
  (db.assets.ids fun asset => asset.snapshot == some snapshotId).filterMap db.assets.find?

def scoresOfSnapshot (db : Database) (snapshotId : Id) : List RiskScore :=
  (db.scores.ids fun score => score.snapshot == some snapshotId).filterMap db.scores.find?

/-- `asset.algorithm_family or "UNKNOWN"` -/
def familyKey (family : List Char) : List Char := if family = [] then "UNKNOWN".toList else family

/-- `_asset_expiration`, given how a value is read as a time. -/
def expiryKeys : List String := ["expires_at", "not_after", "valid_to", "valid_until", "expiration"]

def expiryContainers (metadata : List (String × Json)) : List (List (String × Json)) :=
  metadata :: ["summary", "certificate", "validity"].filterMap fun key =>
    match metadata.lookup key with
    | some (.dict kvs) => some kvs
    | _ => none

def assetExpiration (parseExpiration : Json → Option Time) (metadata : List (String × Json)) :
    Option Time :=
  (expiryContainers metadata).firstM fun container =>
    expiryKeys.firstM fun key => parseExpiration ((container.lookup key).getD .null)

def metadataOf (asset : Asset) : List (String × Json) :=
  match asset.metadata with
  | .dict kvs => kvs
  | _ => []

/-- `timedelta(days=EXPIRING_CERTIFICATE_WINDOW_DAYS)`, in seconds. -/
def expiringWindow : Nat := 90 * 86400

def expiringCertificateCount (parseExpiration : Json → Option Time) (now : Time)
    (assets : List Asset) : Nat :=
  assets.countP fun asset => asset.assetType == "certificate".toList &&
    (assetExpiration parseExpiration (metadataOf asset)).any fun expiresAt =>
      decide (now ≤ expiresAt ∧ expiresAt ≤ now + expiringWindow)

section

variable [PyText] (floatRepr : PyFloat → List Char)

def mentionsPrivateKey (value : Json) : Bool :=
  decide (Has "private_key" (casefold (value.pyStr floatRepr)))

/-- `str(value or "")`, entry by entry for a list. -/
def evidenceMentionsKey : Json → Bool
  | .list xs => xs.any (mentionsPrivateKey floatRepr)
  | value => mentionsPrivateKey floatRepr (if value.truthy then value else .str "")

def hasPrivateKeyFileEvidence (metadata : List (String × Json)) : Bool :=
  (metadataGet metadata "private_key_paths").truthy ||
    ["scanner", "type", "path", "source_scanners", "source_paths"].any fun key =>
      evidenceMentionsKey floatRepr (metadataGet metadata key)

def isDormantPrivateKey (assetType : List Char) (metadata : List (String × Json)) : Bool :=
  decide (assetType ∈ privateKeyAssetTypes) && hasPrivateKeyFileEvidence floatRepr metadata &&
    (metadataBool floatRepr (metadataGet metadata "dormant") == some true ||
      metadataBool floatRepr (metadataGet metadata "in_use") == some false)

def dormantPrivateKeyCount (assets : List Asset) : Nat :=
  assets.countP fun asset => isDormantPrivateKey floatRepr asset.assetType (metadataOf asset)

/-- One entry of `trend`. -/
def trendEntry (db : Database) (snapshotId : Id) : TrendEntry where
  snapshotId
  criticalCount := (scoresOfSnapshot db snapshotId).countP fun score =>
    score.result.tier == .critical
  totalCount := (assetsOf db snapshotId).length

/-- `get_dashboard_summary` for the snapshot `latest`; `recent` is what the query of the ten newest
snapshots answers. -/
def dashboardCounts (db : Database) (parseExpiration : Json → Option Time) (now : Time)
    (latest : Id) (recent : List Id) : DashboardCounts :=
  let assets := assetsOf db latest
  { assetCount := assets.length
    byTier := tally ((scoresOfSnapshot db latest).map fun score => tierText score.result.tier)
    byAssetType := tally (assets.map Asset.assetType)
    byAlgorithmFamily := tally (assets.map fun asset => familyKey asset.algorithmFamily)
    quantumVulnerableRatio := vulnerableRatio assets
    expiringCertificates := expiringCertificateCount parseExpiration now assets
    dormantPrivateKeys := dormantPrivateKeyCount floatRepr assets
    trend := (recent.map (trendEntry db)).reverse }

end

/-! ## 2. Every asset is counted once -/

def total (counts : List (List Char × Nat)) : Nat := (counts.map Prod.snd).sum

theorem vulnerableCount_eq_countP (assets : List Asset) :
    vulnerableCount assets =
      assets.countP fun asset => decide (asset.algorithmFamily ∈ vulnerableFamilies) := by
  induction assets using List.reverseRecOn with
  | nil => rfl
  | append_singleton assets asset ih =>
      rw [vulnerableCount_append, ih, List.countP_append, List.countP_singleton]
      simp only [decide_eq_true_eq]

theorem vulnerable_le_known (assets : List Asset) :
    vulnerableCount assets ≤ (assets.filter fun asset => asset.algorithmFamily ≠ []).length := by
  rw [vulnerableCount_eq_countP, ← List.countP_eq_length_filter]
  apply List.countP_mono_left
  intro asset _ hfamily
  have hnil : [] ∉ vulnerableFamilies := by decide
  rw [decide_eq_true_eq] at hfamily ⊢
  exact fun h => hnil (h ▸ hfamily)

theorem vulnerableRatio_total (assets : List Asset) :
    let ratio := vulnerableRatio assets
    ratio.vulnerable + ratio.safe + ratio.unknown = assets.length := by
  have hvulnerable := vulnerable_le_known assets
  have hknown : (assets.filter fun asset => asset.algorithmFamily ≠ []).length ≤ assets.length :=
    List.length_filter_le _ _
  show vulnerableCount assets + (_ - vulnerableCount assets) + (assets.length - _) = assets.length
  omega

theorem tierText_injective {tier tier' : Tier} (h : tierText tier = tierText tier') :
    tier = tier' := by
  revert h
  cases tier <;> cases tier' <;> decide

section

variable [PyText] (floatRepr : PyFloat → List Char)

/-- The counts of every snapshot sum up to its rows, and its entry in the trend is made of them. -/
theorem dashboardCounts_total (db : Database) (parseExpiration : Json → Option Time) (now : Time)
    (latest : Id) (recent : List Id) :
    let counts := dashboardCounts floatRepr db parseExpiration now latest recent
    let ratio := counts.quantumVulnerableRatio
    total counts.byAssetType = counts.assetCount ∧
    total counts.byAlgorithmFamily = counts.assetCount ∧
    ratio.vulnerable + ratio.safe + ratio.unknown = counts.assetCount ∧
    total counts.byTier = (scoresOfSnapshot db latest).length ∧
    ∀ entry ∈ counts.trend, entry.snapshotId = latest →
      entry.totalCount = counts.assetCount ∧
      entry.criticalCount = (Dict.get? counts.byTier "CRITICAL".toList).getD 0 := by
  refine ⟨?_, ?_, vulnerableRatio_total _, ?_, ?_⟩
  · show total (tally _) = (assetsOf db latest).length
    rw [total, sum_tally, List.length_map]
  · show total (tally _) = (assetsOf db latest).length
    rw [total, sum_tally, List.length_map]
  · show total (tally _) = _
    rw [total, sum_tally, List.length_map]
  · intro entry hentry hlatest
    obtain ⟨id, -, rfl⟩ := List.mem_map.mp (List.mem_reverse.mp hentry)
    obtain rfl : id = latest := hlatest
    refine ⟨rfl, ?_⟩
    show (scoresOfSnapshot db id).countP _ = (Dict.get? (tally _) _).getD 0
    rw [Dict.get?, getD_lookup_tally_map]
    apply List.countP_congr
    intro score _
    rw [beq_iff_eq, decide_eq_true_eq]
    exact ⟨fun h => by rw [h]; rfl, fun h => tierText_injective h⟩

end

end CryptoScanner.Dashboard
