import CryptoScanner.Scan.IkeParser
import CryptoScanner.Scan.KeyAgreementMapping

/-!
# Reading back an SA payload

Proposals, transforms and attributes in the layout of the probe's encoder, in a message with any
other payloads.  The parser of responses gives a candidate for each transform, in the order of the
message.
-/

namespace CryptoScanner.Scan

open Library Python

/-! ## 1. Attributes -/

/-- An attribute with its value in two bytes, or with its length there and its value after them. -/
inductive IkeAttribute
  | fixed (attrType value : Nat) (type_lt : attrType < 0x8000) (value_lt : value < 65536)
  | sized (attrType : Nat) (value : Bytes) (type_lt : attrType < 0x8000)
      (length_lt : value.length < 65536)

def IkeAttribute.encode : IkeAttribute → Bytes
  | fixed attrType value _ _ => packH (0x8000 + attrType) ++ packH value
  | sized attrType value _ _ => packH attrType ++ packH value.length ++ value

def IkeAttribute.keyLength : IkeAttribute → Option Nat
  | fixed attrType value _ _ => if attrType = 14 then some value else none
  | sized _ _ _ _ => none

theorem ikeKeyLength_fixed {t₁ t₀ : UInt8} {attrType : Nat} (h : attrType < 0x8000)
    (htype : halfWord t₁ t₀ = 0x8000 + attrType) (v₁ v₀ : UInt8) (rest : Bytes) :
    ikeKeyLength (t₁ :: t₀ :: v₁ :: v₀ :: rest) =
      if attrType = 14 then some (halfWord v₁ v₀) else ikeKeyLength rest := by
  have htypeOrFormat : unpackHalf t₁ t₀ = 0x8000 + attrType := htype
  rw [ikeKeyLength]
  rw [htypeOrFormat]
  by_cases hkey : attrType = 14
  · rw [if_pos (by omega), if_pos hkey]
    rfl
  · rw [if_neg (by omega), if_pos (by omega), if_neg hkey]

theorem ikeKeyLength_sized {t₁ t₀ : UInt8} (h : halfWord t₁ t₀ < 0x8000) (v₁ v₀ : UInt8)
    (rest : Bytes) :
    ikeKeyLength (t₁ :: t₀ :: v₁ :: v₀ :: rest) =
      ikeKeyLength (rest.drop (halfWord v₁ v₀)) := by
  have htypeOrFormat : unpackHalf t₁ t₀ < 0x8000 := h
  rw [ikeKeyLength]
  rw [if_neg (by omega), if_neg (by omega)]
  rfl

theorem ikeKeyLength_encode (a : IkeAttribute) (rest : Bytes) :
    ikeKeyLength (a.encode ++ rest) = a.keyLength.or (ikeKeyLength rest) := by
  cases a with
  | fixed attrType value htype hvalue =>
      have hread := ikeKeyLength_fixed htype
        (halfWord_packH (by omega : 0x8000 + attrType < 65536)) (packB (value / 256))
        (packB (value % 256)) rest
      rw [halfWord_packH hvalue] at hread
      refine hread.trans ?_
      by_cases hkey : attrType = 14
      · rw [if_pos hkey, IkeAttribute.keyLength, if_pos hkey, Option.some_or]
      · rw [if_neg hkey, IkeAttribute.keyLength, if_neg hkey, Option.none_or]
  | sized attrType value htype hlength =>
      have hskip := halfWord_packH hlength
      have hattrType : halfWord (packB (attrType / 256)) (packB (attrType % 256)) < 0x8000 := by
        rw [halfWord_packH (by omega : attrType < 65536)]
        exact htype
      have hread := ikeKeyLength_sized hattrType (packB (value.length / 256))
        (packB (value.length % 256)) (value ++ rest)
      rw [hskip, List.drop_left] at hread
      refine Eq.trans ?_ hread
      simp only [IkeAttribute.encode, packH, List.cons_append, List.nil_append]

/-- The parser finds the first key length attribute. -/
theorem ikeKeyLength_attributes (attributes : List IkeAttribute) :
    ikeKeyLength (attributes.flatMap IkeAttribute.encode) =
      attributes.findSome? IkeAttribute.keyLength := by
  induction attributes with
  | nil => simp [ikeKeyLength]
  | cons a attributes ih =>
      rw [List.flatMap_cons, ikeKeyLength_encode, ih, List.findSome?_cons]
      cases a.keyLength <;> rfl

/-! ## 2. Transforms -/

structure SaTransform where
  transformType : Nat
  transformId : Nat
  attributes : List IkeAttribute
  known : transformType ∈ ikeTransformType.map Prod.fst
  id_lt : transformId < 65536
  fits : 8 + (attributes.flatMap IkeAttribute.encode).length < 65536

namespace SaTransform

/-- `b"".join(..)` of the attributes -/
def attrs (t : SaTransform) : Bytes := t.attributes.flatMap IkeAttribute.encode

def read (t : SaTransform) : IkeTransform := ⟨t.transformType, t.transformId, t.attrs⟩

theorem type_lt (t : SaTransform) : t.transformType < 256 := by
  have hknown := t.known
  simp only [ikeTransformType, List.map_cons, List.map_nil, List.mem_cons, List.not_mem_nil,
    or_false] at hknown
  omega

def algorithm (t : SaTransform) : Option (List Char) :=
  ikeAlgorithmName t.transformType t.transformId (t.attributes.findSome? IkeAttribute.keyLength)

theorem isSome_algorithm (t : SaTransform) : t.algorithm.isSome := by
  have hknown := t.known
  simp only [ikeTransformType, List.map_cons, List.map_nil, List.mem_cons, List.not_mem_nil,
    or_false] at hknown
  rcases hknown with htype | htype | htype | htype
  all_goals simp only [algorithm, ikeAlgorithmName, htype]
  · split <;> rfl
  all_goals rfl

def name (t : SaTransform) : List Char := t.algorithm.get t.isSome_algorithm

theorem algorithm_read (t : SaTransform) : t.read.algorithm = some t.name := by
  rw [name, Option.some_get, IkeTransform.algorithm, ikeAlgorithm_eq, read, attrs,
    ikeKeyLength_attributes, algorithm]

/-- `b"".join(_ike_transform(more=.., ..) for ..)` -/
def encode : List SaTransform → Bytes
  | [] => []
  | t :: ts => ikeTransform (!ts.isEmpty) t.transformType t.transformId t.attrs ++ encode ts

theorem transformsOf_encode (ts : List SaTransform) : transformsOf (encode ts) = ts.map read := by
  induction ts with
  | nil => simp [encode, transformsOf]
  | cons t ts ih =>
      have hbytes : encode (t :: ts) =
          packB (if !ts.isEmpty then 3 else 0) :: packB 0 ::
            packB ((8 + t.attrs.length) / 256) :: packB ((8 + t.attrs.length) % 256) ::
            packB t.transformType :: packB 0 :: packB (t.transformId / 256) ::
            packB (t.transformId % 256) :: (t.attrs ++ encode ts) := by
        simp only [encode, ikeTransform, packH, List.cons_append, List.nil_append]
      have hfits : 8 + t.attrs.length < 65536 := t.fits
      rw [hbytes, transformsOf, halfWord_packH hfits, halfWord_packH t.id_lt, toNat_packB t.type_lt,
        if_neg (by rw [List.length_append]; omega), Nat.add_sub_cancel_left, List.take_left,
        List.drop_left, ih]
      cases ts with
      | nil => rfl
      | cons next ts => rfl

end SaTransform

/-! ## 3. Proposals -/

/-- A proposal with an SPI of any size, all of whose lengths fit their fields. -/
structure SaProposal where
  next : UInt8
  number : UInt8
  protocol : UInt8
  transformCount : UInt8
  spi : Bytes
  transforms : List SaTransform
  spi_lt : spi.length < 256
  fits : 8 + spi.length + (SaTransform.encode transforms).length < 65536

namespace SaProposal

def encode (p : SaProposal) : Bytes :=
  ikeProposal p.next p.number p.protocol p.transformCount p.spi (SaTransform.encode p.transforms)

theorem proposalsOf_encode (ps : List SaProposal) :
    proposalsOf (ps.flatMap encode) = ps.map (·.transforms.map SaTransform.read) := by
  induction ps with
  | nil => simp [proposalsOf]
  | cons p ps ih =>
      obtain ⟨body, hbody⟩ : ∃ body, body = p.spi ++ SaTransform.encode p.transforms := ⟨_, rfl⟩
      have hlength : body.length = p.spi.length + (SaTransform.encode p.transforms).length := by
        rw [hbody, List.length_append]
      have hfits : 8 + body.length < 65536 := by
        have hproposal := p.fits
        omega
      have hbytes : (p :: ps).flatMap encode =
          p.next :: packB 0 :: packB ((8 + body.length) / 256) :: packB ((8 + body.length) % 256) ::
            p.number :: p.protocol :: packB p.spi.length :: p.transformCount ::
            (body ++ ps.flatMap encode) := by
        rw [hlength, hbody]
        simp only [List.flatMap_cons, encode, ikeProposal, packH, List.append_assoc,
          List.cons_append, List.nil_append, Nat.add_assoc]
      rw [hbytes, proposalsOf, halfWord_packH hfits, toNat_packB p.spi_lt,
        if_neg (by rw [List.length_append]; omega), Nat.add_sub_cancel_left, List.take_left,
        List.drop_left, ih, hbody, List.drop_left, SaTransform.transformsOf_encode]
      rfl

end SaProposal

/-! ## 4. Messages -/

/-- A payload of a message; its type stands in the payload or header before it. -/
structure IkePayload where
  payloadType : UInt8
  flags : UInt8
  body : Bytes
  type_ne : payloadType ≠ 0
  fits : 4 + body.length < 65536

namespace IkePayload

def nextType : List IkePayload → UInt8
  | [] => 0
  | payload :: _ => payload.payloadType

def encode : List IkePayload → Bytes
  | [] => []
  | payload :: payloads =>
      ikePayload (nextType payloads) payload.flags payload.body ++ encode payloads

theorem payloadsOf_encode (payloads : List IkePayload) (trailing : Bytes) :
    payloadsOf (nextType payloads).toNat (encode payloads ++ trailing) =
      payloads.map fun payload => (payload.payloadType.toNat, payload.body) := by
  induction payloads with
  | nil => exact payloadsOf_zero _
  | cons payload payloads ih =>
      have hbytes : encode (payload :: payloads) ++ trailing =
          nextType payloads :: payload.flags :: packB ((4 + payload.body.length) / 256) ::
            packB ((4 + payload.body.length) % 256) ::
            (payload.body ++ (encode payloads ++ trailing)) := by
        simp only [encode, ikePayload, packH, List.append_assoc, List.cons_append, List.nil_append]
      have htype : (nextType (payload :: payloads)).toNat ≠ 0 :=
        fun h => payload.type_ne (byte_eq_zero.mp h)
      rw [hbytes, payloadsOf, halfWord_packH payload.fits,
        if_neg (by rw [List.length_append]; omega), Nat.add_sub_cancel_left, List.take_left,
        List.drop_left, ih]
      rfl

end IkePayload

/-- An IKE_SA_INIT message with an SA payload among other payloads.  Its initiator SPI does not
begin as the NAT-T marker does, unless the marker stands in front. -/
structure IkeMessage where
  natT : Bool
  spis : Bytes
  fields : Bytes
  before : List IkePayload
  flags : UInt8
  proposals : List SaProposal
  after : List IkePayload
  trailing : Bytes
  spis_length : spis.length = 16
  fields_length : fields.length = 11
  fits : 4 + (proposals.flatMap SaProposal.encode).length < 65536
  others : ∀ payload ∈ before ++ after, payload.payloadType.toNat ≠ ikeNextPayloadSa
  spi_ne : natT = false → spis.take 4 ≠ [0, 0, 0, 0]

namespace IkeMessage

def saPayload (m : IkeMessage) : IkePayload where
  payloadType := packB ikeNextPayloadSa
  flags := m.flags
  body := m.proposals.flatMap SaProposal.encode
  type_ne := by decide
  fits := m.fits

def payloads (m : IkeMessage) : List IkePayload := m.before ++ m.saPayload :: m.after

def header (m : IkeMessage) : Bytes := m.spis ++ IkePayload.nextType m.payloads :: m.fields

def encode (m : IkeMessage) : Bytes :=
  (if m.natT then [0, 0, 0, 0] else []) ++
    (m.header ++ (IkePayload.encode m.payloads ++ m.trailing))

theorem ikeOffset_encode (m : IkeMessage) : ikeOffset m.encode = if m.natT then 4 else 0 := by
  cases hnatT : m.natT with
  | true =>
      rw [ikeOffset, encode, hnatT, if_pos rfl]
      exact if_pos (List.prefix_append _ _)
  | false =>
      rw [ikeOffset, encode, hnatT, if_neg Bool.false_ne_true, if_neg Bool.false_ne_true]
      refine if_neg fun hstart => m.spi_ne hnatT ?_
      have htake := List.prefix_iff_eq_take.mp hstart
      rw [header, List.nil_append, List.append_assoc, List.length_cons, List.length_cons,
        List.length_cons, List.length_cons, List.length_nil,
        List.take_append_of_le_length (by rw [m.spis_length]; decide)] at htake
      exact htake.symm

theorem drop_encode (m : IkeMessage) :
    m.encode.drop (ikeOffset m.encode + 16) =
      IkePayload.nextType m.payloads :: (m.fields ++ (IkePayload.encode m.payloads ++ m.trailing)) := by
  have hmarker : (if m.natT then [0, 0, 0, 0] else [] : Bytes).length =
      if m.natT then 4 else 0 := by
    cases m.natT <;> rfl
  rw [ikeOffset_encode, ← hmarker, encode, ← List.drop_drop, List.drop_left, header,
    List.append_assoc, ← m.spis_length, List.drop_left]
  rfl

section

variable [PyText] [Sha256] (targetId : Id) (target : Target)

/-- A candidate for each transform, with the places of its proposal and of itself. -/
def candidates (m : IkeMessage) : List AssetCandidate :=
  (m.proposals.zipIdx 1).flatMap fun (proposal, proposalIndex) =>
    (proposal.transforms.zipIdx 1).map fun (t, transformIndex) =>
      ikeTransformCandidate targetId target proposalIndex transformIndex t.transformType
        t.transformId t.name

variable {targetId target}

theorem transformCandidates_read (proposalIndex first : Nat) (ts : List SaTransform) :
    transformCandidates targetId target proposalIndex first (ts.map SaTransform.read) =
      (ts.zipIdx first).map fun (t, transformIndex) =>
        ikeTransformCandidate targetId target proposalIndex transformIndex t.transformType
          t.transformId t.name := by
  induction ts generalizing first with
  | nil => rfl
  | cons t ts ih =>
      rw [List.map_cons, transformCandidates_cons, ih, IkeTransform.candidates, t.algorithm_read]
      rfl

theorem proposalCandidates_read (first : Nat) (ps : List SaProposal) :
    proposalCandidates targetId target first (ps.map (·.transforms.map SaTransform.read)) =
      (ps.zipIdx first).flatMap fun (proposal, proposalIndex) =>
        (proposal.transforms.zipIdx 1).map fun (t, transformIndex) =>
          ikeTransformCandidate targetId target proposalIndex transformIndex t.transformType
            t.transformId t.name := by
  induction ps generalizing first with
  | nil => rfl
  | cons p ps ih =>
      rw [List.map_cons, proposalCandidates_cons, ih, transformCandidates_read]
      rfl

theorem payloadCandidates_others (targetId : Id) (target : Target)
    {payloads : List IkePayload}
    (h : ∀ payload ∈ payloads, payload.payloadType.toNat ≠ ikeNextPayloadSa) :
    payloadCandidates targetId target
      (payloads.map fun payload => (payload.payloadType.toNat, payload.body)) = [] := by
  rw [payloadCandidates, List.flatMap_map, List.flatMap_eq_nil_iff]
  intro payload hpayload
  exact if_neg (h payload hpayload)

theorem payloadCandidates_payloads (m : IkeMessage) :
    payloadCandidates targetId target
      (m.payloads.map fun payload => (payload.payloadType.toNat, payload.body)) =
      m.candidates targetId target := by
  have hbefore := payloadCandidates_others targetId target fun p hp =>
    m.others p (List.mem_append_left _ hp)
  have hafter := payloadCandidates_others targetId target fun p hp =>
    m.others p (List.mem_append_right _ hp)
  rw [payloads, payloadCandidates, List.map_append, List.flatMap_append, ← payloadCandidates,
    hbefore, List.map_cons, List.flatMap_cons, ← payloadCandidates, hafter, List.nil_append,
    List.append_nil, bodyCandidates, if_pos (by rfl)]
  rw [saPayload, SaProposal.proposalsOf_encode, proposalCandidates_read, candidates]

/-- Every transform is read back, once and in order, under the name of its type, its identifier and
its key length. -/
theorem parse_encode (m : IkeMessage) (targetId : Id) (target : Target) (fuel : Nat)
    (hfuel : m.encode.length < fuel) :
    parseIkeResponseCandidates targetId target fuel m.encode =
      some (.ok (m.candidates targetId target)) := by
  rw [parseIkeResponseCandidates_eq targetId target hfuel, responseCandidates, drop_encode]
  dsimp only
  rw [if_neg (by rw [List.length_append, m.fields_length]; omega), ← m.fields_length,
    List.drop_left, IkePayload.payloadsOf_encode, payloadCandidates_payloads]

end

/-- The transforms of `_ike_sa_payload`. -/
def probeTransforms : List SaTransform :=
  [⟨1, 12, [.fixed 14 256 (by decide) (by decide)], by decide, by decide, by decide⟩,
    ⟨2, 5, [], by decide, by decide, by decide⟩, ⟨3, 12, [], by decide, by decide, by decide⟩,
    ⟨4, 14, [], by decide, by decide, by decide⟩]

/-- The payload of the probe, behind a marker and a header of zeros. -/
def probeMessage : IkeMessage where
  natT := true
  spis := List.replicate 16 0
  fields := List.replicate 11 0
  before := []
  flags := 0
  proposals := [⟨0, 1, 1, 4, [], probeTransforms, by decide, by decide⟩]
  after := [⟨packB ikeNextPayloadKe, 0, [], by decide, by decide⟩]
  trailing := []
  spis_length := rfl
  fields_length := rfl
  fits := by decide
  others := by decide
  spi_ne := nofun

example : ikeSaPayload <:+: probeMessage.encode := by decide

theorem probeMessage_parse_encode : letI := asciiText; letI := constantDigest
    parseIkeResponseCandidates 1 ikeGateway 100 probeMessage.encode =
      some (.ok (probeMessage.candidates 1 ikeGateway)) :=
  letI := asciiText
  letI := constantDigest
  parse_encode probeMessage 1 ikeGateway 100 (by decide)

end IkeMessage

end CryptoScanner.Scan
