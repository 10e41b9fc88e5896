import CryptoScanner.Scan.IkeRoundTrip
import CryptoScanner.Scan.NetworkCandidates

/-!
# Which IKE responses are taken for answers

The network scanner, the performance probe and the agent's discovery each send an IKE_SA_INIT
request and compare eight bytes of the response with the SPI that they drew.  Where these bytes
stand is decided by the response itself: four bytes of zeros in front are taken for the marker of
NAT traversal, also on the port that does not use it.
-/

namespace CryptoScanner.Scan

open Library Python

/-! ## 1. The request -/

/-- What `os.urandom` returns for one request. -/
structure IkeRandom where
  initiatorSpi : Bytes
  keyExchangeData : Bytes
  nonce : Bytes
  initiatorSpi_length : initiatorSpi.length = 8
  keyExchangeData_length : keyExchangeData.length = 256
  nonce_length : nonce.length = 32

def ikeNextPayloadNonce : Nat := 40

def ikeKePayload (random : IkeRandom) : Bytes :=
  ikePayload (packB ikeNextPayloadNonce) 0 (packH 14 ++ packH 0 ++ random.keyExchangeData)

def ikeNoncePayload (random : IkeRandom) : Bytes := ikePayload 0 0 random.nonce

/-- The marker in front of IKE messages on the port of NAT traversal. -/
def nonEspMarker : Bytes := [0, 0, 0, 0]

/-- `_build_ike_sa_init`, for a given SA payload. -/
def ikeSaInit (saPayload : Bytes) (natt : Bool) (random : IkeRandom) : Bytes × Bytes :=
  let body := saPayload ++ ikeKePayload random ++ ikeNoncePayload random
  let header := random.initiatorSpi ++ List.replicate 8 0 ++
    [packB ikeNextPayloadSa, 0x20, 34, 0x08] ++ packI 0 ++ packI (28 + body.length)
  let packet := header ++ body
  (if natt then nonEspMarker ++ packet else packet, random.initiatorSpi)

/-- `_build_ike_sa_init` of the network scanner. -/
def buildIkeSaInit (natt : Bool) (random : IkeRandom) : Bytes × Bytes :=
  ikeSaInit ikeSaPayload natt random

/-- `recvfrom(4096)`, of a datagram. -/
def recvfrom (datagram : Bytes) : Bytes := datagram.take 4096

/-! ## 2. The three probes -/

section

variable [PyText] [Sha256]

/-- `_scan_ike`; `exchange` is the datagram that comes for a packet, if the socket does not raise. -/
def scanIke (fuel : Nat) (targetId : Id) (target : Target) (random : IkeRandom)
    (exchange : Bytes → Option Bytes) : Outcome ReadError (List AssetCandidate) :=
  let (packet, initiatorSpi) := buildIkeSaInit (target.port = 4500) random
  let policy := fun algorithm : String =>
    [protocolPolicyCandidate targetId target .ike algorithm.toList]
  match (exchange packet).map recvfrom with
  | none => some (.ok (policy "IKE no response"))
  | some response =>
      let offset := ikeOffset response
      if response.length < offset + 28 ∨ (response.drop offset).take 8 ≠ initiatorSpi then
        some (.ok (policy "IKE response mismatch"))
      else
        Outcome.andThen (parseIkeResponseCandidates targetId target fuel response)
          fun candidates =>
        some (.ok (if candidates = [] then policy "IKE proposal unparsed" else candidates))

end

end CryptoScanner.Scan

namespace CryptoScanner.Performance

open Python Scan

inductive ProbeFailure
  | os
  /-- `ProbeError(message, response_code=..)` -/
  | probe (message responseCode : String)
  deriving DecidableEq

/-- `_probe_ike`; `elapsed` is the series of the one time that was measured. -/
def probeIke (target : Target) (random : IkeRandom) (exchange : Bytes → Option Bytes)
    (elapsed : Json) : Except ProbeFailure (List (String × Json)) :=
  let (packet, initiatorSpi) := buildIkeSaInit (target.port = 4500) random
  match (exchange packet).map recvfrom with
  | none => .error .os
  | some response =>
      let offset := ikeOffset response
      if response.length < offset + 28 ∨ (response.drop offset).take 8 ≠ initiatorSpi then
        .error (.probe "IKE response mismatch" "ike_response_mismatch")
      else
        .ok [("protocol", .str "IKE"), ("handshake_ms", elapsed), ("total_request_ms", elapsed),
          ("response_code", .str "ike_sa_init_response"),
          ("negotiated_algorithm", .str "IKEv2 SA_INIT")]

end CryptoScanner.Performance

namespace CryptoScanner.Agent

open Python Scan

/-- `DiscoveryEndpoint`, without the metrics that it is built without. -/
structure DiscoveryEndpoint where
  host : String
  port : Nat
  transport : String
  detectedProtocol : String
  suggestedProtocolHint : String
  deriving DecidableEq

/-- `_sa_payload`, whose encryption transform has no key length. -/
def saPayload : Bytes :=
  let transforms :=
    ikeTransform true 1 12 [] ++ ikeTransform true 2 5 [] ++ ikeTransform true 3 12 [] ++
      ikeTransform false 4 14 []
  ikePayload (packB ikeNextPayloadKe) 0 (ikeProposal 0 1 1 4 [] transforms)

/-- `_build_ike_sa_init` of the agent. -/
def buildIkeSaInit (natt : Bool) (random : IkeRandom) : Bytes × Bytes :=
  ikeSaInit saPayload natt random

def probeIke (host : String) (port : Nat) (random : IkeRandom)
    (exchange : Bytes → Option Bytes) : Option DiscoveryEndpoint :=
  let (packet, initiatorSpi) := buildIkeSaInit (port = 4500) random
  match (exchange packet).map recvfrom with
  | none => none
  | some response =>
      let offset := ikeOffset response
      if response.length < offset + 28 ∨ (response.drop offset).take 8 ≠ initiatorSpi then none
      else
        some
          { host
            port
            transport := "UDP"
            detectedProtocol := "IKE"
            suggestedProtocolHint := "IKE" }

end CryptoScanner.Agent

namespace CryptoScanner.Scan

open Library Python

/-! ## 3. Responses -/

/-- An IKE_SA_INIT response whose SA payload offers at least one transform. -/
structure IkeResponse where
  initiatorSpi : Bytes
  responderSpi : Bytes
  /-- Version, exchange type and flags. -/
  versionFields : Bytes
  before : List IkePayload
  flags : UInt8
  proposals : List SaProposal
  after : List IkePayload
  initiatorSpi_length : initiatorSpi.length = 8
  responderSpi_length : responderSpi.length = 8
  versionFields_length : versionFields.length = 3
  fits : 4 + (proposals.flatMap SaProposal.encode).length < 65536
  others : ∀ payload ∈ before ++ after, payload.payloadType.toNat ≠ ikeNextPayloadSa
  offers : ∃ proposal ∈ proposals, proposal.transforms ≠ []

theorem packB_ikeNextPayloadSa_ne : packB ikeNextPayloadSa ≠ 0 := by decide

namespace IkeResponse

def saPayload (r : IkeResponse) : IkePayload where
  payloadType := packB ikeNextPayloadSa
  flags := r.flags
  body := r.proposals.flatMap SaProposal.encode
  type_ne := packB_ikeNextPayloadSa_ne
  fits := r.fits

def payloads (r : IkeResponse) : List IkePayload := r.before ++ r.saPayload :: r.after

/-- The header after the type of the first payload: the message ID is zero. -/
def fields (r : IkeResponse) : Bytes :=
  r.versionFields ++ (packI 0 ++ packI (28 + (IkePayload.encode r.payloads).length))

def header (r : IkeResponse) : Bytes :=
  r.initiatorSpi ++ (r.responderSpi ++ IkePayload.nextType r.payloads :: r.fields)

def marker (natt : Bool) : Bytes := if natt then nonEspMarker else []

def encode (r : IkeResponse) (natt : Bool) : Bytes :=
  marker natt ++ (r.header ++ IkePayload.encode r.payloads)

def saEnd (r : IkeResponse) (natt : Bool) : Nat :=
  (marker natt).length + 28 + (IkePayload.encode r.before).length + (4 + r.saPayload.body.length)

def message (r : IkeResponse) : IkeMessage where
  natT := true
  spis := r.initiatorSpi ++ r.responderSpi
  fields := r.fields
  before := r.before
  flags := r.flags
  proposals := r.proposals
  after := r.after
  trailing := []
  spis_length := by rw [List.length_append, r.initiatorSpi_length, r.responderSpi_length]
  fields_length := by
    rw [fields, List.length_append, r.versionFields_length]
    rfl
  fits := r.fits
  others := r.others
  spi_ne := nofun

theorem header_length (r : IkeResponse) : r.header.length = 28 := by
  have hfields : r.fields.length = 11 := r.message.fields_length
  rw [header, List.length_append, List.length_append, r.initiatorSpi_length,
    r.responderSpi_length, List.length_cons, hfields]

end IkeResponse

/-! ## 4. What is received -/

namespace IkePayload

def received (n : Nat) : List IkePayload → List IkePayload
  | [] => []
  | payload :: payloads =>
      if 4 + payload.body.length ≤ n then
        payload :: received (n - (4 + payload.body.length)) payloads
      else []

theorem encode_cons_length (payload : IkePayload) (payloads : List IkePayload) :
    (encode (payload :: payloads)).length =
      4 + payload.body.length + (encode payloads).length := by
  simp only [encode, ikePayload, packH, List.length_append, List.length_cons, List.length_nil]

theorem payloadsOf_take (payloads : List IkePayload) (n : Nat) :
    payloadsOf (nextType payloads).toNat ((encode payloads).take n) =
      (received n payloads).map fun payload => (payload.payloadType.toNat, payload.body) := by
  induction payloads generalizing n with
  | nil => exact payloadsOf_zero _
  | cons payload payloads ih =>
      have hbytes : encode (payload :: payloads) =
          nextType payloads :: payload.flags :: packB ((4 + payload.body.length) / 256) ::
            packB ((4 + payload.body.length) % 256) :: (payload.body ++ encode payloads) := by
        simp only [encode, ikePayload, packH, List.cons_append, List.nil_append]
      have htype : (nextType (payload :: payloads)).toNat ≠ 0 :=
        fun h => payload.type_ne (byte_eq_zero.mp h)
      by_cases hheader : n < 4
      · rw [payloadsOf_short (by rw [List.length_take]; omega), received, if_neg (by omega)]
        rfl
      obtain ⟨k, rfl⟩ := Nat.exists_eq_add_of_le' (Nat.le_of_not_lt hheader)
      have htake : (encode (payload :: payloads)).take (k + 4) =
          nextType payloads :: payload.flags :: packB ((4 + payload.body.length) / 256) ::
            packB ((4 + payload.body.length) % 256) ::
            (payload.body ++ encode payloads).take k := by
        rw [hbytes]
        rfl
      rw [htake, payloadsOf, halfWord_packH payload.fits, received]
      by_cases hends : payload.body.length ≤ k
      · have hskip : k + 4 - (4 + payload.body.length) = k - payload.body.length := by omega
        rw [if_neg (by rw [List.length_take, List.length_append]; omega), if_pos (by omega),
          Nat.add_sub_cancel_left, List.take_append, List.take_of_length_le hends, List.take_left,
          List.drop_left, ih, hskip]
        rfl
      · have hcut : ((payload.body ++ encode payloads).take k).length + 4 <
            4 + payload.body.length := by
          rw [List.length_take]
          omega
        rw [if_pos (.inr (.inr hcut)), if_neg (by omega)]
        rfl

theorem mem_of_mem_received {n : Nat} {payloads : List IkePayload} {payload : IkePayload}
    (h : payload ∈ received n payloads) : payload ∈ payloads := by
  induction payloads generalizing n with
  | nil => exact h
  | cons first payloads ih =>
      rw [received] at h
      split at h
      · rcases List.mem_cons.mp h with rfl | hrest
        · exact List.mem_cons_self
        · exact List.mem_cons_of_mem _ (ih hrest)
      · cases h

theorem received_fits (before : List IkePayload) (payload : IkePayload) (after : List IkePayload)
    {n : Nat} (h : (encode before).length + (4 + payload.body.length) ≤ n) :
    ∃ m, received n (before ++ payload :: after) = before ++ payload :: received m after := by
  induction before generalizing n with
  | nil =>
      have hfits : 4 + payload.body.length ≤ n := by simpa [encode] using h
      exact ⟨_, if_pos hfits⟩
  | cons first before ih =>
      rw [encode_cons_length] at h
      obtain ⟨m, hm⟩ := ih (n := n - (4 + first.body.length)) (by omega)
      exact ⟨m, (if_pos (by omega)).trans (congrArg _ hm)⟩

theorem received_cut (before : List IkePayload) (payload : IkePayload) (after : List IkePayload)
    {n : Nat} (h : n < (encode before).length + (4 + payload.body.length)) :
    ∀ other ∈ received n (before ++ payload :: after), other ∈ before := by
  induction before generalizing n with
  | nil =>
      have hcut : ¬ 4 + payload.body.length ≤ n := by
        simpa [encode] using h
      intro other hother
      rw [List.nil_append, received, if_neg hcut] at hother
      exact hother
  | cons first before ih =>
      rw [encode_cons_length] at h
      intro other hother
      rw [List.cons_append, received] at hother
      split at hother
      · rcases List.mem_cons.mp hother with rfl | hrest
        · exact List.mem_cons_self
        · exact List.mem_cons_of_mem _ (ih (by omega) other hrest)
      · cases hother

end IkePayload

/-! ## 5. The comparison -/

/-- What the three probes test in the same words. -/
def IkeMismatch (response initiatorSpi : Bytes) : Prop :=
  response.length < ikeOffset response + 28 ∨
    (response.drop (ikeOffset response)).take 8 ≠ initiatorSpi

instance (response initiatorSpi : Bytes) : Decidable (IkeMismatch response initiatorSpi) :=
  inferInstanceAs (Decidable (_ ∨ _))

namespace IkeResponse

/-- The offset is the one of the port. -/
def Aligned (r : IkeResponse) (natt : Bool) : Prop :=
  natt ∨ r.initiatorSpi.take 4 ≠ nonEspMarker

def receivedPayloads (r : IkeResponse) (natt : Bool) : Bytes :=
  (IkePayload.encode r.payloads).take (4068 - (marker natt).length)

theorem recvfrom_encode (r : IkeResponse) (natt : Bool) :
    recvfrom (r.encode natt) = marker natt ++ (r.header ++ r.receivedPayloads natt) := by
  have hmarker : (marker natt).length ≤ 4 := by
    cases natt <;> decide
  have hrest : 4096 - (marker natt).length - r.header.length = 4068 - (marker natt).length := by
    rw [r.header_length]
    omega
  rw [recvfrom, encode, List.take_append, List.take_of_length_le (by omega), List.take_append,
    List.take_of_length_le (by rw [r.header_length]; omega), hrest, receivedPayloads]

theorem ikeOffset_aligned {r : IkeResponse} {natt : Bool} (h : r.Aligned natt) :
    ikeOffset (recvfrom (r.encode natt)) = (marker natt).length := by
  rw [recvfrom_encode]
  cases natt with
  | true => exact if_pos (List.prefix_append _ _)
  | false =>
      refine if_neg fun hstart => h.resolve_left Bool.false_ne_true ?_
      have htake := List.prefix_iff_eq_take.mp hstart
      rw [marker, if_neg Bool.false_ne_true, List.nil_append, header, List.append_assoc,
        List.length_cons, List.length_cons, List.length_cons, List.length_cons, List.length_nil,
        List.take_append_of_le_length (by rw [r.initiatorSpi_length]; decide)] at htake
      exact htake.symm

/-- An SPI that begins as the marker does is read from its middle on. -/
theorem ikeOffset_misaligned {r : IkeResponse} (h : r.initiatorSpi.take 4 = nonEspMarker) :
    ikeOffset (recvfrom (r.encode false)) = 4 := by
  rw [recvfrom_encode, marker, if_neg Bool.false_ne_true, List.nil_append, header,
    List.append_assoc, ← List.take_append_drop 4 r.initiatorSpi, h, List.append_assoc]
  exact if_pos (List.prefix_append _ _)

theorem mismatch_aligned {r : IkeResponse} {natt : Bool} (h : r.Aligned natt) (spi : Bytes) :
    IkeMismatch (recvfrom (r.encode natt)) spi ↔ r.initiatorSpi ≠ spi := by
  have hspi : (r.header ++ r.receivedPayloads natt).take 8 = r.initiatorSpi := by
    rw [header, List.append_assoc, ← r.initiatorSpi_length, List.take_left]
  rw [IkeMismatch, ikeOffset_aligned h, recvfrom_encode, List.drop_left, hspi]
  refine or_iff_right (Nat.not_lt.mpr ?_)
  rw [List.length_append, List.length_append, r.header_length]
  omega

theorem payloads_length (r : IkeResponse) : 4 ≤ (IkePayload.encode r.payloads).length := by
  rw [payloads]
  cases r.before with
  | nil =>
      rw [List.nil_append, IkePayload.encode_cons_length]
      omega
  | cons first before =>
      rw [List.cons_append, IkePayload.encode_cons_length]
      omega

theorem mismatch_misaligned {r : IkeResponse} (h : r.initiatorSpi.take 4 = nonEspMarker)
    (spi : Bytes) :
    IkeMismatch (recvfrom (r.encode false)) spi ↔
      r.initiatorSpi.drop 4 ++ r.responderSpi.take 4 ≠ spi := by
  have hdrop : (r.initiatorSpi.drop 4).length = 4 := by
    rw [List.length_drop, r.initiatorSpi_length]
  have hspi : ((r.header ++ r.receivedPayloads false).drop 4).take 8 =
      r.initiatorSpi.drop 4 ++ r.responderSpi.take 4 := by
    rw [header, List.append_assoc,
      List.drop_append_of_le_length (by rw [r.initiatorSpi_length]; decide), List.take_append,
      List.take_of_length_le (by omega), hdrop, List.append_assoc,
      List.take_append_of_le_length (by rw [r.responderSpi_length]; decide)]
  have hlength := r.payloads_length
  rw [IkeMismatch, ikeOffset_misaligned h, recvfrom_encode, marker, if_neg Bool.false_ne_true,
    List.nil_append, hspi]
  refine or_iff_right (Nat.not_lt.mpr ?_)
  rw [List.length_append, r.header_length, receivedPayloads, List.length_take]
  change 4 + 28 ≤ 28 + min 4068 _
  omega

/-! ## 6. The candidates -/

section

variable [PyText] [Sha256] {targetId : Id} {target : Target}

def candidates (targetId : Id) (target : Target) (r : IkeResponse) : List AssetCandidate :=
  r.message.candidates targetId target

theorem responseCandidates_aligned {r : IkeResponse} {natt : Bool} (h : r.Aligned natt) :
    responseCandidates targetId target (recvfrom (r.encode natt)) =
      payloadCandidates targetId target
        ((IkePayload.received (4068 - (marker natt).length) r.payloads).map
          fun payload => (payload.payloadType.toNat, payload.body)) := by
  have hspis : (r.initiatorSpi ++ r.responderSpi).length = 16 := r.message.spis_length
  have hfields : r.fields.length = 11 := r.message.fields_length
  have hdrop : (recvfrom (r.encode natt)).drop (ikeOffset (recvfrom (r.encode natt)) + 16) =
      IkePayload.nextType r.payloads :: (r.fields ++ r.receivedPayloads natt) := by
    rw [ikeOffset_aligned h, recvfrom_encode, ← List.drop_drop, List.drop_left, header,
      ← List.append_assoc r.initiatorSpi, List.append_assoc, ← hspis, List.drop_left]
    rfl
  rw [responseCandidates, hdrop]
  dsimp only
  rw [if_neg (by rw [List.length_append, hfields]; omega), ← hfields, List.drop_left,
    receivedPayloads, IkePayload.payloadsOf_take]

/-- Four bytes too far on, the type of the first payload is read from the message ID. -/
theorem responseCandidates_misaligned {r : IkeResponse}
    (h : r.initiatorSpi.take 4 = nonEspMarker) :
    responseCandidates targetId target (recvfrom (r.encode false)) = [] := by
  have hspis : (r.initiatorSpi ++ r.responderSpi).length = 16 := r.message.spis_length
  have htwenty : (r.initiatorSpi ++ r.responderSpi ++
      IkePayload.nextType r.payloads :: r.versionFields).length = 20 := by
    rw [List.length_append, hspis, List.length_cons, r.versionFields_length]
  have hdrop : ∃ rest, (recvfrom (r.encode false)).drop
      (ikeOffset (recvfrom (r.encode false)) + 16) = 0 :: rest := by
    refine ⟨[0, 0, 0] ++ packI (28 + (IkePayload.encode r.payloads).length) ++
      r.receivedPayloads false, ?_⟩
    have hbytes : r.header ++ r.receivedPayloads false =
        (r.initiatorSpi ++ r.responderSpi ++ IkePayload.nextType r.payloads :: r.versionFields) ++
          0 :: ([0, 0, 0] ++ packI (28 + (IkePayload.encode r.payloads).length) ++
            r.receivedPayloads false) := by
      simp only [header, fields, List.append_assoc, List.cons_append]
      rfl
    rw [ikeOffset_misaligned h, recvfrom_encode, marker, if_neg Bool.false_ne_true,
      List.nil_append, hbytes]
    exact List.drop_left' htwenty
  obtain ⟨rest, hrest⟩ := hdrop
  rw [responseCandidates, hrest]
  dsimp only
  split
  · rfl
  · exact congrArg (payloadCandidates targetId target) (payloadsOf_zero _)

theorem received_candidates (r : IkeResponse) (natt : Bool) :
    payloadCandidates targetId target
        ((IkePayload.received (4068 - (marker natt).length) r.payloads).map
          fun payload => (payload.payloadType.toNat, payload.body)) =
      if r.saEnd natt ≤ 4096 then r.candidates targetId target else [] := by
  have hmarker : (marker natt).length ≤ 4 := by
    cases natt <;> decide
  split
  next hend =>
    rw [saEnd] at hend
    obtain ⟨m, hm⟩ := IkePayload.received_fits r.before r.saPayload r.after
      (n := 4068 - (marker natt).length) (by omega)
    -- the payloads that come after it are some of the others
    let message : IkeMessage :=
      { r.message with
        after := IkePayload.received m r.after
        others := fun payload hpayload => r.others payload <| by
          rcases List.mem_append.mp hpayload with hbefore | hafter
          · exact List.mem_append_left _ hbefore
          · exact List.mem_append_right _ (IkePayload.mem_of_mem_received hafter) }
    rw [payloads, hm]
    exact message.payloadCandidates_payloads
  next hend =>
    rw [saEnd] at hend
    refine IkeMessage.payloadCandidates_others targetId target fun payload hpayload =>
      r.others payload (List.mem_append_left _ ?_)
    exact IkePayload.received_cut r.before r.saPayload r.after (by omega) payload hpayload

theorem candidates_ne_nil (r : IkeResponse) : r.candidates targetId target ≠ [] := by
  obtain ⟨proposal, hproposal, htransforms⟩ := r.offers
  intro hnil
  obtain ⟨i, hi⟩ := List.mem_iff_getElem?.mp hproposal
  have hmem : (proposal, 1 + i) ∈ r.proposals.zipIdx 1 :=
    List.mk_add_mem_zipIdx_iff_getElem?.mpr hi
  have hempty := List.flatMap_eq_nil_iff.mp hnil _ hmem
  exact htransforms (List.zipIdx_eq_nil_iff.mp (List.map_eq_nil_iff.mp hempty))

end

end IkeResponse

/-! ## 7. The decisions -/

section

variable [PyText] [Sha256] (targetId : Id) (target : Target)

def ikePolicy (algorithm : String) : Outcome ReadError (List AssetCandidate) :=
  some (.ok [protocolPolicyCandidate targetId target .ike algorithm.toList])

/-- All three probes take the datagram for an answer, or none of them does. -/
def SameDecision (fuel : Nat) (random : IkeRandom) (elapsed : Json) (datagram : Bytes) : Prop :=
  if scanIke fuel targetId target random (fun _ => some datagram) =
      ikePolicy targetId target "IKE response mismatch" then
    Performance.probeIke target random (fun _ => some datagram) elapsed =
        .error (.probe "IKE response mismatch" "ike_response_mismatch") ∧
      Agent.probeIke target.host target.port random (fun _ => some datagram) = none
  else
    (Performance.probeIke target random (fun _ => some datagram) elapsed).isOk ∧
      (Agent.probeIke target.host target.port random (fun _ => some datagram)).isSome

/-- The responses that echo the SPI of the request are the ones that are read. -/
structure Matched (random : IkeRandom) (elapsed : Json) (response : IkeResponse) : Prop where
  accepted : response.initiatorSpi = random.initiatorSpi → ∀ fuel, 4096 < fuel →
    scanIke fuel targetId target random (fun _ => some (response.encode (target.port = 4500))) =
      some (.ok (response.candidates targetId target))
  rejected : response.initiatorSpi ≠ random.initiatorSpi → ∀ fuel, 4096 < fuel →
    scanIke fuel targetId target random (fun _ => some (response.encode (target.port = 4500))) =
      ikePolicy targetId target "IKE response mismatch"
  same : ∀ datagram fuel, 4096 < fuel → SameDecision targetId target fuel random elapsed datagram

variable {targetId target}

theorem scanIke_mismatch {fuel : Nat} {random : IkeRandom} {datagram : Bytes}
    (h : IkeMismatch (recvfrom datagram) random.initiatorSpi) :
    scanIke fuel targetId target random (fun _ => some datagram) =
      ikePolicy targetId target "IKE response mismatch" := if_pos h

theorem scanIke_match {fuel : Nat} {random : IkeRandom} {datagram : Bytes}
    (h : ¬ IkeMismatch (recvfrom datagram) random.initiatorSpi) (hfuel : 4096 < fuel) :
    scanIke fuel targetId target random (fun _ => some datagram) =
      if responseCandidates targetId target (recvfrom datagram) = [] then
        ikePolicy targetId target "IKE proposal unparsed"
      else some (.ok (responseCandidates targetId target (recvfrom datagram))) := by
  have hlength : (recvfrom datagram).length < fuel := by
    rw [recvfrom, List.length_take]
    omega
  refine (if_neg h).trans ?_
  rw [parseIkeResponseCandidates_eq targetId target hlength, Outcome.andThen_ok]
  split
  · rfl
  · rfl

theorem ikePolicy_ne {algorithm other : String} (h : algorithm ≠ other) :
    ikePolicy targetId target algorithm ≠ ikePolicy targetId target other := by
  intro heq
  have hcandidate := List.head_eq_of_cons_eq (Except.ok.inj (Option.some.inj heq))
  exact h (String.toList_inj.mp (congrArg AssetCandidate.algorithm hcandidate))

theorem bomRef_payloadCandidates {payloads : List (Nat × Bytes)} {candidate : AssetCandidate}
    (h : candidate ∈ payloadCandidates targetId target payloads) :
    "network:ike:".toList <+: candidate.bomRef := by
  obtain ⟨payload, -, hbody⟩ := List.mem_flatMap.mp h
  rw [bodyCandidates] at hbody
  split at hbody
  · obtain ⟨proposal, -, htransforms⟩ := List.mem_flatMap.mp hbody
    obtain ⟨transform, -, hcandidate⟩ := List.mem_flatMap.mp htransforms
    obtain ⟨algorithm, -, rfl⟩ := List.mem_map.mp hcandidate
    exact List.prefix_append _ _
  · cases hbody

theorem payloadCandidates_ne (payloads : List (Nat × Bytes)) (algorithm : String) :
    some (.ok (payloadCandidates targetId target payloads)) ≠
      ikePolicy targetId target algorithm := by
  intro heq
  have hmem : protocolPolicyCandidate targetId target .ike algorithm.toList ∈
      payloadCandidates targetId target payloads := by
    rw [Except.ok.inj (Option.some.inj heq)]
    exact List.mem_singleton_self _
  -- `network:ike-policy:` differs at the twelfth character
  have htake := List.prefix_iff_eq_take.mp (bomRef_payloadCandidates hmem)
  exact absurd htake (by simp [protocolPolicyCandidate, PolicyProtocol.casefold])

theorem exists_responseCandidates (response : Bytes) :
    ∃ payloads, responseCandidates targetId target response =
      payloadCandidates targetId target payloads := by
  unfold responseCandidates
  split
  · split
    · exact ⟨[], rfl⟩
    · exact ⟨_, rfl⟩
  · exact ⟨[], rfl⟩

theorem sameDecision (random : IkeRandom) (elapsed : Json) (datagram : Bytes) {fuel : Nat}
    (hfuel : 4096 < fuel) : SameDecision targetId target fuel random elapsed datagram := by
  unfold SameDecision
  by_cases h : IkeMismatch (recvfrom datagram) random.initiatorSpi
  · rw [if_pos (scanIke_mismatch h)]
    exact ⟨if_pos h, if_pos h⟩
  · have hread : scanIke fuel targetId target random (fun _ => some datagram) ≠
        ikePolicy targetId target "IKE response mismatch" := by
      rw [scanIke_match h hfuel]
      split
      · exact ikePolicy_ne (by decide)
      · obtain ⟨payloads, hpayloads⟩ := exists_responseCandidates (recvfrom datagram)
        rw [hpayloads]
        exact payloadCandidates_ne payloads _
    have hperformance := congrArg Except.isOk (if_neg h :
      Performance.probeIke target random (fun _ => some datagram) elapsed = _)
    have hagent := congrArg Option.isSome (if_neg h :
      Agent.probeIke target.host target.port random (fun _ => some datagram) = _)
    rw [if_neg hread]
    exact ⟨hperformance, hagent⟩

theorem scanIke_aligned {fuel : Nat} {random : IkeRandom} {response : IkeResponse}
    (h : response.Aligned (target.port = 4500)) (hfuel : 4096 < fuel) :
    scanIke fuel targetId target random (fun _ => some (response.encode (target.port = 4500))) =
      if response.initiatorSpi = random.initiatorSpi then
        if response.saEnd (target.port = 4500) ≤ 4096 then
          some (.ok (response.candidates targetId target))
        else ikePolicy targetId target "IKE proposal unparsed"
      else ikePolicy targetId target "IKE response mismatch" := by
  by_cases hspi : response.initiatorSpi = random.initiatorSpi
  · have hmatch := mt (IkeResponse.mismatch_aligned h random.initiatorSpi).mp (not_not.mpr hspi)
    rw [scanIke_match hmatch hfuel, IkeResponse.responseCandidates_aligned h,
      IkeResponse.received_candidates, if_pos hspi]
    split
    · exact if_neg response.candidates_ne_nil
    · exact if_pos rfl
  · rw [scanIke_mismatch ((IkeResponse.mismatch_aligned h random.initiatorSpi).mpr hspi),
      if_neg hspi]

theorem scanIke_misaligned {fuel : Nat} {random : IkeRandom} {response : IkeResponse}
    (hport : target.port ≠ 4500) (h : response.initiatorSpi.take 4 = nonEspMarker)
    (hfuel : 4096 < fuel) :
    scanIke fuel targetId target random (fun _ => some (response.encode (target.port = 4500))) =
      if response.initiatorSpi.drop 4 ++ response.responderSpi.take 4 = random.initiatorSpi then
        ikePolicy targetId target "IKE proposal unparsed"
      else ikePolicy targetId target "IKE response mismatch" := by
  rw [decide_eq_false hport]
  split
  next hspi =>
    have hmatch := mt (IkeResponse.mismatch_misaligned h random.initiatorSpi).mp (not_not.mpr hspi)
    rw [scanIke_match hmatch hfuel, IkeResponse.responseCandidates_misaligned h, if_pos rfl]
  next hspi =>
    exact scanIke_mismatch ((IkeResponse.mismatch_misaligned h random.initiatorSpi).mpr hspi)

theorem candidates_ne (response : IkeResponse) (algorithm : String) :
    some (.ok (response.candidates targetId target)) ≠ ikePolicy targetId target algorithm := by
  rw [IkeResponse.candidates, ← IkeMessage.payloadCandidates_payloads]
  exact payloadCandidates_ne _ _

/-- On the port without the marker an SPI that begins with four zeros is looked for four bytes too
far on: its echo is not read, and a response with another SPI can be taken for the answer.  On both
ports the SA payload is read if it ends in the bytes that are received. -/
theorem matched_iff (targetId : Id) (target : Target) (random : IkeRandom) (elapsed : Json)
    (response : IkeResponse) :
    Matched targetId target random elapsed response ↔
      (response.initiatorSpi = random.initiatorSpi →
        (target.port = 4500 ∨ response.initiatorSpi.take 4 ≠ nonEspMarker) ∧
          response.saEnd (target.port = 4500) ≤ 4096) ∧
      (response.initiatorSpi ≠ random.initiatorSpi →
        target.port = 4500 ∨ response.initiatorSpi.take 4 ≠ nonEspMarker ∨
          response.initiatorSpi.drop 4 ++ response.responderSpi.take 4 ≠ random.initiatorSpi) := by
  constructor
  · intro h
    by_cases haligned : response.Aligned (target.port = 4500)
    · have hport : target.port = 4500 ∨ response.initiatorSpi.take 4 ≠ nonEspMarker :=
        haligned.imp_left of_decide_eq_true
      refine ⟨fun hspi => ⟨hport, ?_⟩, fun _ => hport.imp_right .inl⟩
      have hread := h.accepted hspi 4097 (by decide)
      rw [scanIke_aligned haligned (by decide), if_pos hspi] at hread
      by_contra hend
      rw [if_neg hend] at hread
      exact candidates_ne _ _ hread.symm
    · obtain ⟨hport, hstart⟩ := not_or.mp haligned
      have hport : target.port ≠ 4500 := fun heq => hport (decide_eq_true heq)
      have hstart := not_not.mp hstart
      constructor
      · intro hspi
        have hread := h.accepted hspi 4097 (by decide)
        rw [scanIke_misaligned hport hstart (by decide)] at hread
        split at hread
        · exact absurd hread.symm (candidates_ne _ _)
        · exact absurd hread.symm (candidates_ne _ _)
      · intro hspi
        refine .inr (.inr fun heq => ?_)
        have hread := h.rejected hspi 4097 (by decide)
        rw [scanIke_misaligned hport hstart (by decide), if_pos heq] at hread
        exact ikePolicy_ne (by decide) hread
  · rintro ⟨haccepted, hrejected⟩
    refine ⟨fun hspi fuel hfuel => ?_, fun hspi fuel hfuel => ?_, fun datagram fuel hfuel =>
      sameDecision random elapsed datagram hfuel⟩
    · obtain ⟨hport, hend⟩ := haccepted hspi
      have haligned : response.Aligned (target.port = 4500) := hport.imp_left (decide_eq_true ·)
      rw [scanIke_aligned haligned hfuel, if_pos hspi, if_pos hend]
    · by_cases haligned : response.Aligned (target.port = 4500)
      · rw [scanIke_aligned haligned hfuel, if_neg hspi]
      · obtain ⟨hport, hstart⟩ := not_or.mp haligned
        have hport : target.port ≠ 4500 := fun heq => hport (decide_eq_true heq)
        have hother := ((hrejected hspi).resolve_left hport).resolve_left hstart
        rw [scanIke_misaligned hport (not_not.mp hstart) hfuel, if_neg hother]

end

/-! ## 8. An SPI of four zeros and four other bytes -/

def zeroSpiRandom : IkeRandom where
  initiatorSpi := [0, 0, 0, 0, 0x11, 0x22, 0x33, 0x44]
  keyExchangeData := List.replicate 256 0
  nonce := List.replicate 32 0
  initiatorSpi_length := rfl
  keyExchangeData_length := List.length_replicate
  nonce_length := List.length_replicate

theorem packB_ikeNextPayloadKe_ne : packB ikeNextPayloadKe ≠ 0 := by decide

theorem length_noSpi : ([] : Bytes).length < 256 := by decide

theorem probeTransforms_fit : 8 + ([] : Bytes).length +
    (SaTransform.encode IkeMessage.probeTransforms).length < 65536 := by decide

theorem probeProposal_fits : 4 + (([⟨0, 1, 1, 4, [], IkeMessage.probeTransforms, length_noSpi,
    probeTransforms_fit⟩] : List SaProposal).flatMap SaProposal.encode).length < 65536 := by decide

def zeroSpiResponse : IkeResponse where
  initiatorSpi := zeroSpiRandom.initiatorSpi
  responderSpi := [1, 2, 3, 4, 5, 6, 7, 8]
  versionFields := [0x20, 34, 0x20]
  before := []
  flags := 0
  proposals := [⟨0, 1, 1, 4, [], IkeMessage.probeTransforms, length_noSpi, probeTransforms_fit⟩]
  after := [⟨packB ikeNextPayloadKe, 0, packH 14 ++ packH 0 ++ List.replicate 256 1,
      packB_ikeNextPayloadKe_ne, by rw [List.length_append, List.length_replicate]; decide⟩,
    ⟨packB ikeNextPayloadNonce, 0, List.replicate 32 1, by decide, by decide⟩]
  initiatorSpi_length := rfl
  responderSpi_length := rfl
  versionFields_length := rfl
  fits := probeProposal_fits
  others := by decide
  offers := ⟨_, List.mem_singleton_self _, nofun⟩

/-- Port 500: the echo is called a mismatch. -/
theorem zeroSpiResponse_not_matched : letI := asciiText; letI := constantDigest
    ¬ Matched 1 ikeGateway zeroSpiRandom .null zeroSpiResponse := by
  let _ := asciiText
  let _ := constantDigest
  intro h
  have hread := h.accepted rfl 4097 (by decide)
  rw [scanIke_misaligned (by decide) rfl (by decide), if_neg (by decide)] at hread
  exact absurd hread.symm (candidates_ne _ _)

end CryptoScanner.Scan
