import CryptoScanner.Library.While
import CryptoScanner.Python.Struct
import CryptoScanner.Scan.KeyAgreement

/-!
# The IKE probe

The payload that `_scan_ike` sends and the reader of the response.  Every read of the reader is
checked against the bytes it reads from, and each of its four loops is a loop with a cursor.
-/

namespace CryptoScanner.Scan

open Library Python

/-! ## 1. The encoder -/

def ikeTransform (more : Bool) (transformType transformId : Nat) (attrs : Bytes) : Bytes :=
  let nextTransform := if more then 3 else 0
  packB nextTransform :: packB 0 :: packH (8 + attrs.length) ++
    packB transformType :: packB 0 :: packH transformId ++ attrs

/-- The proposal of `_ike_sa_payload`, for any header fields and any SPI. -/
def ikeProposal (next number protocol transforms : UInt8) (spi transformBytes : Bytes) : Bytes :=
  next :: packB 0 :: packH (8 + spi.length + transformBytes.length) ++
    number :: protocol :: packB spi.length :: transforms :: spi ++ transformBytes

def ikePayload (next flags : UInt8) (body : Bytes) : Bytes :=
  next :: flags :: packH (4 + body.length) ++ body

def ikeNextPayloadSa : Nat := 33

def ikeNextPayloadKe : Nat := 34

def ikeSaPayload : Bytes :=
  let transforms :=
    ikeTransform true 1 12 (packH 0x800E ++ packH 256) ++ ikeTransform true 2 5 [] ++
      ikeTransform true 3 12 [] ++ ikeTransform false 4 14 []
  ikePayload (packB ikeNextPayloadKe) 0 (ikeProposal 0 1 1 4 [] transforms)

/-! ## 2. The key length of a transform -/

structure KeyLengthScan where
  cursor : Nat := 0
  /-- What `_ike_key_length` has returned. -/
  value : Option Nat := none
  deriving DecidableEq, Repr

/-- The loop of `_ike_key_length`. -/
def ikeKeyLengthTurn (attrs : Bytes) (s : KeyLengthScan) :
    Outcome ReadError (ForInStep KeyLengthScan) :=
  if s.cursor + 4 ≤ attrs.length then
    Outcome.andThen (some (slice attrs s.cursor (s.cursor + 4))) fun bytes =>
    Outcome.andThen (some (unpackHH bytes)) fun (attrTypeOrFormat, valueOrLength) =>
    -- `& 0x7FFF` and `& 0x8000`
    let attrType := attrTypeOrFormat % 0x8000
    let fixed := 0x8000 ≤ attrTypeOrFormat
    if attrType = 14 ∧ fixed then some (.ok (.done { s with value := some valueOrLength }))
    else if fixed then some (.ok (.yield { s with cursor := s.cursor + 4 }))
    else some (.ok (.yield { s with cursor := s.cursor + 4 + valueOrLength }))
  else some (.ok (.done s))

/-- `_ike_algorithm`, given the key length of the attributes. -/
def ikeAlgorithmName (transformType transformId : Nat) (keyLength : Option Nat) :
    Option (List Char) :=
  match transformType with
  | 1 =>
      let algorithm := ikeName ikeEncryption "ENCR" transformId
      let keyLength := keyLength.getD 0
      if keyLength ≠ 0 ∧ algorithm ∈ ["AES-CBC", "AES-CTR"].map String.toList then
        some (algorithm ++ '-' :: (toString keyLength).toList)
      else some algorithm
  | 2 => some (ikeName ikePrf "PRF" transformId)
  | 3 => some (ikeName ikeIntegrity "INTEG" transformId)
  | 4 => some (ikeName ikeDhGroups "DH-GROUP" transformId)
  | _ => none

/-- `_ike_algorithm` with the loop that reads the key length. -/
def readIkeAlgorithm (fuel transformType transformId : Nat) (attrs : Bytes) :
    Outcome ReadError (Option (List Char)) :=
  if transformType = 1 then
    Outcome.andThen (While.run (ikeKeyLengthTurn attrs) fuel {}) fun scan =>
    some (.ok (ikeAlgorithmName transformType transformId scan.value))
  else some (.ok (ikeAlgorithmName transformType transformId none))

/-! ## 3. The response -/

section

variable [PyText] [Sha256] (targetId : Id) (target : Target)

structure TransformScan where
  candidates : List AssetCandidate
  transformCursor : Nat
  transformIndex : Nat := 0

/-- The inner loop of `_parse_ike_sa_candidates`. -/
def ikeTransformTurn (fuel proposalIndex : Nat) (proposal : Bytes) (s : TransformScan) :
    Outcome ReadError (ForInStep TransformScan) :=
  if s.transformCursor + 8 ≤ proposal.length then
    Outcome.andThen (some (slice proposal s.transformCursor (s.transformCursor + 4))) fun header =>
    Outcome.andThen (some (unpackBBH header)) fun (nextTransform, _, transformLength) =>
    if transformLength < 8 ∨ proposal.length < s.transformCursor + transformLength then
      some (.ok (.done s))
    else
      Outcome.andThen (some (slice proposal s.transformCursor
        (s.transformCursor + transformLength))) fun transformBody =>
      Outcome.andThen (some (readByte transformBody 4)) fun transformType =>
      Outcome.andThen (some (slice transformBody 6 8)) fun idBytes =>
      Outcome.andThen (some (unpackH idBytes)) fun transformId =>
      Outcome.andThen (some (slice transformBody 8 transformBody.length)) fun attrs =>
      Outcome.andThen (readIkeAlgorithm fuel transformType transformId attrs) fun algorithm =>
      let transformIndex := s.transformIndex + 1
      let candidates := s.candidates ++ algorithm.toList.map fun algorithm =>
        ikeTransformCandidate targetId target proposalIndex transformIndex transformType transformId
          algorithm
      if nextTransform = 0 then some (.ok (.done { s with candidates, transformIndex }))
      else some (.ok (.yield
        { candidates
          transformCursor := s.transformCursor + transformLength
          transformIndex }))
  else some (.ok (.done s))

structure ProposalScan where
  candidates : List AssetCandidate := []
  cursor : Nat := 0
  proposalIndex : Nat := 0

/-- The outer loop of `_parse_ike_sa_candidates`. -/
def ikeProposalTurn (fuel : Nat) (body : Bytes) (s : ProposalScan) :
    Outcome ReadError (ForInStep ProposalScan) :=
  if s.cursor + 8 ≤ body.length then
    Outcome.andThen (some (slice body s.cursor (s.cursor + 4))) fun header =>
    Outcome.andThen (some (unpackBBH header)) fun (_, _, proposalLength) =>
    if proposalLength < 8 ∨ body.length < s.cursor + proposalLength then some (.ok (.done s))
    else
      let proposalIndex := s.proposalIndex + 1
      Outcome.andThen (some (slice body s.cursor (s.cursor + proposalLength))) fun proposal =>
      Outcome.andThen (some (slice proposal 4 8)) fun fields =>
      Outcome.andThen (some (unpackBBBB fields)) fun (_, _, spiSize, _) =>
      Outcome.andThen (While.run (ikeTransformTurn targetId target fuel proposalIndex proposal) fuel
        { candidates := s.candidates, transformCursor := 8 + spiSize }) fun transforms =>
      some (.ok (.yield
        { candidates := transforms.candidates
          cursor := s.cursor + proposalLength
          proposalIndex }))
  else some (.ok (.done s))

def parseIkeSaCandidates (fuel : Nat) (body : Bytes) : Outcome ReadError (List AssetCandidate) :=
  Outcome.andThen (While.run (ikeProposalTurn targetId target fuel body) fuel {}) fun scan =>
  some (.ok scan.candidates)

structure PayloadScan where
  candidates : List AssetCandidate := []
  nextPayload : Nat
  cursor : Nat

/-- The loop of `_parse_ike_response_candidates`. -/
def ikePayloadTurn (fuel : Nat) (response : Bytes) (s : PayloadScan) :
    Outcome ReadError (ForInStep PayloadScan) :=
  if s.nextPayload ≠ 0 ∧ s.cursor + 4 ≤ response.length then
    Outcome.andThen (some (slice response s.cursor (s.cursor + 4))) fun header =>
    Outcome.andThen (some (unpackBBH header)) fun (payloadNext, _, payloadLength) =>
    if payloadLength < 4 ∨ response.length < s.cursor + payloadLength then some (.ok (.done s))
    else
      Outcome.andThen (some (slice response (s.cursor + 4) (s.cursor + payloadLength)))
        fun payloadBody =>
      Outcome.andThen
        (if s.nextPayload = ikeNextPayloadSa then
          parseIkeSaCandidates targetId target fuel payloadBody
        else some (.ok [])) fun found =>
      some (.ok (.yield
        { candidates := s.candidates ++ found
          nextPayload := payloadNext
          cursor := s.cursor + payloadLength }))
  else some (.ok (.done s))

/-- `4 if response.startswith(b"\x00\x00\x00\x00") else 0` -/
def ikeOffset (response : Bytes) : Nat :=
  if [0, 0, 0, 0] <+: response then 4 else 0

def parseIkeResponseCandidates (fuel : Nat) (response : Bytes) :
    Outcome ReadError (List AssetCandidate) :=
  let offset := ikeOffset response
  if response.length < offset + 28 then some (.ok [])
  else
    Outcome.andThen (some (readByte response (offset + 16))) fun nextPayload =>
    Outcome.andThen (While.run (ikePayloadTurn targetId target fuel response) fuel
      { nextPayload, cursor := offset + 28 }) fun scan =>
    some (.ok scan.candidates)

end

end CryptoScanner.Scan
