import CryptoScanner.Scan.IkeScan

/-!
# The reader of IKE responses

What the four loops with cursors compute, as functions of the bytes that lie ahead of the cursor.
Every read is inside its bytes, every turn moves the cursor on, and the reader returns on all
responses.
-/

namespace CryptoScanner.Scan

open Library Python

/-! ## 1. The bytes ahead -/

structure IkeTransform where
  transformType : Nat
  transformId : Nat
  attrs : Bytes
  deriving DecidableEq, Repr

def IkeTransform.algorithm (t : IkeTransform) : Option (List Char) :=
  ikeAlgorithm t.transformType t.transformId t.attrs

def transformsOf : Bytes → List IkeTransform
  | nextTransform :: _ :: l₁ :: l₀ :: transformType :: _ :: i₁ :: i₀ :: rest =>
      let length := halfWord l₁ l₀
      if length < 8 ∨ rest.length + 8 < length then []
      else
        ⟨transformType.toNat, halfWord i₁ i₀, rest.take (length - 8)⟩ ::
          if nextTransform = 0 then [] else transformsOf (rest.drop (length - 8))
  | _ => []
termination_by bytes => bytes.length
decreasing_by
  simp only [List.length_cons, List.length_drop]
  omega

def proposalsOf : Bytes → List (List IkeTransform)
  | _ :: _ :: l₁ :: l₀ :: _ :: _ :: spiSize :: _ :: rest =>
      let length := halfWord l₁ l₀
      if length < 8 ∨ rest.length + 8 < length then []
      else
        transformsOf ((rest.take (length - 8)).drop spiSize.toNat) ::
          proposalsOf (rest.drop (length - 8))
  | _ => []
termination_by bytes => bytes.length
decreasing_by
  simp only [List.length_cons, List.length_drop]
  omega

/-- The payloads at the beginning of some bytes, the first of the given type. -/
def payloadsOf (nextPayload : Nat) : Bytes → List (Nat × Bytes)
  | payloadNext :: _ :: l₁ :: l₀ :: rest =>
      let length := halfWord l₁ l₀
      if nextPayload = 0 ∨ length < 4 ∨ rest.length + 4 < length then []
      else
        (nextPayload, rest.take (length - 4)) ::
          payloadsOf payloadNext.toNat (rest.drop (length - 4))
  | _ => []
termination_by bytes => bytes.length
decreasing_by
  simp only [List.length_cons, List.length_drop]
  omega

/-! ## 2. The key length -/

theorem ikeAlgorithm_eq (transformType transformId : Nat) (attrs : Bytes) :
    ikeAlgorithm transformType transformId attrs =
      ikeAlgorithmName transformType transformId (ikeKeyLength attrs) := rfl

theorem ikeAlgorithmName_congr {transformType transformId : Nat} (h : transformType ≠ 1)
    (keyLength other : Option Nat) :
    ikeAlgorithmName transformType transformId keyLength =
      ikeAlgorithmName transformType transformId other := by
  unfold ikeAlgorithmName
  split
  · exact absurd rfl h
  all_goals rfl

theorem ikeKeyLengthTurn_eq {attrs rest : Bytes} {s : KeyLengthScan} {t₁ t₀ v₁ v₀ : UInt8}
    (h : attrs.drop s.cursor = t₁ :: t₀ :: v₁ :: v₀ :: rest) :
    ikeKeyLengthTurn attrs s =
      if halfWord t₁ t₀ % 0x8000 = 14 ∧ 0x8000 ≤ halfWord t₁ t₀ then
        some (.ok (.done { s with value := some (halfWord v₁ v₀) }))
      else if 0x8000 ≤ halfWord t₁ t₀ then
        some (.ok (.yield { s with cursor := s.cursor + 4 }))
      else some (.ok (.yield { s with cursor := s.cursor + 4 + halfWord v₁ v₀ })) := by
  have hlength : s.cursor + 4 ≤ attrs.length := by
    have hdrop := congrArg List.length h
    simp only [List.length_drop, List.length_cons] at hdrop
    omega
  unfold ikeKeyLengthTurn
  rw [if_pos hlength, slice_cursor hlength, h]
  rfl

theorem ikeKeyLengthTurn_end {attrs : Bytes} {s : KeyLengthScan}
    (h : ¬ s.cursor + 4 ≤ attrs.length) : While.Stops (ikeKeyLengthTurn attrs) s s := if_neg h

theorem ikeKeyLength_short {bytes : Bytes} (h : ¬ 4 ≤ bytes.length) : ikeKeyLength bytes = none := by
  match bytes with
  | [] | [_] | [_, _] | [_, _, _] => simp [ikeKeyLength]
  | _ :: _ :: _ :: _ :: _ =>
      simp only [List.length_cons] at h
      omega

def KeyLengthScan.expected (attrs : Bytes) (s : KeyLengthScan) : Option Nat :=
  (ikeKeyLength (attrs.drop s.cursor)).or s.value

theorem ikeKeyLengthTurn_scans (attrs : Bytes) :
    While.Scans (ikeKeyLengthTurn attrs) (·.cursor) attrs.length (·.value)
      (KeyLengthScan.expected attrs) := by
  intro s
  by_cases hcursor : s.cursor + 4 ≤ attrs.length
  · obtain ⟨t₁, t₀, v₁, v₀, rest, hdrop⟩ := exists_four hcursor
    have hturn := ikeKeyLengthTurn_eq hdrop
    have hskip : ∀ n, attrs.drop (s.cursor + 4 + n) = rest.drop n := by
      intro n
      rw [← List.drop_drop, ← List.drop_drop, hdrop]
      rfl
    have hexpected : s.expected attrs = (ikeKeyLength (t₁ :: t₀ :: v₁ :: v₀ :: rest)).or s.value :=
      congrArg (fun bytes => (ikeKeyLength bytes).or s.value) hdrop
    rw [hexpected, ikeKeyLength]
    simp only [show unpackHalf t₁ t₀ = halfWord t₁ t₀ from rfl,
      show unpackHalf v₁ v₀ = halfWord v₁ v₀ from rfl]
    by_cases hvalue : halfWord t₁ t₀ % 0x8000 = 14 ∧ 0x8000 ≤ halfWord t₁ t₀
    · rw [if_pos hvalue] at hturn ⊢
      exact .inr ⟨_, hturn, rfl⟩
    · rw [if_neg hvalue] at hturn ⊢
      by_cases hfixed : 0x8000 ≤ halfWord t₁ t₀
      · rw [if_pos hfixed] at hturn ⊢
        refine .inl ⟨_, hturn, ⟨by omega, by simp⟩, ?_⟩
        exact congrArg (fun bytes => (ikeKeyLength bytes).or s.value) (hskip 0)
      · rw [if_neg hfixed] at hturn ⊢
        refine .inl ⟨_, hturn, ⟨by omega, by simp only; omega⟩, ?_⟩
        exact congrArg (fun bytes => (ikeKeyLength bytes).or s.value) (hskip _)
  · refine .inr ⟨s, ikeKeyLengthTurn_end hcursor, ?_⟩
    rw [KeyLengthScan.expected, ikeKeyLength_short (by rw [List.length_drop]; omega)]
    rfl

theorem readIkeAlgorithm_eq {fuel : Nat} {attrs : Bytes} (hfuel : attrs.length < fuel)
    (transformType transformId : Nat) :
    readIkeAlgorithm fuel transformType transformId attrs =
      some (.ok (ikeAlgorithm transformType transformId attrs)) := by
  unfold readIkeAlgorithm
  by_cases htype : transformType = 1
  · obtain ⟨last, hrun, hlast⟩ := (ikeKeyLengthTurn_scans attrs).exists_run
      (by simpa using hfuel : attrs.length - ({} : KeyLengthScan).cursor < fuel)
    rw [if_pos htype, hrun, Outcome.andThen_ok, hlast, ikeAlgorithm_eq, KeyLengthScan.expected,
      Option.or_none]
    rfl
  · rw [if_neg htype, ikeAlgorithm_eq, ikeAlgorithmName_congr htype]

section

variable [PyText] [Sha256] (targetId : Id) (target : Target)

/-! ## 3. The transforms of a proposal -/

def IkeTransform.candidates (proposalIndex transformIndex : Nat) (t : IkeTransform) :
    List AssetCandidate :=
  t.algorithm.toList.map
    (ikeTransformCandidate targetId target proposalIndex transformIndex t.transformType
      t.transformId)

def transformCandidates (proposalIndex first : Nat) (transforms : List IkeTransform) :
    List AssetCandidate :=
  (transforms.zipIdx first).flatMap fun (t, index) =>
    t.candidates targetId target proposalIndex index

variable {targetId target}

theorem transformCandidates_cons (proposalIndex first : Nat) (t : IkeTransform)
    (transforms : List IkeTransform) :
    transformCandidates targetId target proposalIndex first (t :: transforms) =
      t.candidates targetId target proposalIndex first ++
        transformCandidates targetId target proposalIndex (first + 1) transforms := rfl

omit [PyText] [Sha256] in
theorem transformsOf_short {bytes : Bytes} (h : ¬ 8 ≤ bytes.length) : transformsOf bytes = [] := by
  rw [transformsOf.eq_2]
  rintro b₁ b₂ b₃ b₄ b₅ b₆ b₇ b₈ rest rfl
  simp only [List.length_cons] at h
  omega

variable {fuel proposalIndex : Nat} {proposal : Bytes}

theorem ikeTransformTurn_eq (targetId : Id) (target : Target) (proposalIndex : Nat)
    {s : TransformScan} {n r l₁ l₀ t r' i₁ i₀ : UInt8} {rest : Bytes}
    (h : proposal.drop s.transformCursor = n :: r :: l₁ :: l₀ :: t :: r' :: i₁ :: i₀ :: rest)
    (hfuel : proposal.length < fuel) :
    ikeTransformTurn targetId target fuel proposalIndex proposal s =
      if halfWord l₁ l₀ < 8 ∨ rest.length + 8 < halfWord l₁ l₀ then some (.ok (.done s))
      else
        let transform : IkeTransform :=
          ⟨t.toNat, halfWord i₁ i₀, rest.take (halfWord l₁ l₀ - 8)⟩
        let candidates := s.candidates ++
          transform.candidates targetId target proposalIndex (s.transformIndex + 1)
        if n = 0 then
          some (.ok (.done { s with candidates, transformIndex := s.transformIndex + 1 }))
        else some (.ok (.yield
          { candidates
            transformCursor := s.transformCursor + halfWord l₁ l₀
            transformIndex := s.transformIndex + 1 })) := by
  have hlength : proposal.length = s.transformCursor + 8 + rest.length := by
    have hdrop := congrArg List.length h
    simp only [List.length_drop, List.length_cons] at hdrop
    omega
  have hheader : unpackBBH ((proposal.drop s.transformCursor).take 4) =
      .ok (n.toNat, r.toNat, halfWord l₁ l₀) := by
    rw [h]
    rfl
  unfold ikeTransformTurn
  rw [if_pos (by omega), slice_cursor (by omega), Outcome.andThen_ok, hheader, Outcome.andThen_ok]
  dsimp only
  by_cases hbad : halfWord l₁ l₀ < 8 ∨ rest.length + 8 < halfWord l₁ l₀
  · rw [if_pos (by omega), if_pos hbad]
  · -- the transform is its eight bytes and the attributes
    have hbody : (proposal.drop s.transformCursor).take (halfWord l₁ l₀) =
        n :: r :: l₁ :: l₀ :: t :: r' :: i₁ :: i₀ :: rest.take (halfWord l₁ l₀ - 8) := by
      rw [h, take_eight (by omega)]
    rw [if_neg (by omega), if_neg hbad, slice_cursor (by omega), hbody]
    have hattrs : (rest.take (halfWord l₁ l₀ - 8)).length < fuel := by
      rw [List.length_take]
      omega
    generalize rest.take (halfWord l₁ l₀ - 8) = attrs at hattrs ⊢
    generalize hbytes : n :: r :: l₁ :: l₀ :: t :: r' :: i₁ :: i₀ :: attrs = bytes
    have htype : readByte bytes 4 = .ok t.toNat := by
      rw [← hbytes]
      rfl
    have hid : slice bytes 6 8 = .ok [i₁, i₀] := by
      rw [← hbytes]
      exact slice_ok (by decide) (by simp)
    have hrest : slice bytes 8 bytes.length = .ok attrs := by
      rw [← hbytes, slice_ok (by simp) (Nat.le_refl _)]
      exact congrArg _ (List.take_length ..)
    rw [Outcome.andThen_ok, htype, Outcome.andThen_ok, hid, Outcome.andThen_ok,
      show unpackH [i₁, i₀] = .ok (halfWord i₁ i₀) from rfl, Outcome.andThen_ok, hrest,
      Outcome.andThen_ok, readIkeAlgorithm_eq hattrs, Outcome.andThen_ok]
    simp only [byte_eq_zero]
    rfl

theorem ikeTransformTurn_end {s : TransformScan}
    (h : ¬ s.transformCursor + 8 ≤ proposal.length) :
    While.Stops (ikeTransformTurn targetId target fuel proposalIndex proposal) s s := if_neg h

def TransformScan.expected (targetId : Id) (target : Target) (proposalIndex : Nat)
    (proposal : Bytes) (s : TransformScan) : List AssetCandidate :=
  s.candidates ++ transformCandidates targetId target proposalIndex (s.transformIndex + 1)
    (transformsOf (proposal.drop s.transformCursor))

theorem ikeTransformTurn_scans (targetId : Id) (target : Target) (proposalIndex : Nat)
    (hfuel : proposal.length < fuel) :
    While.Scans (ikeTransformTurn targetId target fuel proposalIndex proposal)
      (·.transformCursor) proposal.length (·.candidates)
      (TransformScan.expected targetId target proposalIndex proposal) := by
  intro s
  by_cases hcursor : s.transformCursor + 8 ≤ proposal.length
  · obtain ⟨n, r, l₁, l₀, t, r', i₁, i₀, rest, hdrop⟩ := exists_eight hcursor
    have hturn := ikeTransformTurn_eq targetId target proposalIndex hdrop hfuel
    rw [TransformScan.expected, hdrop, transformsOf]
    dsimp only
    by_cases hbad : halfWord l₁ l₀ < 8 ∨ rest.length + 8 < halfWord l₁ l₀
    · rw [if_pos hbad] at hturn ⊢
      exact .inr ⟨s, hturn, (List.append_nil _).symm⟩
    · rw [if_neg hbad] at hturn ⊢
      rw [transformCandidates_cons, ← List.append_assoc]
      by_cases hlast : n = 0
      · rw [if_pos hlast] at hturn ⊢
        exact .inr ⟨_, hturn, (List.append_nil _).symm⟩
      · rw [if_neg hlast] at hturn ⊢
        have hskip : proposal.drop (s.transformCursor + halfWord l₁ l₀) =
            rest.drop (halfWord l₁ l₀ - 8) := by
          rw [← List.drop_drop, hdrop, drop_eight (by omega)]
        refine .inl ⟨_, hturn, ⟨by omega, by simp only; omega⟩, ?_⟩
        rw [TransformScan.expected, hskip]
  · refine .inr ⟨s, ikeTransformTurn_end hcursor, ?_⟩
    rw [TransformScan.expected, transformsOf_short (by rw [List.length_drop]; omega)]
    exact (List.append_nil _).symm

/-! ## 4. The proposals of an SA payload -/

def proposalCandidates (targetId : Id) (target : Target) (first : Nat)
    (proposals : List (List IkeTransform)) : List AssetCandidate :=
  (proposals.zipIdx first).flatMap fun (transforms, index) =>
    transformCandidates targetId target index 1 transforms

theorem proposalCandidates_cons (first : Nat) (transforms : List IkeTransform)
    (proposals : List (List IkeTransform)) :
    proposalCandidates targetId target first (transforms :: proposals) =
      transformCandidates targetId target first 1 transforms ++
        proposalCandidates targetId target (first + 1) proposals := rfl

omit [PyText] [Sha256] in
theorem proposalsOf_short {bytes : Bytes} (h : ¬ 8 ≤ bytes.length) : proposalsOf bytes = [] := by
  rw [proposalsOf.eq_2]
  rintro b₁ b₂ b₃ b₄ b₅ b₆ b₇ b₈ rest rfl
  simp only [List.length_cons] at h
  omega

variable {body : Bytes}

theorem ikeProposalTurn_eq (targetId : Id) (target : Target) {s : ProposalScan}
    {n r l₁ l₀ number protocol spiSize transforms : UInt8} {rest : Bytes}
    (h : body.drop s.cursor = n :: r :: l₁ :: l₀ :: number :: protocol :: spiSize :: transforms ::
      rest) (hfuel : body.length < fuel) :
    ikeProposalTurn targetId target fuel body s =
      if halfWord l₁ l₀ < 8 ∨ rest.length + 8 < halfWord l₁ l₀ then some (.ok (.done s))
      else
        some (.ok (.yield
          { candidates := s.candidates ++ transformCandidates targetId target (s.proposalIndex + 1) 1
              (transformsOf ((rest.take (halfWord l₁ l₀ - 8)).drop spiSize.toNat))
            cursor := s.cursor + halfWord l₁ l₀
            proposalIndex := s.proposalIndex + 1 })) := by
  have hlength : body.length = s.cursor + 8 + rest.length := by
    have hdrop := congrArg List.length h
    simp only [List.length_drop, List.length_cons] at hdrop
    omega
  have hheader : unpackBBH ((body.drop s.cursor).take 4) =
      .ok (n.toNat, r.toNat, halfWord l₁ l₀) := by
    rw [h]
    rfl
  unfold ikeProposalTurn
  rw [if_pos (by omega), slice_cursor (by omega), Outcome.andThen_ok, hheader, Outcome.andThen_ok]
  dsimp only
  -- a length that cannot be ends the loop; otherwise the transforms of the proposal are read
  by_cases hbad : halfWord l₁ l₀ < 8 ∨ rest.length + 8 < halfWord l₁ l₀
  · rw [if_pos (by omega), if_pos hbad]
  · have hproposal : (body.drop s.cursor).take (halfWord l₁ l₀) =
        n :: r :: l₁ :: l₀ :: number :: protocol :: spiSize :: transforms ::
          rest.take (halfWord l₁ l₀ - 8) := by
      rw [h, take_eight (by omega)]
    have hproposalLength : (rest.take (halfWord l₁ l₀ - 8)).length + 8 < fuel := by
      rw [List.length_take]
      omega
    rw [if_neg (by omega), if_neg hbad, slice_cursor (by omega), hproposal]
    generalize rest.take (halfWord l₁ l₀ - 8) = tail at hproposalLength ⊢
    generalize hbytes : n :: r :: l₁ :: l₀ :: number :: protocol :: spiSize :: transforms :: tail =
      bytes
    have hbytesLength : bytes.length < fuel := by
      rw [← hbytes]
      exact hproposalLength
    have hfields : slice bytes 4 8 = .ok [number, protocol, spiSize, transforms] := by
      rw [← hbytes]
      exact slice_ok (by decide) (by simp)
    obtain ⟨last, hrun, hlast⟩ :=
      (ikeTransformTurn_scans targetId target (s.proposalIndex + 1) hbytesLength).exists_run
        (s := { candidates := s.candidates, transformCursor := 8 + spiSize.toNat })
        (Nat.lt_of_le_of_lt (Nat.sub_le _ _) hbytesLength)
    rw [Outcome.andThen_ok, hfields, Outcome.andThen_ok,
      show unpackBBBB [number, protocol, spiSize, transforms] =
        .ok (number.toNat, protocol.toNat, spiSize.toNat, transforms.toNat) from rfl,
      Outcome.andThen_ok]
    dsimp only
    rw [hrun, Outcome.andThen_ok, hlast, TransformScan.expected, ← List.drop_drop, ← hbytes]
    rfl

theorem ikeProposalTurn_end {s : ProposalScan} (h : ¬ s.cursor + 8 ≤ body.length) :
    While.Stops (ikeProposalTurn targetId target fuel body) s s := if_neg h

def ProposalScan.expected (targetId : Id) (target : Target) (body : Bytes) (s : ProposalScan) :
    List AssetCandidate :=
  s.candidates ++ proposalCandidates targetId target (s.proposalIndex + 1)
    (proposalsOf (body.drop s.cursor))

theorem ikeProposalTurn_scans (targetId : Id) (target : Target) (hfuel : body.length < fuel) :
    While.Scans (ikeProposalTurn targetId target fuel body) (·.cursor) body.length (·.candidates)
      (ProposalScan.expected targetId target body) := by
  intro s
  by_cases hcursor : s.cursor + 8 ≤ body.length
  · obtain ⟨n, r, l₁, l₀, number, protocol, spiSize, transforms, rest, hdrop⟩ :=
      exists_eight hcursor
    have hturn := ikeProposalTurn_eq targetId target hdrop hfuel
    rw [ProposalScan.expected, hdrop, proposalsOf]
    dsimp only
    by_cases hbad : halfWord l₁ l₀ < 8 ∨ rest.length + 8 < halfWord l₁ l₀
    · rw [if_pos hbad] at hturn ⊢
      exact .inr ⟨s, hturn, (List.append_nil _).symm⟩
    · rw [if_neg hbad] at hturn ⊢
      have hskip : body.drop (s.cursor + halfWord l₁ l₀) = rest.drop (halfWord l₁ l₀ - 8) := by
        rw [← List.drop_drop, hdrop, drop_eight (by omega)]
      refine .inl ⟨_, hturn, ⟨by omega, by simp only; omega⟩, ?_⟩
      rw [ProposalScan.expected, hskip, proposalCandidates_cons, ← List.append_assoc]
  · refine .inr ⟨s, ikeProposalTurn_end hcursor, ?_⟩
    rw [ProposalScan.expected, proposalsOf_short (by rw [List.length_drop]; omega)]
    exact (List.append_nil _).symm

theorem parseIkeSaCandidates_eq (targetId : Id) (target : Target) (hfuel : body.length < fuel) :
    parseIkeSaCandidates targetId target fuel body =
      some (.ok (proposalCandidates targetId target 1 (proposalsOf body))) := by
  obtain ⟨last, hrun, hlast⟩ := (ikeProposalTurn_scans targetId target hfuel).exists_run
    (by simpa using hfuel : body.length - ({} : ProposalScan).cursor < fuel)
  rw [parseIkeSaCandidates, hrun, Outcome.andThen_ok, hlast]
  rfl

/-! ## 5. The payloads of a response -/

def bodyCandidates (targetId : Id) (target : Target) (payload : Nat × Bytes) :
    List AssetCandidate :=
  if payload.1 = ikeNextPayloadSa then
    proposalCandidates targetId target 1 (proposalsOf payload.2)
  else []

def payloadCandidates (targetId : Id) (target : Target) (payloads : List (Nat × Bytes)) :
    List AssetCandidate :=
  payloads.flatMap (bodyCandidates targetId target)

omit [PyText] [Sha256] in
theorem payloadsOf_short {bytes : Bytes} {nextPayload : Nat} (h : ¬ 4 ≤ bytes.length) :
    payloadsOf nextPayload bytes = [] := by
  rw [payloadsOf.eq_2]
  rintro b₁ b₂ b₃ b₄ rest rfl
  simp only [List.length_cons] at h
  omega

omit [PyText] [Sha256] in
theorem payloadsOf_zero (bytes : Bytes) : payloadsOf 0 bytes = [] := by
  unfold payloadsOf
  split
  next => exact if_pos (.inl rfl)
  next => rfl

variable {response : Bytes}

theorem ikePayloadTurn_eq (targetId : Id) (target : Target) {s : PayloadScan}
    {n r l₁ l₀ : UInt8} {rest : Bytes}
    (h : response.drop s.cursor = n :: r :: l₁ :: l₀ :: rest) (hfuel : response.length < fuel) :
    ikePayloadTurn targetId target fuel response s =
      if s.nextPayload = 0 ∨ halfWord l₁ l₀ < 4 ∨ rest.length + 4 < halfWord l₁ l₀ then
        some (.ok (.done s))
      else
        some (.ok (.yield
          { candidates := s.candidates ++
              bodyCandidates targetId target (s.nextPayload, rest.take (halfWord l₁ l₀ - 4))
            nextPayload := n.toNat
            cursor := s.cursor + halfWord l₁ l₀ })) := by
  have hlength : response.length = s.cursor + 4 + rest.length := by
    have hdrop := congrArg List.length h
    simp only [List.length_drop, List.length_cons] at hdrop
    omega
  have hheader : unpackBBH ((response.drop s.cursor).take 4) =
      .ok (n.toNat, r.toNat, halfWord l₁ l₀) := by
    rw [h]
    rfl
  unfold ikePayloadTurn
  by_cases hlast : s.nextPayload = 0
  · rw [if_neg (fun hnext => hnext.1 hlast), if_pos (.inl hlast)]
  rw [if_pos ⟨hlast, by omega⟩, slice_cursor (by omega), Outcome.andThen_ok, hheader,
    Outcome.andThen_ok]
  dsimp only
  -- a length that cannot be ends the loop; only the body of an SA payload is read
  by_cases hbad : halfWord l₁ l₀ < 4 ∨ rest.length + 4 < halfWord l₁ l₀
  · rw [if_pos (by omega), if_pos (.inr hbad)]
  · have hbody : (response.drop (s.cursor + 4)).take (s.cursor + halfWord l₁ l₀ - (s.cursor + 4)) =
        rest.take (halfWord l₁ l₀ - 4) := by
      rw [← List.drop_drop, h, Nat.add_sub_add_left]
      rfl
    have hbodyLength : (rest.take (halfWord l₁ l₀ - 4)).length < fuel := by
      rw [List.length_take]
      omega
    rw [if_neg (by omega), if_neg (by omega), slice_ok (by omega) (by omega), hbody,
      Outcome.andThen_ok]
    have hfound : (if s.nextPayload = ikeNextPayloadSa then
          parseIkeSaCandidates targetId target fuel (rest.take (halfWord l₁ l₀ - 4))
        else some (.ok [])) =
        some (.ok (bodyCandidates targetId target
          (s.nextPayload, rest.take (halfWord l₁ l₀ - 4)))) := by
      unfold bodyCandidates
      by_cases hsa : s.nextPayload = ikeNextPayloadSa
      · rw [if_pos hsa, if_pos hsa, parseIkeSaCandidates_eq targetId target hbodyLength]
      · rw [if_neg hsa, if_neg hsa]
    rw [hfound, Outcome.andThen_ok]

theorem ikePayloadTurn_end {s : PayloadScan} (h : ¬ s.cursor + 4 ≤ response.length) :
    While.Stops (ikePayloadTurn targetId target fuel response) s s := if_neg fun hnext => h hnext.2

def PayloadScan.expected (targetId : Id) (target : Target) (response : Bytes) (s : PayloadScan) :
    List AssetCandidate :=
  s.candidates ++
    payloadCandidates targetId target (payloadsOf s.nextPayload (response.drop s.cursor))

theorem ikePayloadTurn_scans (targetId : Id) (target : Target) (hfuel : response.length < fuel) :
    While.Scans (ikePayloadTurn targetId target fuel response) (·.cursor) response.length
      (·.candidates) (PayloadScan.expected targetId target response) := by
  intro s
  by_cases hcursor : s.cursor + 4 ≤ response.length
  · obtain ⟨n, r, l₁, l₀, rest, hdrop⟩ := exists_four hcursor
    have hturn := ikePayloadTurn_eq targetId target hdrop hfuel
    rw [PayloadScan.expected, hdrop, payloadsOf]
    dsimp only
    by_cases hbad : s.nextPayload = 0 ∨ halfWord l₁ l₀ < 4 ∨ rest.length + 4 < halfWord l₁ l₀
    · rw [if_pos hbad] at hturn ⊢
      exact .inr ⟨s, hturn, (List.append_nil _).symm⟩
    · rw [if_neg hbad] at hturn ⊢
      have hskip : response.drop (s.cursor + halfWord l₁ l₀) = rest.drop (halfWord l₁ l₀ - 4) := by
        rw [← List.drop_drop, hdrop]
        obtain ⟨k, hk⟩ := Nat.exists_eq_add_of_le' (by omega : 4 ≤ halfWord l₁ l₀)
        rw [hk, Nat.add_sub_cancel]
        rfl
      refine .inl ⟨_, hturn, ⟨by omega, by simp only; omega⟩, ?_⟩
      rw [PayloadScan.expected, hskip, payloadCandidates, payloadCandidates, List.flatMap_cons,
        ← List.append_assoc]
  · refine .inr ⟨s, ikePayloadTurn_end hcursor, ?_⟩
    rw [PayloadScan.expected, payloadsOf_short (by rw [List.length_drop]; omega)]
    exact (List.append_nil _).symm

def responseCandidates (targetId : Id) (target : Target) (response : Bytes) :
    List AssetCandidate :=
  match response.drop (ikeOffset response + 16) with
  | nextPayload :: rest =>
      if rest.length < 11 then []
      else payloadCandidates targetId target (payloadsOf nextPayload.toNat (rest.drop 11))
  | [] => []

theorem parseIkeResponseCandidates_eq (targetId : Id) (target : Target)
    (hfuel : response.length < fuel) :
    parseIkeResponseCandidates targetId target fuel response =
      some (.ok (responseCandidates targetId target response)) := by
  unfold parseIkeResponseCandidates responseCandidates
  generalize ikeOffset response = offset
  dsimp only
  by_cases hshort : response.length < offset + 28
  · rw [if_pos hshort]
    split
    next nextPayload rest hdrop =>
      have hlength := congrArg List.length hdrop
      simp only [List.length_drop, List.length_cons] at hlength
      rw [if_pos (by omega)]
    next => rfl
  · have hindex : offset + 16 < response.length := by omega
    have hdrop := List.drop_eq_getElem_cons hindex
    rw [if_neg hshort, readByte_ok hindex, Outcome.andThen_ok, hdrop]
    dsimp only
    rw [if_neg (by rw [List.length_drop]; omega)]
    obtain ⟨last, hrun, hlast⟩ := (ikePayloadTurn_scans targetId target hfuel).exists_run
      (s := { nextPayload := response[offset + 16].toNat, cursor := offset + 28 })
      (Nat.lt_of_le_of_lt (Nat.sub_le _ _) hfuel)
    rw [hrun, Outcome.andThen_ok, hlast, PayloadScan.expected, List.drop_drop]
    rfl

/-! ## 6. Hostile responses -/

/-- The parser returns on all bytes; no loop reads outside of the bytes that it is given, and each
turn moves its cursor on. -/
theorem parseIkeResponseCandidates_safe (targetId : Id) (target : Target) (response : Bytes) :
    (∃ candidates, ∀ fuel, response.length < fuel →
      parseIkeResponseCandidates targetId target fuel response = some (.ok candidates)) ∧
    (∀ fuel, response.length < fuel →
      While.Advances (ikePayloadTurn targetId target fuel response) (·.cursor)) ∧
    (∀ (body : Bytes) (fuel : Nat), body.length < fuel →
      While.Advances (ikeProposalTurn targetId target fuel body) (·.cursor)) ∧
    (∀ (proposalIndex : Nat) (proposal : Bytes) (fuel : Nat), proposal.length < fuel →
      While.Advances (ikeTransformTurn targetId target fuel proposalIndex proposal)
        (·.transformCursor)) ∧
    ∀ attrs : Bytes, While.Advances (ikeKeyLengthTurn attrs) (·.cursor) := by
  refine ⟨⟨_, fun fuel hfuel => parseIkeResponseCandidates_eq targetId target hfuel⟩, ?_, ?_, ?_, ?_⟩
  · exact fun fuel hfuel => (ikePayloadTurn_scans targetId target hfuel).advances
  · exact fun body fuel hfuel => (ikeProposalTurn_scans targetId target hfuel).advances
  · exact fun proposalIndex proposal fuel hfuel =>
      (ikeTransformTurn_scans targetId target proposalIndex hfuel).advances
  · exact fun attrs => (ikeKeyLengthTurn_scans attrs).advances

end

end CryptoScanner.Scan
