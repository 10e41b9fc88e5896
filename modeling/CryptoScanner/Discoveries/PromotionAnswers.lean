import CryptoScanner.Discoveries.Promotion

/-!
# The answers to a promotion

Each promotion of a request is answered once: with a target where the endpoint was read as open and is
met for the first time, and with the reason why it is skipped otherwise.
-/

namespace CryptoScanner.Discoveries

open Library Python

def PromoteRequest.readOpen (request : PromoteRequest) (id : Id) : Bool :=
  (request.loaded id).any fun row => !row.promoted

def PromoteRequest.readPromoted (request : PromoteRequest) (id : Id) : Bool :=
  (request.loaded id).any (·.promoted)

/-- Every promotion that the loop is through with has one answer. -/
structure PromoteRequest.Answered (request : PromoteRequest) : Prop where
  next_le : request.next ≤ request.payload.length
  promoted : ∀ id, (request.promoted.map Prod.fst).count id =
    if request.readOpen id then min 1 (request.done.count id) else 0
  notFound : ∀ id, request.skipped.count (id, .endpointNotFound) =
    if request.loaded id = none then request.done.count id else 0
  already : ∀ id, request.skipped.count (id, .alreadyPromoted) =
    if request.readPromoted id then request.done.count id
    else if request.readOpen id then request.done.count id - 1 else 0

/-- The objects of the loop: an endpoint that was open is promoted once the loop has met it. -/
structure PromoteRequest.Sound (request : PromoteRequest) : Prop extends request.Answered where
  missing : ∀ id, request.endpoints id = none ↔ request.loaded id = none
  objects : ∀ id row, request.endpoints id = some row →
    (row.promoted = true ↔ request.readPromoted id = true ∨ 0 < request.done.count id)
  pending : request.target.isSome = true → ∃ promotion row,
    request.payload[request.next]? = some promotion ∧
    request.endpoints promotion.endpointId = some row ∧ row.promoted = false

section Request

variable {request : PromoteRequest} {promotion : DiscoveryPromotionPayload}

theorem read_cases (request : PromoteRequest) (id : Id) :
    request.loaded id = none ∧ request.readOpen id = false ∧ request.readPromoted id = false ∨
    request.loaded id ≠ none ∧ request.readOpen id = true ∧ request.readPromoted id = false ∨
    request.loaded id ≠ none ∧ request.readOpen id = false ∧ request.readPromoted id = true := by
  unfold PromoteRequest.readOpen PromoteRequest.readPromoted
  cases hrow : request.loaded id with
  | none => exact .inl ⟨rfl, rfl, rfl⟩
  | some row =>
      cases hpromoted : row.promoted <;> simp [hpromoted]

theorem count_concat {β : Type} [BEq β] [LawfulBEq β] [DecidableEq β] (l : List β) (a b : β) :
    (l ++ [a]).count b = l.count b + if a = b then 1 else 0 := by
  rw [List.count_append, List.count_singleton]
  by_cases heq : a = b <;> simp [heq]

theorem count_done (request' : PromoteRequest)
    (hcurrent : request.payload[request.next]? = some promotion)
    (hpayload : request'.payload = request.payload) (hnext : request'.next = request.next + 1)
    (id : Id) :
    request'.done.count id = request.done.count id + if promotion.endpointId = id then 1 else 0 := by
  have hdone : request'.done = request.done ++ [promotion.endpointId] := by
    unfold PromoteRequest.done
    rw [hpayload, hnext, List.take_add_one, hcurrent, List.map_append]
    rfl
  rw [hdone, count_concat]

theorem next_succ_le (hcurrent : request.payload[request.next]? = some promotion) :
    request.next + 1 ≤ request.payload.length :=
  (List.getElem?_eq_some_iff.mp hcurrent).1

theorem PromoteRequest.Sound.start (payload : List DiscoveryPromotionPayload)
    (endpoints : Id → Option EndpointRow) :
    PromoteRequest.Sound { payload, loaded := endpoints, endpoints } where
  next_le := Nat.zero_le _
  promoted id := by simp [PromoteRequest.done]
  notFound id := by simp [PromoteRequest.done]
  already id := by simp [PromoteRequest.done]
  missing id := Iff.rfl
  objects := by
    intro id row hrow
    unfold PromoteRequest.readPromoted PromoteRequest.done
    dsimp only at hrow ⊢
    rw [hrow]
    simp
  pending := nofun

/-- The counts after a promotion is skipped for the right reason. -/
theorem PromoteRequest.Sound.answered_skip (h : request.Sound)
    (hcurrent : request.payload[request.next]? = some promotion) {reason : SkipReason}
    (hreason : match reason with
      | .endpointNotFound => request.loaded promotion.endpointId = none
      | .alreadyPromoted => request.loaded promotion.endpointId ≠ none ∧
          (request.readPromoted promotion.endpointId = true ∨
            0 < request.done.count promotion.endpointId)) :
    (request.skip promotion.endpointId reason).Answered := by
  -- one more turn is done, for the endpoint of this promotion
  have hdone := count_done (request.skip promotion.endpointId reason) hcurrent rfl rfl
  refine ⟨next_succ_le hcurrent, ?_, ?_, ?_⟩
  · intro id
    have hold := h.promoted id
    show (request.promoted.map Prod.fst).count id = if request.readOpen id then min 1 _ else 0
    rw [hdone, hold]
    by_cases heq : promotion.endpointId = id
    · subst heq
      cases reason with
      | endpointNotFound =>
          rcases read_cases request promotion.endpointId with hcase | hcase | hcase
          · simp [hcase]
          · exact absurd hreason hcase.1
          · exact absurd hreason hcase.1
      | alreadyPromoted =>
          rcases read_cases request promotion.endpointId with hcase | hcase | hcase
          · exact absurd hcase.1 hreason.1
          · -- the loop has met the endpoint before
            have hpos := hreason.2.resolve_left (by rw [hcase.2.2]; exact Bool.false_ne_true)
            rw [hcase.2.1, if_pos rfl, if_pos rfl, if_pos rfl]
            omega
          · simp [hcase]
    · rw [if_neg heq, Nat.add_zero]
  · intro id
    have hold := h.notFound id
    show (request.skipped ++ [(promotion.endpointId, reason)]).count (id, _) =
      if request.loaded id = none then _ else 0
    rw [hdone, count_concat, hold]
    by_cases heq : promotion.endpointId = id
    · subst heq
      cases reason with
      | endpointNotFound => simp [show request.loaded promotion.endpointId = none from hreason]
      | alreadyPromoted => simp [hreason.1]
    · simp [heq]
  · intro id
    have hold := h.already id
    show (request.skipped ++ [(promotion.endpointId, reason)]).count (id, _) =
      if request.readPromoted id then _ else if request.readOpen id then _ else 0
    rw [hdone, count_concat, hold]
    by_cases heq : promotion.endpointId = id
    · subst heq
      cases reason with
      | endpointNotFound =>
          rcases read_cases request promotion.endpointId with hcase | hcase | hcase
          · simp [hcase]
          · exact absurd hreason hcase.1
          · exact absurd hreason hcase.1
      | alreadyPromoted =>
          rcases read_cases request promotion.endpointId with hcase | hcase | hcase
          · exact absurd hcase.1 hreason.1
          · have hpos := hreason.2.resolve_left (by rw [hcase.2.2]; exact Bool.false_ne_true)
            simp only [hcase.2.1, hcase.2.2, Bool.false_eq_true, if_false, if_true]
            omega
          · simp [hcase]
    · simp [heq]

theorem PromoteRequest.Sound.skipMissing (h : request.Sound)
    (hcurrent : request.payload[request.next]? = some promotion)
    (hnone : request.endpoints promotion.endpointId = none) :
    (request.skip promotion.endpointId .endpointNotFound).Sound := by
  have hdone := count_done (request.skip promotion.endpointId .endpointNotFound) hcurrent rfl rfl
  refine ⟨h.answered_skip hcurrent ((h.missing _).mp hnone), h.missing, ?_, ?_⟩
  · intro id row hrow
    change request.endpoints id = some row at hrow
    -- the skipped endpoint has no object, so no object changes
    have hne : ¬ promotion.endpointId = id := by
      intro heq
      rw [← heq, hnone] at hrow
      cases hrow
    show row.promoted = true ↔ request.readPromoted id = true ∨ _
    rw [hdone, if_neg hne, h.objects id row hrow, Nat.add_zero]
  · intro htarget
    obtain ⟨other, row, hother, hrow, _⟩ := h.pending htarget
    rw [hcurrent] at hother
    cases hother
    rw [hnone] at hrow
    cases hrow

/-- An endpoint that was read as promoted, or that the loop has promoted. -/
theorem PromoteRequest.Sound.skipPromoted (h : request.Sound)
    (hcurrent : request.payload[request.next]? = some promotion) {row : EndpointRow}
    (hrow : request.endpoints promotion.endpointId = some row) (hpromoted : row.promoted = true) :
    (request.skip promotion.endpointId .alreadyPromoted).Sound := by
  have hmet := (h.objects _ row hrow).mp hpromoted
  have hloaded : request.loaded promotion.endpointId ≠ none := by
    rw [Ne, ← h.missing, hrow]
    exact nofun
  have hdone := count_done (request.skip promotion.endpointId .alreadyPromoted) hcurrent rfl rfl
  refine ⟨h.answered_skip hcurrent ⟨hloaded, hmet⟩, h.missing, ?_, ?_⟩
  · intro id other hother
    change request.endpoints id = some other at hother
    show other.promoted = true ↔ request.readPromoted id = true ∨ _
    rw [hdone, h.objects id other hother]
    by_cases heq : promotion.endpointId = id
    · subst heq
      rw [if_pos rfl]
      exact iff_of_true hmet (.inr (Nat.succ_pos _))
    · rw [if_neg heq, Nat.add_zero]
  · intro htarget
    obtain ⟨other, row', hother, hrow', hopen⟩ := h.pending htarget
    rw [hcurrent] at hother
    cases hother
    rw [hrow] at hrow'
    cases hrow'
    rw [hpromoted] at hopen
    cases hopen

theorem PromoteRequest.Sound.finish (h : request.Sound)
    (hcurrent : request.payload[request.next]? = some promotion) {targetId : Id}
    (htarget : request.target = some targetId) :
    (request.finish promotion.endpointId targetId).Sound := by
  obtain ⟨other, row, hother, hrow, hopen⟩ := h.pending (by rw [htarget]; rfl)
  rw [hcurrent] at hother
  cases hother
  have hnot : ¬ (request.readPromoted promotion.endpointId = true ∨
      0 < request.done.count promotion.endpointId) := by
    rw [← h.objects _ row hrow, hopen]
    exact Bool.false_ne_true
  rw [not_or, Bool.not_eq_true, Nat.not_lt, Nat.le_zero] at hnot
  obtain ⟨hread, hzero⟩ := hnot
  -- the endpoint is there, was read as open and is promoted for the first time
  have hcase : request.loaded promotion.endpointId ≠ none ∧
      request.readOpen promotion.endpointId = true := by
    rcases read_cases request promotion.endpointId with hcase | hcase | hcase
    · rw [← h.missing, hrow] at hcase
      cases hcase.1
    · exact ⟨hcase.1, hcase.2.1⟩
    · rw [hcase.2.2] at hread
      cases hread
  have hdone := count_done (request.finish promotion.endpointId targetId) hcurrent rfl rfl
  refine ⟨⟨next_succ_le hcurrent, ?_, ?_, ?_⟩, ?_, ?_, nofun⟩
  · intro id
    show ((request.promoted ++ [(promotion.endpointId, targetId)]).map Prod.fst).count id =
      if request.readOpen id then min 1 _ else 0
    rw [hdone, List.map_append]
    show (request.promoted.map Prod.fst ++ [promotion.endpointId]).count id = _
    rw [count_concat, h.promoted id]
    by_cases heq : promotion.endpointId = id
    · subst heq
      rw [hcase.2, hzero, if_pos rfl, if_pos rfl, if_pos rfl]
      rfl
    · rw [if_neg heq, Nat.add_zero, Nat.add_zero]
  · intro id
    show request.skipped.count (id, _) = if request.loaded id = none then _ else 0
    rw [hdone, h.notFound id]
    by_cases heq : promotion.endpointId = id
    · subst heq
      rw [if_neg hcase.1, if_neg hcase.1]
    · rw [if_neg heq, Nat.add_zero]
  · intro id
    show request.skipped.count (id, _) =
      if request.readPromoted id then _ else if request.readOpen id then _ else 0
    rw [hdone, h.already id]
    by_cases heq : promotion.endpointId = id
    · subst heq
      rw [hread, hcase.2, hzero, if_pos (rfl : promotion.endpointId = _)]
      rfl
    · rw [if_neg heq, Nat.add_zero]
  · intro id
    show Function.update request.endpoints _ _ id = none ↔ request.loaded id = none
    rw [← h.missing id]
    by_cases heq : id = promotion.endpointId
    · subst heq
      rw [Function.update_self, Option.map_eq_none_iff]
    · rw [Function.update_of_ne heq]
  · intro id other hother
    show other.promoted = true ↔ request.readPromoted id = true ∨ _
    change Function.update request.endpoints _ _ id = some other at hother
    rw [hdone]
    by_cases heq : id = promotion.endpointId
    · subst heq
      rw [Function.update_self, hrow] at hother
      cases hother
      rw [if_pos rfl]
      exact iff_of_true rfl (.inr (Nat.succ_pos _))
    · rw [Function.update_of_ne heq] at hother
      rw [h.objects id other hother, if_neg fun h => heq h.symm, Nat.add_zero]

end Request

end CryptoScanner.Discoveries
