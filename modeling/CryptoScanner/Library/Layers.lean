import Mathlib.Logic.Relation

/-!
# Layered relations

Every step of the relation goes from one layer to the next, so what is reached of the next layer is
reached in one step, and whatever lies deeper through the next layer.
-/

namespace CryptoScanner.Library

open Relation

variable {α : Type*} {R : α → α → Prop} {layer : α → Nat}

/-- The relation leads from every layer to the next. -/
def Layered (layer : α → Nat) (R : α → α → Prop) : Prop := ∀ x y, R x y → layer y = layer x + 1

namespace Layered

variable (h : Layered layer R) {x y : α}

include h

theorem layer_lt (hxy : TransGen R x y) : layer x < layer y := by
  induction hxy with
  | single hstep =>
      have hnext := h _ _ hstep
      omega
  | tail _ hstep ih =>
      have hnext := h _ _ hstep
      omega

theorem transGen_next (hlayer : layer y = layer x + 1) : TransGen R x y ↔ R x y := by
  constructor
  · intro hxy
    obtain ⟨z, hstep, hrest⟩ := TransGen.head'_iff.mp hxy
    rcases reflTransGen_iff_eq_or_transGen.mp hrest with rfl | hrest
    · exact hstep
    · have hnext := h _ _ hstep
      have hlt := h.layer_lt hrest
      omega
  · exact TransGen.single

theorem transGen_deeper (hlayer : layer x + 1 < layer y) :
    TransGen R x y ↔ ∃ z, R x z ∧ TransGen R z y := by
  constructor
  · intro hxy
    obtain ⟨z, hstep, hrest⟩ := TransGen.head'_iff.mp hxy
    rcases reflTransGen_iff_eq_or_transGen.mp hrest with rfl | hrest
    · have hnext := h _ _ hstep
      omega
    · exact ⟨z, hstep, hrest⟩
  · rintro ⟨z, hstep, hrest⟩
    exact hrest.head hstep

end Layered

end CryptoScanner.Library
