/-!
# Letter case

Case is folded for the ASCII letters only; every other character is kept.
-/

namespace VariantPlan.Text

/-- The text with its ASCII capitals made small. -/
def lower (s : String) : String := String.ofList (s.toList.map Char.toLower)

/-- Whether two texts differ in the case of ASCII letters only. -/
def sameLetters (a b : String) : Bool := lower a == lower b

theorem toLower_toLower (c : Char) : c.toLower.toLower = c.toLower := by
  by_cases h : c.val ≥ 'A'.val ∧ c.val ≤ 'Z'.val
  · have e : c.toLower.val = c.val + 32 := congrArg Char.val (dif_pos h)
    refine dif_neg fun ⟨_, hle⟩ => ?_
    rw [e] at hle
    have h₁ : 65 ≤ c.val.toNat := h.1
    have h₂ : c.val.toNat ≤ 90 := h.2
    have h₃ : (c.val + 32).toNat ≤ 90 := hle
    rw [UInt32.toNat_add] at h₃
    have h₄ : (32 : UInt32).toNat = 32 := rfl
    omega
  · have e : c.toLower = c := dif_neg h
    rw [e, e]

end VariantPlan.Text
