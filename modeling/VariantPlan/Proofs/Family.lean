import VariantPlan.Compiler.Basic
import VariantPlan.Proofs.Text.Words
import VariantPlan.Proofs.Version

/-!
# Families in normal form

A family is in normal form when no character of it is blank or an ASCII capital. Every family that
is normalized comes out in normal form, since its words hold no blanks and the hyphens between
them are none, and a family in normal form is a single word, which stays as it is.

Main results: `Compiler.normalizeFamily_eq_self` (families in normal form stay as they are) and
`Compiler.normalizeFamily_idem`.
-/

namespace VariantPlan

/-! ## Small letters -/

namespace Text

theorem isBlank_toLower (c : Char) : isBlank c.toLower = isBlank c := by
  by_cases h : c.val ≥ 'A'.val ∧ c.val ≤ 'Z'.val
  · have e : c.toLower.val = c.val + 32 := congrArg Char.val (dif_pos h)
    have h₁ : 65 ≤ c.toNat := h.1
    have h₂ : c.toNat ≤ 90 := h.2
    have h₃ : c.toLower.toNat = c.toNat + 32 := by
      show c.toLower.val.toNat = c.val.toNat + 32
      rw [e, UInt32.toNat_add]
      show (c.toNat + 32) % 2 ^ 32 = c.toNat + 32
      omega
    rw [not_isBlank_of_graphic (by omega) (by omega),
      not_isBlank_of_graphic (c := c) (by omega) (by omega)]
  · have e : c.toLower = c := dif_neg h
    rw [e]

theorem isUpper_eq_false_of_toLower_eq {c : Char} (h : c.toLower = c) : c.isUpper = false := by
  refine decide_eq_false fun hupper => ?_
  have hval : c.toLower.val = c.val + 32 := congrArg Char.val (dif_pos hupper)
  rw [h] at hval
  have hval := congrArg UInt32.toNat hval
  have hle : c.val.toNat ≤ 90 := hupper.2
  rw [UInt32.toNat_add] at hval
  have h32 : (32 : UInt32).toNat = 32 := rfl
  omega

end Text

/-! ## Normal form -/

namespace Compiler

/-- A character that normalizing a family leaves in place. -/
def IsFamilyChar (c : Char) : Prop := Text.isBlank c = false ∧ c.toLower = c

theorem isFamilyChar_hyphen : IsFamilyChar '-' := by
  refine ⟨?_, ?_⟩ <;> decide

theorem isFamilyChar_toLower {c : Char} (h : Text.isBlank c = false) : IsFamilyChar c.toLower :=
  ⟨(Text.isBlank_toLower c).trans h, Text.toLower_toLower c⟩

theorem isFamilyChar_of_mem {s : String} {c : Char} (h : c ∈ (normalizeFamily s).toList) :
    IsFamilyChar c := by
  rw [normalizeFamily, String.toList_ofList] at h
  rcases Text.mem_intercalate h with rfl | ⟨part, hpart, hc⟩
  · exact isFamilyChar_hyphen
  · obtain ⟨w, hw, rfl⟩ := List.mem_map.1 hpart
    obtain ⟨d, hd, rfl⟩ := List.mem_map.1 hc
    exact isFamilyChar_toLower (Text.not_isBlank_of_mem_words hw hd)

theorem normalizeFamily_eq_self {s : String} (h : ∀ c ∈ s.toList, IsFamilyChar c) :
    normalizeFamily s = s := by
  by_cases hne : s.toList = []
  · obtain rfl : s = "" := String.toList_eq_nil_iff.1 hne
    rfl
  · have hkept : s.toList.map Char.toLower = s.toList :=
      (List.map_congr_left fun c hc => (h c hc).2).trans (List.map_id _)
    rw [normalizeFamily, Text.words_eq_singleton hne fun c hc => (h c hc).1, List.map_singleton,
      List.intercalate_singleton, hkept, String.ofList_toList]

theorem normalizeFamily_idem (s : String) :
    normalizeFamily (normalizeFamily s) = normalizeFamily s :=
  normalizeFamily_eq_self fun _ => isFamilyChar_of_mem

end Compiler

end VariantPlan
