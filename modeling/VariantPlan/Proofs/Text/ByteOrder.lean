import Mathlib.Data.List.Lex
import Mathlib.Data.UInt

/-!
# The order of texts by their bytes

Texts are compared character by character, and characters by their code points. The encoding in
bytes keeps this order: where two texts differ first, the first different byte of the two
characters' encodings is smaller for the smaller character, since a longer encoding starts with a
larger byte and encodings of one length have the bits of the code point in order.

Main results: `utf8EncodeChar_append_lt` (one character) and `compare_eq_lt_iff` (texts).
-/

namespace VariantPlan.Text

/-- The bytes of a text. -/
def bytes (s : String) : List UInt8 := s.toUTF8.data.toList

theorem bytes_eq_flatMap (s : String) : bytes s = s.toList.flatMap String.utf8EncodeChar := by
  rw [bytes, String.toUTF8, ← String.utf8Encode_toList, List.utf8Encode,
    List.toList_data_toByteArray]

/-- The bytes of a smaller character are smaller, whatever follows. -/
theorem utf8EncodeChar_append_lt {c d : Char} (h : c < d) (s t : List UInt8) :
    String.utf8EncodeChar c ++ s < String.utf8EncodeChar d ++ t := by
  have hlt : c.val.toNat < d.val.toNat := h
  have hmax : d.val.toNat < 0x110000 := by
    rcases d.valid with h | h
    · exact h.trans (by decide)
    · exact h.2
  -- The groups of six bits are digits to the base 64.
  have hdigit (n : Nat) : n / 4096 = n / 64 / 64 ∧ n / 262144 = n / 64 / 64 / 64 := by omega
  unfold String.utf8EncodeChar
  dsimp only
  split_ifs <;>
    simp only [List.cons_append, List.nil_append, List.cons_lt_cons_iff, UInt8.lt_iff_toNat_lt,
      ← UInt8.toNat_inj, UInt8.toNat_ofNat', hdigit] <;>
    omega

theorem flatMap_utf8EncodeChar_lt {cs ds : List Char} (h : cs < ds) :
    cs.flatMap String.utf8EncodeChar < ds.flatMap String.utf8EncodeChar := by
  induction h with
  | @nil d ds =>
    obtain ⟨b, bs, hb⟩ := List.exists_cons_of_ne_nil (@String.utf8EncodeChar_ne_nil d)
    rw [List.flatMap_nil, List.flatMap_cons, hb]
    exact List.nil_lt_cons _ _
  | rel h =>
    rw [List.flatMap_cons, List.flatMap_cons]
    exact utf8EncodeChar_append_lt h _ _
  | cons h ih =>
    rw [List.flatMap_cons, List.flatMap_cons]
    exact List.append_left_lt ih

theorem bytes_lt_of_lt {s t : String} (h : s < t) : bytes s < bytes t := by
  rw [bytes_eq_flatMap, bytes_eq_flatMap]
  exact flatMap_utf8EncodeChar_lt (String.lt_iff.1 h)

theorem compare_eq_lt_iff {s t : String} : compare s t = .lt ↔ bytes s < bytes t := by
  have hlt : compare s t = .lt ↔ s < t := compareOfLessAndEq_eq_lt
  rw [hlt]
  refine ⟨bytes_lt_of_lt, fun h => ?_⟩
  by_contra hnot
  rcases Std.le_iff_lt_or_eq.1 (String.not_lt.1 hnot) with hgt | rfl
  · exact List.lt_asymm h (bytes_lt_of_lt hgt)
  · exact List.lt_irrefl _ h

end VariantPlan.Text
