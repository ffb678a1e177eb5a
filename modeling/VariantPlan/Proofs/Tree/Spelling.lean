import VariantPlan.Proofs.Sets
import VariantPlan.Proofs.Text.Words
import VariantPlan.Proofs.Tree.Paths

/-!
# Spellings of a path

Paths with the same components are **spelled** differently if their texts differ: slashes may be
repeated or stand at the end, and the directory itself may be named between them. In **normal
spelling** the text of a path is nothing but its components between slashes. Every path has the
components of its normal spelling, so that paths are equal in order if and only if their normal
spellings are the same.

Main results: `components_ofComponents`, `normalize_eq_iff` and `PathSet.normalize_eq_iff`.
-/

namespace VariantPlan

namespace Path

/-- The path with the same components in normal spelling. -/
def normalize (p : Path) : Path := ofComponents p.components

/-- A part between slashes is not the root, and its text names it. -/
theorem isPart_of_mem_parts {p : Path} {c : Component} (h : c ∈ p.parts) : IsPart c := by
  obtain ⟨s, hs, rfl⟩ := List.mem_map.1 h
  obtain ⟨hsplit, hne⟩ := List.mem_filter.1 hs
  obtain ⟨cs, hcs, rfl⟩ := List.mem_map.1 hsplit
  have htext : (Component.ofText (String.ofList cs)).text = String.ofList cs := by
    unfold Component.ofText
    split_ifs with hcurrent hparent
    · exact hcurrent.symm
    · exact hparent.symm
    · rfl
  refine ⟨?_, ?_, congrArg Component.ofText htext⟩
  · rw [htext]
    exact of_decide_eq_true hne
  · rw [htext, String.toList_ofList]
    intro hslash
    have hfree := Text.eq_false_of_mem_splitOnP hcs hslash
    simp at hfree

theorem IsPart.ne_root {c : Component} (h : IsPart c) : c ≠ .root := by
  rintro rfl
  exact h.noSlash (by decide)

/-- Components are found again in their text if they begin with the root or the directory itself at
most, and parts come after that. -/
theorem components_ofComponents {lead rest : List Component}
    (hlead : lead = [] ∨ lead = [.root] ∨ lead = [.current])
    (hrest : ∀ c ∈ rest, IsPart c ∧ c ≠ .current) :
    (ofComponents (lead ++ rest)).components = lead ++ rest := by
  have hparts : ∀ c ∈ rest, IsPart c := fun c hc => (hrest c hc).1
  have hfilter : rest.filter (· ≠ .current) = rest :=
    List.filter_eq_self.2 fun c hc => decide_eq_true (hrest c hc).2
  -- A spelling without a lead must not begin with `.`, which would be read as one.
  rcases hlead with rfl | rfl | rfl
  · have hof : ofComponents rest = ⟨joinedText rest⟩ := by
      unfold ofComponents
      split
      next tail => exact absurd rfl (hparts .root List.mem_cons_self).ne_root
      next => rfl
    have hhead : rest.head? ≠ some .current := fun h =>
      (hrest .current (List.mem_of_head? h)).2 rfl
    rw [List.nil_append, hof, components_eq, isAbsolute_joinedText hparts, parts_joinedText hparts,
      hfilter, if_neg Bool.false_ne_true, if_neg hhead, List.nil_append]
  · have hslash : (Path.mk ("/" ++ joinedText rest)).parts = rest := by
      rw [parts_eq_partsOf, String.toList_append]
      exact (partsOf_append_slash [] _).trans (parts_joinedText hparts)
    have habs : (Path.mk ("/" ++ joinedText rest)).isAbsolute = true := by
      rw [isAbsolute, String.toList_append]
      rfl
    rw [List.singleton_append, ofComponents, components_eq, habs, hslash, hfilter, if_pos rfl,
      List.singleton_append]
  · have hall : ∀ c ∈ Component.current :: rest, IsPart c :=
      List.forall_mem_cons.2 ⟨⟨by decide, by decide, by decide⟩, hparts⟩
    rw [List.singleton_append, ofComponents, components_eq, isAbsolute_joinedText hall,
      parts_joinedText hall, List.filter_cons_of_neg (by simp), hfilter]
    · rfl
    · intro tail h
      cases h

theorem components_normalize (p : Path) : p.normalize.components = p.components := by
  rw [normalize, p.components_eq]
  refine components_ofComponents ?_ fun c hc => ?_
  · split_ifs <;> simp
  · obtain ⟨hc, hcurrent⟩ := List.mem_filter.1 hc
    exact ⟨isPart_of_mem_parts hc, of_decide_eq_true hcurrent⟩

theorem normalize_normalize (p : Path) : p.normalize.normalize = p.normalize := by
  rw [normalize, components_normalize, normalize]

/-- Paths with the same components, and no others, have one normal spelling. -/
theorem normalize_eq_iff {p q : Path} : p.normalize = q.normalize ↔ p.order q = .eq := by
  rw [order_eq_iff]
  constructor
  · intro h
    rw [← p.components_normalize, h, q.components_normalize]
  · intro h
    rw [normalize, h, normalize]

theorem normalize_ofNames {names : List String} (h : ∀ name ∈ names, IsEntryName name) :
    (ofNames names).normalize = ofNames names := by
  have hof : ofComponents (names.map .entry) = ofNames names := by
    rw [ofNames_eq]
    cases names <;> rfl
  have hentries : ∀ c ∈ names.map Component.entry, IsPart c ∧ c ≠ .current := by
    intro c hc
    refine ⟨isPart_of_mem_entries h c hc, ?_⟩
    obtain ⟨name, -, rfl⟩ := List.mem_map.1 hc
    intro h
    cases h
  have hcomponents := @components_ofComponents [] (names.map .entry) (.inl rfl) hentries
  rw [List.nil_append, hof] at hcomponents
  rw [normalize, hcomponents, hof]

end Path

/-! ## Sets -/

namespace PathSet

theorem ext {s t : PathSet} (h : s.toList = t.toList) : s = t := by
  cases s
  cases t
  cases h
  rfl

/-- Two sets have the same paths, however these are spelled. -/
def Same (s t : PathSet) : Prop := List.Forall₂ (fun p q => p.order q = .eq) s.toList t.toList

/-- The set with every path in normal spelling. -/
def normalize (s : PathSet) : PathSet where
  toList := s.toList.map Path.normalize
  sorted := by
    refine List.pairwise_map.2 (s.sorted.imp fun {p q} h => ?_)
    show compare p.normalize.components q.normalize.components = .lt
    rw [p.components_normalize, q.components_normalize]
    exact h

/-- Sets have the same paths if and only if they have one normal spelling. -/
theorem normalize_eq_iff {s t : PathSet} : s.normalize = t.normalize ↔ s.Same t := by
  have hlists : s.normalize = t.normalize ↔
      s.toList.map Path.normalize = t.toList.map Path.normalize :=
    ⟨fun h => congrArg toList h, fun h => ext h⟩
  rw [hlists, map_eq_map_iff_forall₂]
  simp only [Path.normalize_eq_iff, Same]

theorem normalize_eq_self {s : PathSet} (h : ∀ p ∈ s.toList, p.normalize = p) :
    s.normalize = s :=
  ext ((List.map_congr_left h).trans (List.map_id _))

end PathSet

end VariantPlan
