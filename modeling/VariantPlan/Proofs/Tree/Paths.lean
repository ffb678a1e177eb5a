import VariantPlan.Tree.Walk

/-!
# Paths below a directory

A path that is seen from a directory goes through the parts of the directory and then through its
own. It is **ordinary** if it is relative, names entries only, at least one of them, and does not
end in a slash. Of two ordinary paths the one that leads to the other stands first in a set.

Components between slashes make a path that has these parts again, in particular names, and a path
below a directory can be told from the directory: what is left when the directory is taken away are
its names.

Main results: `parts_join`, `isAbsolute_join`, `hasTrailingSlash_join`, `components_join` and
`order_join` (paths below a directory), `parts_joinedText`, `parts_ofNames` and
`joinedText_componentsBelow` (components and names between slashes), `IsEntryName.parts` and
`IsOrdinary.not_prefix_of_order_eq_lt`.
-/

namespace VariantPlan.Path

/-! ## Joined paths -/

/-- The components between slashes, empty ones left out. -/
def partsOf (cs : List Char) : List Component :=
  (((cs.splitOn '/').map String.ofList).filter (· ≠ "")).map Component.ofText

theorem parts_eq_partsOf (p : Path) : p.parts = partsOf p.text.toList := rfl

theorem partsOf_append_slash (xs ys : List Char) :
    partsOf (xs ++ '/' :: ys) = partsOf xs ++ partsOf ys := by
  rw [partsOf, List.splitOn_append_cons_self, List.map_append, List.filter_append, List.map_append,
    partsOf, partsOf]

variable {root p q : Path}

theorem isAbsolute_eq_false_of_text_eq (h : p.text = "") : p.isAbsolute = false := by
  rw [isAbsolute, h]
  rfl

theorem exists_of_hasTrailingSlash (h : p.hasTrailingSlash = true) :
    ∃ cs, p.text.toList = cs ++ ['/'] := by
  have hlast : p.text.toList.getLast? = some '/' := beq_iff_eq.1 h
  exact List.getLast?_eq_some_iff.1 hlast

/-- A relative path is appended to a directory, with a slash between if there is none. -/
theorem toList_text_join (hp : p.isAbsolute = false) :
    (root.join p).text.toList = root.text.toList ++
      (if root.text = "" || root.hasTrailingSlash then [] else ['/']) ++ p.text.toList := by
  rw [join, hp]
  split
  next h => cases h
  next =>
    split
    next => rw [String.toList_append, List.append_nil]
    next => rw [String.toList_append, String.toList_append]; rfl

theorem join_injective (hp : p.isAbsolute = false) (hq : q.isAbsolute = false)
    (h : root.join p = root.join q) : p = q := by
  have htexts := congrArg (fun path : Path => path.text.toList) h
  rw [toList_text_join hp, toList_text_join hq, List.append_cancel_left_eq,
    String.toList_inj] at htexts
  cases p
  exact congrArg Path.mk htexts

theorem parts_join (hp : p.isAbsolute = false) : (root.join p).parts = root.parts ++ p.parts := by
  rw [parts_eq_partsOf, parts_eq_partsOf, parts_eq_partsOf, toList_text_join hp]
  split
  next h =>
    rw [List.append_nil]
    rcases Bool.or_eq_true_iff.1 h with h | h
    · rw [of_decide_eq_true h]
      rfl
    · -- The slash at the end of the directory stands between two texts.
      obtain ⟨cs, hcs⟩ := exists_of_hasTrailingSlash h
      have hnil : partsOf [] = [] := rfl
      rw [hcs, List.append_assoc, List.singleton_append, partsOf_append_slash,
        partsOf_append_slash, hnil, List.append_nil]
  next => rw [List.append_assoc, List.singleton_append, partsOf_append_slash]

theorem isAbsolute_join (hp : p.isAbsolute = false) :
    (root.join p).isAbsolute = root.isAbsolute := by
  by_cases hroot : root.text = ""
  · have htext : (root.join p).text = p.text := by
      rw [← String.toList_inj, toList_text_join hp, hroot]
      rfl
    rw [isAbsolute_eq_false_of_text_eq hroot, isAbsolute, htext]
    exact hp
  · obtain ⟨c, cs, hroot⟩ := List.exists_cons_of_ne_nil (mt String.toList_eq_nil_iff.1 hroot)
    rw [isAbsolute, isAbsolute, toList_text_join hp, hroot]
    rfl

theorem hasTrailingSlash_join (hp : p.isAbsolute = false) (htext : p.text ≠ "") :
    (root.join p).hasTrailingSlash = p.hasTrailingSlash := by
  have hlast : p.text.toList.getLast?.isSome = true :=
    List.getLast?_isSome.2 (mt String.toList_eq_nil_iff.1 htext)
  rw [hasTrailingSlash, hasTrailingSlash, toList_text_join hp, List.getLast?_append,
    Option.or_of_isSome hlast]

theorem join_assoc (hp : p.isAbsolute = false) (htext : p.text ≠ "") (hq : q.isAbsolute = false) :
    (root.join p).join q = root.join (p.join q) := by
  have hjoined : (root.join p).text ≠ "" := by
    intro h
    have hnil := congrArg String.toList h
    rw [toList_text_join hp] at hnil
    exact htext (String.toList_eq_nil_iff.1 (List.append_eq_nil_iff.1 hnil).2)
  have habs : (p.join q).isAbsolute = false := (isAbsolute_join hq).trans hp
  rw [Path.mk.injEq, ← String.toList_inj, toList_text_join hq, toList_text_join habs,
    toList_text_join hq, toList_text_join hp, hasTrailingSlash_join hp htext]
  simp [hjoined, htext]

theorem startFrom_join (hp : p.isAbsolute = false) (dir : Location) :
    (root.join p).startFrom dir = root.startFrom dir := by
  rw [startFrom, startFrom, isAbsolute_join hp]

/-- A path is its leading component, if it has one, and the parts that do not name the directory
itself. -/
theorem components_eq (p : Path) :
    p.components = (if p.isAbsolute then [.root]
      else if p.parts.head? = some .current then [.current] else []) ++
        p.parts.filter (· ≠ .current) := by
  unfold components
  by_cases habs : p.isAbsolute = true
  · simp [habs]
  · cases hparts : p.parts with
    | nil => simp [habs]
    | cons c rest => cases c <;> simp [habs]

/-- A path below a directory goes on through all parts of its own. -/
theorem components_join (hp : p.isAbsolute = false) (hhead : p.parts.head? ≠ some .current) :
    (root.join p).components = root.components ++ p.parts.filter (· ≠ .current) := by
  rw [components_eq (root.join p), components_eq root, isAbsolute_join hp, parts_join hp,
    List.filter_append, ← List.append_assoc]
  congr 2
  cases hroot : root.parts with
  | nil => simp [hhead]
  | cons c rest => simp

theorem compare_append_left {α : Type} [Ord α] [Std.ReflOrd α] (xs ys zs : List α) :
    compare (xs ++ ys) (xs ++ zs) = compare ys zs := by
  induction xs with
  | nil => rfl
  | cons x xs ih =>
    rw [List.cons_append, List.cons_append, List.compare_cons_cons, Std.ReflOrd.compare_self]
    exact ih

/-- Paths without a leading component are in the same order from every directory. -/
theorem order_join (hp : p.isAbsolute = false) (hp' : p.parts.head? ≠ some .current)
    (hq : q.isAbsolute = false) (hq' : q.parts.head? ≠ some .current) (root : Path) :
    (root.join p).order (root.join q) = p.order q := by
  have hcomponents {p : Path} (hp : p.isAbsolute = false) (hp' : p.parts.head? ≠ some .current) :
      (root.join p).components = root.components ++ p.components := by
    rw [components_join hp hp', p.components_eq, hp]
    simp [hp']
  show compare (root.join p).components (root.join q).components =
    compare p.components q.components
  rw [hcomponents hp hp', hcomponents hq hq', compare_append_left]

/-! ## Components between slashes -/

/-- A component that is named by its text between slashes: any but the root, unless its name is
empty, holds a slash or is made of dots. -/
structure IsPart (c : Component) : Prop where
  nonempty : c.text ≠ ""
  noSlash : '/' ∉ c.text.toList
  ofText_text : Component.ofText c.text = c

section Parts

variable {cs : List Component} (h : ∀ c ∈ cs, IsPart c)

include h

theorem parts_joinedText : (Path.mk (joinedText cs)).parts = cs := by
  by_cases hnil : cs = []
  · subst hnil
    rfl
  · have hsplit : Text.splitText '/' (joinedText cs) = cs.map Component.text := by
      have hslash : ∀ text ∈ (cs.map Component.text).map String.toList, '/' ∉ text := by
        simpa using fun c hc => (h c hc).noSlash
      have htext : (joinedText cs).toList =
          ['/'].intercalate ((cs.map Component.text).map String.toList) :=
        String.toList_intercalate
      rw [Text.splitText, htext, List.splitOn_intercalate '/' hslash (by simpa using hnil)]
      simp
    have hfilter : (cs.map Component.text).filter (· ≠ "") = cs.map Component.text := by
      refine List.filter_eq_self.2 fun text htext => decide_eq_true ?_
      obtain ⟨c, hc, rfl⟩ := List.mem_map.1 htext
      exact (h c hc).nonempty
    rw [parts, hsplit, hfilter, List.map_map]
    exact (List.map_congr_left fun c hc => (h c hc).ofText_text).trans (List.map_id cs)

theorem isAbsolute_joinedText : (Path.mk (joinedText cs)).isAbsolute = false := by
  cases cs with
  | nil => rfl
  | cons c rest =>
    have hc := h c List.mem_cons_self
    obtain ⟨d, ds, hds⟩ :=
      List.exists_cons_of_ne_nil (mt String.toList_eq_nil_iff.1 hc.nonempty)
    have hd : d ≠ '/' := fun heq => hc.noSlash (hds ▸ heq ▸ List.mem_cons_self)
    have hhead : (joinedText (c :: rest)).toList.head? = some d := by
      rw [joinedText, String.toList_intercalate, List.map_cons, List.map_cons, hds]
      cases rest <;> rfl
    rw [isAbsolute, hhead]
    simpa using hd

end Parts

/-! ## Names -/

/-- A text that names an entry between slashes. -/
structure IsEntryName (s : String) : Prop where
  nonempty : s ≠ ""
  noSlash : '/' ∉ s.toList
  component : Component.ofText s = .entry s

instance (s : String) : Decidable (IsEntryName s) :=
  decidable_of_iff (s ≠ "" ∧ '/' ∉ s.toList ∧ Component.ofText s = .entry s)
    ⟨fun h => ⟨h.1, h.2.1, h.2.2⟩, fun h => ⟨h.nonempty, h.noSlash, h.component⟩⟩

namespace IsEntryName

variable {s : String} (h : IsEntryName s)

include h

theorem isPart : IsPart (.entry s) := ⟨h.nonempty, h.noSlash, h.component⟩

theorem parts : (Path.mk s).parts = [.entry s] := by
  have hparts := @parts_joinedText [.entry s] (List.forall_mem_singleton.2 h.isPart)
  rw [joinedText, List.map_singleton, String.intercalate_singleton] at hparts
  exact hparts

theorem isAbsolute_eq_false : (Path.mk s).isAbsolute = false :=
  Bool.eq_false_iff.2 fun habs => h.noSlash (List.mem_of_head? (beq_iff_eq.1 habs))

end IsEntryName

/-- The path of names between slashes. -/
def ofNames (names : List String) : Path := ⟨String.intercalate "/" names⟩

theorem ofNames_singleton (name : String) : ofNames [name] = ⟨name⟩ :=
  congrArg Path.mk String.intercalate_singleton

theorem ofNames_eq (names : List String) :
    ofNames names = ⟨joinedText (names.map .entry)⟩ := by
  rw [ofNames, joinedText, List.map_map]
  exact congrArg (fun texts => Path.mk (String.intercalate "/" texts)) (List.map_id names).symm

section Names

variable {names : List String} (h : ∀ name ∈ names, IsEntryName name)

include h

theorem isPart_of_mem_entries : ∀ c ∈ names.map Component.entry, IsPart c := by
  simpa using fun name hname => (h name hname).isPart

theorem parts_ofNames : (ofNames names).parts = names.map .entry := by
  rw [ofNames_eq, parts_joinedText (isPart_of_mem_entries h)]

theorem isAbsolute_ofNames : (ofNames names).isAbsolute = false := by
  rw [ofNames_eq, isAbsolute_joinedText (isPart_of_mem_entries h)]

theorem components_join_ofNames :
    (root.join (ofNames names)).components = root.components ++ names.map .entry := by
  have hparts := parts_ofNames h
  have hhead : (ofNames names).parts.head? ≠ some .current := by
    rw [hparts]
    cases names <;> simp
  rw [components_join (isAbsolute_ofNames h) hhead, hparts]
  congr 1
  refine List.filter_eq_self.2 fun c hc => ?_
  obtain ⟨name, -, rfl⟩ := List.mem_map.1 hc
  rfl

end Names

theorem text_ofNames_concat {names : List String} (hne : names ≠ []) (name : String) :
    (ofNames (names ++ [name])).text = (ofNames names).text ++ "/" ++ name := by
  induction names with
  | nil => exact absurd rfl hne
  | cons first rest ih =>
    cases rest with
    | nil => exact String.intercalate_cons_cons
    | cons second rest =>
      have hrest := ih (List.cons_ne_nil second rest)
      have hcons (names : List String) : (ofNames (first :: second :: names)).text =
          first ++ "/" ++ (ofNames (second :: names)).text := String.intercalate_cons_cons
      rw [List.cons_append, List.cons_append, hcons, ← List.cons_append, hrest, hcons]
      simp only [String.append_assoc]

theorem getLast?_ofNames {name : String} (hname : name ≠ "") (names : List String) :
    (ofNames (names ++ [name])).text.toList.getLast? = name.toList.getLast? := by
  by_cases hne : names = []
  · rw [hne, List.nil_append, ofNames, String.intercalate_singleton]
  · have hlast : name.toList.getLast?.isSome = true :=
      List.getLast?_isSome.2 (mt String.toList_eq_nil_iff.1 hname)
    rw [text_ofNames_concat hne, String.toList_append, List.getLast?_append,
      Option.or_of_isSome hlast]

theorem ofNames_injective {names names' : List String} (h : ∀ name ∈ names, IsEntryName name)
    (h' : ∀ name ∈ names', IsEntryName name) (heq : ofNames names = ofNames names') :
    names = names' := by
  have hparts := congrArg parts heq
  rw [parts_ofNames h, parts_ofNames h'] at hparts
  exact (List.map_inj_right fun _ _ => Component.entry.inj).1 hparts

theorem joinedText_componentsBelow {names : List String} (h : ∀ name ∈ names, IsEntryName name) :
    joinedText (root.componentsBelow (root.join (ofNames names))) =
      String.intercalate "/" names := by
  have hbelow : root.components.isPrefixOf (root.components ++ names.map .entry) = true :=
    List.isPrefixOf_iff_prefix.2 (List.prefix_append _ _)
  rw [componentsBelow, components_join_ofNames h, if_pos hbelow, List.drop_left, joinedText,
    List.map_map]
  congr 1
  exact List.map_id' _

/-! ## Ordinary paths -/

def names (p : Path) : List String := p.parts.map Component.name

/-- A relative path of names. -/
structure IsOrdinary (p : Path) : Prop where
  relative : p.isAbsolute = false
  endsInName : p.hasTrailingSlash = false
  parts : p.parts = p.names.map .entry
  nonempty : p.names ≠ []

namespace IsOrdinary

/-- What an ordinary path leads to from a directory is not the root of the tree. -/
theorem append_names_ne_nil {p : Path} (hp : p.IsOrdinary) (dir : List String) :
    dir ++ p.names ≠ [] := List.append_ne_nil_of_right_ne_nil dir hp.nonempty

theorem ofNames {names : List String} (h : ∀ name ∈ names, IsEntryName name) (hne : names ≠ []) :
    (Path.ofNames names).IsOrdinary ∧ (Path.ofNames names).names = names := by
  have hparts := parts_ofNames h
  have hnames : (Path.ofNames names).names = names := by
    rw [Path.names, hparts, List.map_map]
    exact List.map_id' _
  refine ⟨⟨isAbsolute_ofNames h, ?_, by rw [hnames, hparts], by rwa [hnames]⟩, hnames⟩
  obtain ⟨front, last, rfl⟩ : ∃ front last, names = front ++ [last] :=
    ⟨_, _, (List.dropLast_concat_getLast hne).symm⟩
  have hlast := h last (List.mem_append_right front List.mem_cons_self)
  rw [hasTrailingSlash, getLast?_ofNames hlast.nonempty]
  exact Bool.eq_false_iff.2 fun hslash =>
    hlast.noSlash (List.mem_of_getLast? (beq_iff_eq.1 hslash))

theorem text_ne_empty (hp : p.IsOrdinary) : p.text ≠ "" := by
  intro h
  refine hp.nonempty ?_
  rw [names, parts_eq_partsOf, h]
  rfl

theorem join_join_ofNames {names : List String} (h : ∀ name ∈ names, IsEntryName name)
    (hne : names ≠ []) {name : String} (hname : IsEntryName name) :
    (root.join (Path.ofNames names)).join ⟨name⟩ = root.join (Path.ofNames (names ++ [name])) := by
  obtain ⟨hordinary, -⟩ := ofNames h hne
  have hjoin : (Path.ofNames names).join ⟨name⟩ = Path.ofNames (names ++ [name]) := by
    rw [join, hname.isAbsolute_eq_false, hordinary.endsInName, Path.mk.injEq,
      text_ofNames_concat hne]
    simp [hordinary.text_ne_empty]
  rw [join_assoc hordinary.relative hordinary.text_ne_empty hname.isAbsolute_eq_false, hjoin]

theorem components (hp : p.IsOrdinary) : p.components = p.names.map .entry := by
  rw [Path.components, hp.relative, hp.parts]
  have hfilter (l : List String) :
      (l.map Component.entry).filter (· ≠ .current) = l.map .entry := by
    refine List.filter_eq_self.2 fun c hc => ?_
    obtain ⟨name, -, rfl⟩ := List.mem_map.1 hc
    rfl
  cases hnames : p.names with
  | nil => rfl
  | cons name l => exact hfilter (name :: l)

theorem compare_append_ne_lt {α : Type} [Ord α] [Std.ReflOrd α] (xs ys : List α) :
    compare (xs ++ ys) xs ≠ .lt := by
  induction xs with
  | nil =>
    cases ys with
    | nil => nofun
    | cons y ys => nofun
  | cons x xs ih =>
    rw [List.cons_append, List.compare_cons_cons, Std.ReflOrd.compare_self]
    exact ih

/-- In the order of a set no path begins with a later one. -/
theorem not_prefix_of_order_eq_lt (hp : p.IsOrdinary) (hq : q.IsOrdinary)
    (h : p.order q = .lt) : ¬q.names <+: p.names := by
  rintro ⟨l, hl⟩
  have hcompare : compare p.components q.components = .lt := h
  rw [hp.components, hq.components, ← hl, List.map_append] at hcompare
  exact compare_append_ne_lt _ _ hcompare

end IsOrdinary

end VariantPlan.Path
