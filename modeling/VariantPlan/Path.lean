import VariantPlan.Text.Split

/-!
# Paths

A path is a text in which slashes separate components. It is compared by its components: empty
ones and those that name the directory itself do not count, except for a leading dot, and neither
does a trailing slash. Two texts can therefore be the same path.

A set of paths is in increasing order of components and keeps of equal paths the text that came
first.

Main results: `order_eq_iff` (paths are equal in order when their components are), and
`PathSet.mem_insertPath`.
-/

namespace VariantPlan

/-- A part of a path. -/
inductive Component where
  /-- The root of the file system, where a path begins with a slash. -/
  | root
  /-- The directory itself, at the start of a path. -/
  | current
  /-- The directory above. -/
  | parent
  /-- An entry of a directory. -/
  | entry (name : String)
deriving DecidableEq

namespace Component

/-- The place of a kind of component: the root, the directory itself, the one above, entries. -/
def rank : Component → Nat
  | .root => 0
  | .current => 1
  | .parent => 2
  | .entry _ => 3

/-- The name of an entry. -/
def name : Component → String
  | .entry name => name
  | _ => ""

instance : Ord Component := ⟨compareLex (compareOn rank) (compareOn name)⟩

instance : Std.TransOrd Component :=
  inferInstanceAs (Std.TransCmp (compareLex (compareOn rank) (compareOn name)))

instance : Std.LawfulEqOrd Component where
  eq_of_compare {a b} h := by
    obtain ⟨h₁, h₂⟩ := Ordering.then_eq_eq.1 h
    have h₁ : a.rank = b.rank := Std.LawfulEqCmp.eq_of_compare (h₁ : compare a.rank b.rank = .eq)
    have h₂ : a.name = b.name := Std.LawfulEqCmp.eq_of_compare (h₂ : compare a.name b.name = .eq)
    cases a <;> cases b <;> simp_all [rank, name]

/-- The written form of a component. -/
def text : Component → String
  | .root => "/"
  | .current => "."
  | .parent => ".."
  | .entry name => name

/-- The component that a text between slashes names. -/
def ofText (s : String) : Component :=
  if s = "." then .current else if s = ".." then .parent else .entry s

end Component

/-- A path. -/
structure Path where
  text : String
deriving DecidableEq

namespace Path

/-- Whether a path starts at the root of the file system. -/
def isAbsolute (p : Path) : Bool := p.text.toList.head? == some '/'

def hasTrailingSlash (p : Path) : Bool := p.text.toList.getLast? == some '/'

/-- The components between slashes, empty ones left out. -/
def parts (p : Path) : List Component :=
  ((Text.splitText '/' p.text).filter (· ≠ "")).map Component.ofText

/-- The components that count in a comparison. -/
def components (p : Path) : List Component :=
  let rest := p.parts
  if p.isAbsolute then .root :: rest.filter (· ≠ .current)
  else match rest with
    | .current :: rest => .current :: rest.filter (· ≠ .current)
    | rest => rest.filter (· ≠ .current)

/-- The order of paths, by components. -/
def order (p q : Path) : Ordering := compareOn components p q

instance : Std.TransCmp order := inferInstanceAs (Std.TransCmp (compareOn components))

theorem order_eq_iff {p q : Path} : p.order q = .eq ↔ p.components = q.components := by
  show compare p.components q.components = .eq ↔ _
  exact Std.LawfulEqCmp.compare_eq_iff_eq

/-- A path seen from a directory: an absolute one stands for itself, any other is appended with a
slash between unless there is one or nothing before it. -/
def join (root p : Path) : Path :=
  if p.isAbsolute then p
  else if root.text = "" || root.hasTrailingSlash then ⟨root.text ++ p.text⟩
  else ⟨root.text ++ "/" ++ p.text⟩

/-- The components of a path below a directory, or all of them if it is not below. -/
def componentsBelow (root p : Path) : List Component :=
  if root.components.isPrefixOf p.components then p.components.drop root.components.length
  else p.components

/-- The text of components between slashes. -/
def joinedText (cs : List Component) : String := String.intercalate "/" (cs.map Component.text)

/-- The path of components. -/
def ofComponents : List Component → Path
  | .root :: rest => ⟨"/" ++ joinedText rest⟩
  | cs => ⟨joinedText cs⟩

/-- The directories that the text of a path puts it into, the nearest first: the paths of the
components that it begins with. -/
def ancestors (p : Path) : List Path :=
  (List.range (p.components.length - 1)).reverse.map fun k =>
    ofComponents (p.components.take (k + 1))

end Path

/-! ## Sets -/

/-- A set of paths, in increasing order of components. -/
structure PathSet where
  /-- The paths, increasing. -/
  toList : List Path
  /-- Each path is below all later ones. -/
  sorted : toList.Pairwise fun p q => p.order q = .lt
deriving DecidableEq

namespace PathSet

/-- The set without paths. -/
def empty : PathSet := ⟨[], .nil⟩

/-- Put a path into an increasing list, unless an equal one is there. -/
def insertPath (p : Path) : List Path → List Path
  | [] => [p]
  | q :: rest =>
    match p.order q with
    | .lt => p :: q :: rest
    | .eq => q :: rest
    | .gt => q :: insertPath p rest

theorem mem_insertPath {p q : Path} {l : List Path} (h : q ∈ insertPath p l) : q = p ∨ q ∈ l := by
  induction l with
  | nil => simpa [insertPath] using h
  | cons hd tl ih =>
    unfold insertPath at h
    split at h <;> grind

theorem pairwise_insertPath (p : Path) {l : List Path}
    (h : l.Pairwise fun p q => p.order q = .lt) :
    (insertPath p l).Pairwise fun p q => p.order q = .lt := by
  induction l with
  | nil => simp [insertPath]
  | cons hd tl ih =>
    have htl : ∀ q ∈ tl, hd.order q = .lt := fun q hq => List.rel_of_pairwise_cons h hq
    unfold insertPath
    split
    next hlt =>
      refine .cons (fun q hq => ?_) h
      rcases List.mem_cons.1 hq with rfl | hq
      · exact hlt
      · exact Std.TransCmp.lt_trans hlt (htl q hq)
    next => exact h
    next hgt =>
      refine .cons (fun q hq => ?_) (ih h.of_cons)
      rcases mem_insertPath hq with rfl | hq
      · exact Std.OrientedCmp.lt_of_gt hgt
      · exact htl q hq

/-- Put a path into a set, unless an equal one is there. -/
def insert (s : PathSet) (p : Path) : PathSet :=
  ⟨insertPath p s.toList, pairwise_insertPath p s.sorted⟩

/-- The set of the given paths; of equal paths the first one counts. -/
def ofList (l : List Path) : PathSet := l.foldl insert empty

/-- The number of paths. -/
def size (s : PathSet) : Nat := s.toList.length

end PathSet

end VariantPlan
