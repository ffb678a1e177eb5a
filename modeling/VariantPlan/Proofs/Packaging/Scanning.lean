import VariantPlan.Packaging.Scan
import VariantPlan.Proofs.Tree.Contents
import VariantPlan.Proofs.Tree.Frame

/-!
# Scanning a tree

A scan comes across everything that stands at its start or below, each entry once, and opens the
directories and the generated files by their paths. Such a path is the path of the root with the
names of the entry behind it. The root **admits** names if that path can be walked and no name is
too long; then the entry is opened, and otherwise it is not.

So a scan of plain contents succeeds if the root admits everything that it has to open, and only
then. It then keeps the generated files. Their paths are the names that lead there from the root,
between slashes again.

Main results: `exists_entriesFrom` (what a scan comes across), `visitAll_of_ok` and
`exists_visitAll_eq_error` (scans by their visits), `scan_of_canOpen` (what a scan keeps) and
`scan_eq_error_iff` (when it fails).
-/

namespace VariantPlan

variable {t : FileTree} {root : Path} {dir : Location}

/-- A root leads to names: their path can be walked, and none of them is too long. -/
structure Path.Admits (root : Path) (names : List String) : Prop where
  fault : (root.join (.ofNames names)).fault? = none
  short : ∀ name ∈ names, name.utf8ByteSize ≤ maxNameSize

instance (root : Path) (names : List String) : Decidable (root.Admits names) :=
  decidable_of_iff ((root.join (.ofNames names)).fault? = none ∧
      ∀ name ∈ names, name.utf8ByteSize ≤ maxNameSize)
    ⟨fun h => ⟨h.1, h.2⟩, fun h => ⟨h.fault, h.short⟩⟩

/-! ## Opening by path -/

namespace FileTree

section Standing

variable {names : Location} {e : Entry} (ht : t.LinkFreeBelow dir) (hroot : t.LeadsTo root dir)
  (hnames : ∀ name ∈ names, Path.IsEntryName name) (hne : names ≠ [])
  (hentry : t.entryAt? (dir ++ names) = some e)

include ht hroot hnames hne hentry

theorem find_of_admits (h : root.Admits names) (follow : Bool) :
    t.find follow (root.join (.ofNames names)) = .ok (dir ++ names, e) := by
  obtain ⟨hordinary, heq⟩ := Path.IsOrdinary.ofNames hnames hne
  rw [find_join ht hroot hordinary h.fault, heq, locateNames, (reach_eq_ok_iff hentry).2 h.short]

theorem exists_find_eq_error (h : ¬root.Admits names) (follow : Bool) :
    ∃ cause, t.find follow (root.join (.ofNames names)) = .error cause := by
  cases hfault : (root.join (.ofNames names)).fault? with
  | some cause =>
    refine ⟨cause, ?_⟩
    rw [find, locate, hfault]
    rfl
  | none =>
    obtain ⟨hordinary, heq⟩ := Path.IsOrdinary.ofNames hnames hne
    rw [find_join ht hroot hordinary hfault, heq, locateNames]
    cases hreach : t.reach dir names with
    | error cause => exact ⟨cause, rfl⟩
    | ok found =>
      rw [reach_eq_ok hreach, hentry] at hreach
      exact absurd ⟨hfault, (reach_eq_ok_iff hentry).1 hreach⟩ h

end Standing

theorem fault?_of_find {follow : Bool} {q : Path} {found : Location × Entry}
    (h : t.find follow q = .ok found) : q.fault? = none := by
  cases hfault : q.fault? with
  | none => rfl
  | some e =>
    rw [find, locate, hfault] at h
    cases h

/-! ## What a scan comes across -/

theorem admits_singleton {name : String} (hsize : name.utf8ByteSize ≤ maxNameSize)
    (hfault : (root.join ⟨name⟩).fault? = none) : root.Admits [name] :=
  ⟨Path.ofNames_singleton name ▸ hfault, List.forall_mem_singleton.2 hsize⟩

section Start

variable {name : String} (ht : t.LinkFreeBelow dir) (hroot : t.LeadsTo root dir)
  (hname : Path.IsEntryName name) (hsize : name.utf8ByteSize ≤ maxNameSize)
  (hfault : (root.join ⟨name⟩).fault? = none)

include ht hroot hname hsize hfault

theorem entriesFrom_of_entryAt?_none (hentry : t.entryAt? (dir ++ [name]) = none) :
    t.entriesFrom (root.join ⟨name⟩) = .error (.ofKind .notFound) := by
  rw [← Path.ofNames_singleton] at hfault ⊢
  obtain ⟨hordinary, heq⟩ :=
    Path.IsOrdinary.ofNames (List.forall_mem_singleton.2 hname) (List.cons_ne_nil name [])
  have hfind : t.find false (root.join (.ofNames [name])) = .error (.ofKind .notFound) := by
    rw [find_join ht hroot hordinary hfault, heq, locateNames, reach, lookup_eq_ok hsize, hentry]
  simp only [entriesFrom, hfind]
  rfl

/-- Where something stands a scan comes across everything from there on, each entry once. -/
theorem exists_entriesFrom (h : (t.entryAt? (dir ++ [name])).isSome = true) :
    ∃ entries : List (Location × Entry),
      t.entriesFrom (root.join ⟨name⟩) = .ok (entries.map fun e => (e.1, e.2.kind)) ∧
      (entries.map Prod.fst).Nodup ∧
      ∀ names e, (names, e) ∈ entries ↔ t.entryAt? (dir ++ name :: names) = some e := by
  obtain ⟨e, hentry⟩ := Option.isSome_iff_exists.1 h
  have hfind : t.find false (root.join ⟨name⟩) = .ok (dir ++ [name], e) := by
    rw [← Path.ofNames_singleton]
    exact find_of_admits ht hroot (List.forall_mem_singleton.2 hname) (List.cons_ne_nil name [])
      hentry (admits_singleton hsize hfault) false
  cases e with
  | link target => exact absurd hentry (ht _ target (List.prefix_append dir [name]))
  | file content =>
    refine ⟨[([], .file content)], by simp only [entriesFrom, hfind]; rfl, by simp,
      fun names e => ?_⟩
    rw [List.append_cons dir name names, List.mem_singleton, Prod.mk.injEq]
    by_cases hnil : names = []
    · simp [hnil, hentry, eq_comm]
    · have hfile : Entry.file content ≠ .directory := Entry.noConfusion
      rw [entryAt?_below_of_ne_directory hfile hentry hnil]
      simp [hnil]
  | directory =>
    refine ⟨([], .directory) :: t.below (dir ++ [name]), by simp only [entriesFrom, hfind]; rfl,
      ?_, fun names e => ?_⟩
    · -- The start comes first, and is not among what is below it.
      refine List.nodup_cons.2 ⟨fun hmem => ?_, t.nodup_below (dir ++ [name])⟩
      obtain ⟨⟨names, e⟩, he, rfl⟩ := List.mem_map.1 hmem
      exact (mem_below.1 he).1 rfl
    · rw [List.append_cons dir name names, List.mem_cons, mem_below, Prod.mk.injEq]
      by_cases hnil : names = []
      · simp [hnil, hentry, eq_comm]
      · simp [hnil]

end Start

end FileTree

/-! ## Visits -/

namespace ScanOperations

variable {operations : ScanOperations Id} {start : Path} {α : Type}
  {entry : α → Location × EntryKind} {l : List α}

theorem visitAll_of_ok {found : α → Option (String × String)}
    (h : ∀ a ∈ l, operations.visit root start (entry a).1 (entry a).2 = .ok (found a)) :
    operations.visitAll root start (l.map entry) =
      ⟨.ok (l.filterMap found), (l.filterMap found).map fun f => foundEvent f.1 f.2⟩ := by
  induction l with
  | nil => rfl
  | cons a l ih =>
    rw [List.forall_mem_cons] at h
    have hrest := ih h.2
    rw [List.map_cons, visitAll, h.1, hrest, List.filterMap_cons]
    cases found a <;> rfl

theorem exists_of_visit_eq_error {names : Location} {kind : EntryKind} {failure : PackagingError}
    (h : operations.visit root start names kind = .error failure) :
    ∃ path cause, failure = .scan path cause := by
  cases kind with
  | link => cases h
  | directory =>
    unfold visit at h
    cases hopen : operations.openDirectory (entryPath start names) with
    | ok found =>
      rw [hopen] at h
      cases h
    | error e =>
      rw [hopen] at h
      exact ⟨_, _, (Except.error.inj h).symm⟩
  | file =>
    unfold visit at h
    dsimp only at h
    split at h
    next =>
      cases hdigest : operations.digestFile (entryPath start names) with
      | ok digest =>
        rw [hdigest] at h
        cases h
      | error e =>
        rw [hdigest] at h
        exact ⟨_, _, (Except.error.inj h).symm⟩
    next => cases h

/-- The first visit that fails ends the scan. -/
theorem exists_visitAll_eq_error
    (h : ∃ a ∈ l, ∃ failure,
      operations.visit root start (entry a).1 (entry a).2 = .error failure) :
    ∃ path cause,
      (operations.visitAll root start (l.map entry)).value = .error (.scan path cause) := by
  induction l with
  | nil => simp at h
  | cons a l ih =>
    rw [List.map_cons, visitAll]
    cases hvisit : operations.visit root start (entry a).1 (entry a).2 with
    | error failure =>
      obtain ⟨path, cause, rfl⟩ := exists_of_visit_eq_error hvisit
      exact ⟨path, cause, rfl⟩
    | ok found =>
      obtain ⟨b, hb, hfailure⟩ := h
      rcases List.mem_cons.1 hb with rfl | hb
      · obtain ⟨failure, hfailure⟩ := hfailure
        rw [hvisit] at hfailure
        cases hfailure
      · obtain ⟨path, cause, hvalue⟩ := ih ⟨b, hb, hfailure⟩
        refine ⟨path, cause, ?_⟩
        cases found with
        | none => exact hvalue
        | some found =>
          show Except.map _ (visitAll operations root start (l.map entry)).value = _
          rw [hvalue]
          rfl

end ScanOperations

/-! ## Visits in a tree -/

namespace FileTree

/-- What a scan opens at names that lead there from the root: a directory, or a file whose path ends
in a known extension. -/
def IsOpened (names : Location) (e : Entry) : Prop :=
  e = .directory ∨
    ∃ suffix ∈ [".js", ".wasm", ".d.ts"], suffix.toList <:+ (locationText names).toList

/-- The generated file that an entry below a name is, by the names that lead there. -/
def generatedFile? (name : String) : Location × Entry → Option (Location × List UInt8)
  | (rest, .file content) =>
    if isGenerated (locationText (name :: rest)) then some (name :: rest, content) else none
  | _ => none

/-- What a report tells about a generated file. -/
def assetOf (f : Location × List UInt8) : String × String :=
  (locationText f.1, Digest.ofBytes f.2)

theorem generatedFile?_eq_some_iff {name : String} {e : Location × Entry}
    {f : Location × List UInt8} :
    generatedFile? name e = some f ↔ f.1 = name :: e.1 ∧ e.2 = .file f.2 ∧
      isGenerated (locationText f.1) = true := by
  obtain ⟨rest, e⟩ := e
  obtain ⟨names, content⟩ := f
  cases e with
  | directory => simp [generatedFile?]
  | link target => simp [generatedFile?]
  | file content' =>
    cases hgenerated : isGenerated (locationText (name :: rest)) with
    | true => simp [generatedFile?]; grind
    | false => simp [generatedFile?]; grind

/-- The names of an entry are put behind the root one after another. -/
theorem entryPath_join {names rest : Location}
    (h : ∀ name ∈ names ++ rest, Path.IsEntryName name) (hne : names ≠ []) :
    ScanOperations.entryPath (root.join (.ofNames names)) rest =
      root.join (.ofNames (names ++ rest)) := by
  induction rest generalizing names with
  | nil => rw [List.append_nil, ScanOperations.entryPath, List.foldl_nil]
  | cons name rest ih =>
    obtain ⟨hnames, hrest⟩ := List.forall_mem_append.1 h
    have hnext : (root.join (.ofNames names)).join ⟨name⟩ =
        root.join (.ofNames (names ++ [name])) :=
      Path.IsOrdinary.join_join_ofNames hnames hne (hrest name List.mem_cons_self)
    rw [List.append_cons] at h ⊢
    rw [← ih h (List.concat_ne_nil name names), ← hnext]
    rfl

theorem entryPath_cons {name : String} {rest : Location} (root : Path)
    (h : ∀ next ∈ name :: rest, Path.IsEntryName next) :
    ScanOperations.entryPath (root.join (.ofNames [name])) rest =
      root.join (.ofNames (name :: rest)) :=
  entryPath_join h (List.cons_ne_nil name [])

theorem joinedText_componentsBelow_join {names : Location} (root : Path)
    (h : ∀ name ∈ names, Path.IsEntryName name) :
    Path.joinedText (root.componentsBelow (root.join (.ofNames names))) = locationText names :=
  Path.joinedText_componentsBelow h

section Visit

variable {name : String} {rest : Location} {e : Entry} (ht : t.LinkFreeBelow dir)
  (hroot : t.LeadsTo root dir) (hnames : ∀ next ∈ name :: rest, Path.IsEntryName next)
  (hentry : t.entryAt? (dir ++ name :: rest) = some e)

include ht hroot hnames hentry

/-- A visit finds a generated file, if there is nothing to open or it can be opened. -/
theorem visit_of_admits (h : IsOpened (name :: rest) e → root.Admits (name :: rest)) :
    t.scanOperations.visit root (root.join (.ofNames [name])) rest e.kind =
      .ok ((generatedFile? name (rest, e)).map assetOf) := by
  have hfind (h : root.Admits (name :: rest)) (follow : Bool) :=
    find_of_admits ht hroot hnames (List.cons_ne_nil name rest) hentry h follow
  have hpath := entryPath_cons root hnames
  cases e with
  | link target =>
    exact absurd hentry (ht _ target (List.prefix_append dir (name :: rest)))
  | directory =>
    have hopen : t.openDirectory (root.join (.ofNames (name :: rest))) = .ok () := by
      simp only [openDirectory, hfind (h (.inl rfl))]
      rfl
    simp only [ScanOperations.visit, Entry.kind, hpath, scanOperations, hopen]
    rfl
  | file content =>
    -- What decides is the path from the root, which is made of the names again.
    have htext := joinedText_componentsBelow_join root hnames
    simp only [ScanOperations.visit, Entry.kind, hpath, htext, scanOperations, generatedFile?]
    cases hgenerated : isGenerated (locationText (name :: rest)) with
    | false => rfl
    | true =>
      have hdigest : t.digestFile (root.join (.ofNames (name :: rest))) =
          .ok (Digest.ofBytes content) := by
        simp only [digestFile, readFile, hfind (h (.inr (isGenerated_iff.1 hgenerated)))]
        rfl
      simp only [hdigest]
      rfl

theorem exists_visit_eq_error (hopened : IsOpened (name :: rest) e)
    (h : ¬root.Admits (name :: rest)) : ∃ failure,
      t.scanOperations.visit root (root.join (.ofNames [name])) rest e.kind = .error failure := by
  obtain ⟨failure, hfind⟩ :=
    exists_find_eq_error ht hroot hnames (List.cons_ne_nil name rest) hentry h true
  have hpath := entryPath_cons root hnames
  cases e with
  | link target =>
    exact absurd hentry (ht _ target (List.prefix_append dir (name :: rest)))
  | directory =>
    have hopen : t.openDirectory (root.join (.ofNames (name :: rest))) = .error failure := by
      simp only [openDirectory, hfind]
      rfl
    simp only [ScanOperations.visit, Entry.kind, hpath, scanOperations, hopen]
    exact ⟨_, rfl⟩
  | file content =>
    have htext := joinedText_componentsBelow_join root hnames
    have hgenerated := isGenerated_iff.2 (hopened.resolve_left Entry.noConfusion)
    have hdigest : t.digestFile (root.join (.ofNames (name :: rest))) = .error failure := by
      simp only [digestFile, readFile, hfind]
      rfl
    simp only [ScanOperations.visit, Entry.kind, hpath, htext, scanOperations, hgenerated,
      hdigest, if_true]
    exact ⟨_, rfl⟩

end Visit

/-! ## What a scan keeps -/

/-- Below a root stands a name: the root leads to a directory that holds it. -/
def Holds (t : FileTree) (root : Path) (name : String) : Prop :=
  ∃ dir, t.LeadsTo root dir ∧ (root.join ⟨name⟩).fault? = none ∧
    (t.entryAt? (dir ++ [name])).isSome = true

/-- The root admits whatever a scan opens from a name on. -/
def CanOpen (t : FileTree) (root : Path) (dir : Location) (name : String) : Prop :=
  ∀ rest e, t.entryAt? (dir ++ name :: rest) = some e → IsOpened (name :: rest) e →
    root.Admits (name :: rest)

theorem canOpen_of_forall_mem {name : String}
    (h : ∀ e ∈ t.below dir, [name] <+: e.1 → root.Admits e.1) : t.CanOpen root dir name := by
  intro rest e hentry _
  exact h _ (mem_below.2 ⟨List.cons_ne_nil name rest, hentry⟩) (List.prefix_append [name] rest)

theorem nodup_generatedFiles {name : String} {entries : List (Location × Entry)}
    (h : (entries.map Prod.fst).Nodup) :
    ((entries.filterMap (generatedFile? name)).map Prod.fst).Nodup := by
  rw [List.Nodup, List.pairwise_map] at h ⊢
  refine List.pairwise_filterMap.2 (h.imp fun hne f hf f' hf' heq => hne ?_)
  rw [(generatedFile?_eq_some_iff.1 hf).1, (generatedFile?_eq_some_iff.1 hf').1] at heq
  exact List.tail_eq_of_cons_eq heq

theorem mem_generatedFiles {name : String} {entries : List (Location × Entry)} {names : Location}
    {content : List UInt8} :
    (names, content) ∈ entries.filterMap (generatedFile? name) ↔
      ∃ rest, names = name :: rest ∧ (rest, .file content) ∈ entries ∧
        isGenerated (locationText names) = true := by
  simp only [List.mem_filterMap, generatedFile?_eq_some_iff]
  constructor
  · rintro ⟨e, he, hnames, hfile, hgenerated⟩
    exact ⟨e.1, hnames, hfile ▸ he, hgenerated⟩
  · rintro ⟨rest, hnames, hmem, hgenerated⟩
    exact ⟨_, hmem, hnames, rfl, hgenerated⟩

theorem scan_of_entriesFrom {name : String} {entries : List (Location × EntryKind)}
    (h : t.entriesFrom (root.join ⟨name⟩) = .ok entries) :
    t.scan root name =
      ⟨(t.scanOperations.visitAll root (root.join ⟨name⟩) entries).value.map .ofList,
        (t.scanOperations.visitAll root (root.join ⟨name⟩) entries).events⟩ := by
  unfold scan ScanOperations.scan
  dsimp only
  rw [show t.scanOperations.entriesFrom _ = _ from h]
  rfl

theorem exists_scan_eq_error {name : String} {e : IoError}
    (h : t.entriesFrom (root.join ⟨name⟩) = .error e) :
    ∃ path cause, (t.scan root name).value = .error (.scan path cause) := by
  unfold scan ScanOperations.scan
  dsimp only
  rw [show t.scanOperations.entriesFrom _ = _ from h]
  exact ⟨_, _, rfl⟩

section Scan

variable {name : String} (hname : Path.IsEntryName name)
  (hsize : name.utf8ByteSize ≤ maxNameSize)

include hname hsize

/-- If everything can be opened a scan finds the generated files, each of them once. -/
theorem scan_of_canOpen (ht : t.IsPlainBelow dir) (hroot : t.LeadsTo root dir)
    (hfault : (root.join ⟨name⟩).fault? = none)
    (hentry : (t.entryAt? (dir ++ [name])).isSome = true) (hopen : t.CanOpen root dir name) :
    ∃ kept : List (Location × List UInt8),
      t.scan root name = ⟨.ok (.ofList (kept.map assetOf)),
        (kept.map assetOf).map fun f => foundEvent f.1 f.2⟩ ∧
      (kept.map Prod.fst).Nodup ∧
      ∀ names content, (names, content) ∈ kept ↔ [name] <+: names ∧
        t.entryAt? (dir ++ names) = some (.file content) ∧
        isGenerated (locationText names) = true := by
  obtain ⟨entries, hentries, hnodup, hmem⟩ :=
    exists_entriesFrom ht.linkFree hroot hname hsize hfault hentry
  refine ⟨entries.filterMap (generatedFile? name), ?_, nodup_generatedFiles hnodup,
    fun names content => ?_⟩
  · have hvisits : ∀ e ∈ entries, t.scanOperations.visit root (root.join (.ofNames [name])) e.1
        e.2.kind = .ok ((generatedFile? name e).map assetOf) := by
      intro e he
      have hstands := (hmem e.1 e.2).1 he
      exact visit_of_admits ht.linkFree hroot (ht.names _ _ hstands) hstands (hopen _ _ hstands)
    have hall : t.scanOperations.visitAll root (root.join (.ofNames [name]))
        (entries.map fun e => (e.1, e.2.kind)) = _ := ScanOperations.visitAll_of_ok hvisits
    rw [← List.map_filterMap, Path.ofNames_singleton] at hall
    rw [scan_of_entriesFrom hentries, hall]
    rfl
  · rw [mem_generatedFiles]
    constructor
    · rintro ⟨rest, rfl, hfile, hgenerated⟩
      exact ⟨List.prefix_append [name] rest, (hmem rest _).1 hfile, hgenerated⟩
    · rintro ⟨⟨rest, rfl⟩, hfile, hgenerated⟩
      exact ⟨rest, rfl, (hmem rest _).2 hfile, hgenerated⟩

theorem holds_of_entriesFrom (ht : ∀ dir, t.LeadsTo root dir → t.LinkFreeBelow dir)
    {entries : List (Location × EntryKind)}
    (h : t.entriesFrom (root.join ⟨name⟩) = .ok entries) : t.Holds root name := by
  obtain ⟨found, hfound⟩ : ∃ found, t.find false (root.join ⟨name⟩) = .ok found := by
    cases hfind : t.find false (root.join ⟨name⟩) with
    | ok found => exact ⟨found, rfl⟩
    | error e =>
      simp only [entriesFrom, hfind] at h
      cases h
  have hfault := fault?_of_find hfound
  obtain ⟨hordinary, -⟩ :=
    Path.IsOrdinary.ofNames (List.forall_mem_singleton.2 hname) (List.cons_ne_nil name [])
  rw [← Path.ofNames_singleton] at hfound
  obtain ⟨dir, hroot⟩ := LeadsTo.of_find hordinary hfound
  refine ⟨dir, hroot, hfault, ?_⟩
  cases hentry : t.entryAt? (dir ++ [name]) with
  | some e => rfl
  | none =>
    rw [entriesFrom_of_entryAt?_none (ht dir hroot) hroot hname hsize hfault hentry] at h
    cases h

theorem exists_scan_eq_error_of_not_canOpen (ht : t.IsPlainBelow dir) (hroot : t.LeadsTo root dir)
    (hfault : (root.join ⟨name⟩).fault? = none)
    (hentry : (t.entryAt? (dir ++ [name])).isSome = true) (h : ¬t.CanOpen root dir name) :
    ∃ path cause, (t.scan root name).value = .error (.scan path cause) := by
  obtain ⟨entries, hentries, -, hmem⟩ :=
    exists_entriesFrom ht.linkFree hroot hname hsize hfault hentry
  simp only [CanOpen, not_forall] at h
  obtain ⟨rest, e, hstands, hopened, hadmits⟩ := h
  have hvisit := exists_visit_eq_error ht.linkFree hroot (ht.names _ _ hstands) hstands hopened
    hadmits
  rw [Path.ofNames_singleton] at hvisit
  -- What cannot be opened is among the entries that the scan comes across.
  have hfailing : ∃ e ∈ entries, ∃ failure, t.scanOperations.visit root (root.join ⟨name⟩) e.1
      e.2.kind = .error failure := ⟨(rest, e), (hmem rest e).2 hstands, hvisit⟩
  obtain ⟨path, cause, hvalue⟩ : ∃ path cause,
      (t.scanOperations.visitAll root (root.join ⟨name⟩)
        (entries.map fun e => (e.1, e.2.kind))).value = .error (.scan path cause) :=
    ScanOperations.exists_visitAll_eq_error hfailing
  rw [scan_of_entriesFrom hentries, hvalue]
  exact ⟨path, cause, rfl⟩

/-- A scan fails if nothing stands where it starts or something cannot be opened, and only then. -/
theorem scan_eq_error_iff (ht : ∀ dir, t.LeadsTo root dir → t.IsPlainBelow dir) :
    (∃ path cause, (t.scan root name).value = .error (.scan path cause)) ↔
      ¬t.Holds root name ∨ ∃ dir, t.LeadsTo root dir ∧ ¬t.CanOpen root dir name := by
  by_cases hholds : t.Holds root name
  · rw [or_iff_right (not_not_intro hholds)]
    obtain ⟨dir, hroot, hfault, hentry⟩ := hholds
    constructor
    · rintro ⟨path, cause, hscan⟩
      refine ⟨dir, hroot, fun hopen => ?_⟩
      obtain ⟨kept, hkept, -⟩ :=
        scan_of_canOpen hname hsize (ht dir hroot) hroot hfault hentry hopen
      rw [hkept] at hscan
      cases hscan
    · rintro ⟨dir', hroot', hopen⟩
      obtain rfl := hroot'.unique hroot
      exact exists_scan_eq_error_of_not_canOpen hname hsize (ht dir hroot) hroot hfault hentry hopen
  · refine iff_of_true ?_ (.inl hholds)
    cases hfrom : t.entriesFrom (root.join ⟨name⟩) with
    | error e => exact exists_scan_eq_error hfrom
    | ok entries =>
      have hlinks (dir : Location) (hroot : t.LeadsTo root dir) := (ht dir hroot).linkFree
      exact absurd (holds_of_entriesFrom hname hsize hlinks hfrom) hholds

end Scan

end FileTree

end VariantPlan
