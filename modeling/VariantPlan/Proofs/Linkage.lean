import VariantPlan.Plan.Identity
import VariantPlan.Proofs.Dependency.Resolution
import VariantPlan.Proofs.Sets

/-!
# Linkage

How a package is linked shows in many parts of its plan: the name of the library file, a variable
of the build system, an option of everything required, the directories, the generated assets and
the identity. The parts ask different questions. The first two ask whether a shared library is
**built**, which a header-only package never is; the options ask what the package's consumers link
with, which is shared for a header-only one.

Main result: `linkage_told_consistently`, from one lemma for each part.
-/

namespace VariantPlan

/-! ## Library files -/

/-- The extensions of shared libraries. -/
def sharedExtensions : List String := ["dll", "dylib", "so"]

namespace System

theorem libraryExtension_mem_iff {system : System} {shared : Bool} :
    system.libraryExtension shared ∈ sharedExtensions ↔ shared = true := by
  cases system <;> cases shared <;> decide

theorem libraryFile_eq (system : System) (name extension : String) :
    system.libraryFile name extension =
      (if system = .windows then "" else "lib") ++ name ++ "." ++ extension := by
  unfold libraryFile
  by_cases h : system = .windows
  · rw [if_pos (beq_iff_eq.2 h), if_pos h, String.empty_append]
  · rw [if_neg (mt beq_iff_eq.1 h), if_neg h]

end System

namespace Variant

theorem buildsShared_iff {v : Variant} :
    v.buildsShared = true ↔ v.shared = true ∧ v.headerOnly = false := by
  rw [buildsShared, Bool.and_eq_true, Bool.not_eq_true']

theorem hasDebugMarker_iff {v : Variant} : v.hasDebugMarker = true ↔
    v.headerOnly = false ∧ v.shared = false ∧ v.system = .windows ∧ v.buildType = .debug := by
  simp only [hasDebugMarker, buildsShared, Bool.and_eq_true, Bool.not_eq_true', beq_iff_eq]
  cases v.headerOnly <;> cases v.shared <;> simp [and_comm]

theorem libraryName_eq (v : Variant) : v.libraryName = Product.libraryName ++
    (if v.headerOnly = false ∧ v.shared = false ∧ v.system = .windows ∧ v.buildType = .debug
      then "d" else "") := by
  rw [libraryName, ite_congr (propext hasDebugMarker_iff) (fun _ => rfl) (fun _ => rfl)]
  split <;> rfl

theorem libraryName_artifact (v : Variant) : v.artifact.libraryName = v.libraryName := rfl

/-- The library's own name never starts like the prefix. -/
theorem prefix_fileName_iff {v : Variant} :
    "lib".toList <+: v.artifact.fileName.toList ↔ v.system ≠ .windows := by
  rw [fileName_artifact, System.libraryFile_eq]
  split
  next h =>
    refine iff_of_false ?_ (not_not_intro h)
    rintro ⟨rest, hrest⟩
    have hhead := congrArg List.head? hrest
    rw [libraryName_artifact, libraryName_eq, Product.libraryName] at hhead
    simp at hhead
  next h =>
    refine iff_of_true ?_ h
    simp only [String.toList_append, List.append_assoc]
    exact List.prefix_append _ _

/-! ## Parts of the plan -/

theorem get?_cacheVariables_shared (v : Variant) :
    v.cacheVariables.get? "BUILD_SHARED_LIBS" = some (switchText v.buildsShared) := by
  refine (SortedMap.get?_ofList_eq_some_iff ?_).2 (List.mem_cons_of_mem _ List.mem_cons_self)
  show ["HEADER_ONLY", "BUILD_SHARED_LIBS", "ENABLE_TESTING", "GEOMETRIES", "OPTIMIZER",
    "THREADING", "WITH_JS_BINDINGS"].Nodup
  decide

theorem switchText_eq_on_iff {on : Bool} : switchText on = "ON" ↔ on = true := by
  cases on <;> decide

theorem libraryDirs_layout_eq_nil_iff {v : Variant} {host : Host} :
    (v.layout host).libraryDirs = [] ↔ v.headerOnly = true := by
  unfold layout
  split <;> simp_all

theorem binaryDirs_layout_eq_nil_iff {v : Variant} {host : Host} :
    (v.layout host).binaryDirs = [] ↔ v.headerOnly = true := by
  unfold layout binaryDirs
  split
  · simp_all
  · split <;> simp_all

end Variant

namespace ValidVariant

theorem ifCompiled_eq_none_iff {α : Type} {v : ValidVariant} {setting : α} :
    v.ifCompiled setting = none ↔ v.headerOnly = true := by
  unfold ifCompiled
  split <;> simp_all

/-- Every required library is told one linkage, whatever its caller asked for. -/
theorem option?_shared_of_mem_requirements {v : ValidVariant} {r : Requirement}
    (hr : r ∈ v.requirements) : r.option? "shared" = some (.flag (v.shared || v.headerOnly)) := by
  have hname : r.name ∈ v.requiredPackages.map Package.name :=
    v.names_requirements ▸ List.mem_map_of_mem hr
  rw [option?_of_mem_requirements hr, Variant.forced?, if_neg (not_not_intro hname), if_pos rfl,
    Option.some_or, Bool.or_comm]

end ValidVariant

/-! ## The whole plan -/

/-- **Linkage is told consistently.** For every valid variant and host, the build system is told to
build a shared library exactly when the extension of the file is one of a shared library, namely if
the variant is shared and not header-only; every required library is shared if the variant is one
or the other. The file's name consists of the library's name and the extension, with a prefix
except on Windows, and the library's name has a mark if the variant is a compiled static debug
build for Windows and no other. A header-only package, and no other, has no directories of
libraries or of programs; it generates nothing, and no setting of the compilation identifies it. -/
theorem linkage_told_consistently (v : ValidVariant) (host : Host) :
    let p := v.planOn host
    (p.cacheVariables.get? "BUILD_SHARED_LIBS" = some "ON" ↔
      v.shared = true ∧ v.headerOnly = false) ∧
    (p.artifact.extension ∈ ["dll", "dylib", "so"] ↔ v.shared = true ∧ v.headerOnly = false) ∧
    (∀ r ∈ p.dependencies, r.option? "shared" = some (.flag (v.shared || v.headerOnly))) ∧
    (p.artifact.fileName = (if v.system = .windows then "" else "lib") ++
      p.artifact.libraryName ++ "." ++ p.artifact.extension ∧
      ("lib".toList <+: p.artifact.fileName.toList ↔ v.system ≠ .windows)) ∧
    p.artifact.libraryName = Product.libraryName ++
      (if v.headerOnly = false ∧ v.shared = false ∧ v.system = .windows ∧ v.buildType = .debug
        then "d" else "") ∧
    (v.headerOnly = true ↔ p.layout.libraryDirs = []) ∧
    (v.headerOnly = true ↔ p.layout.binaryDirs = []) ∧
    (v.headerOnly = true → p.assets = none ∧ v.identity.shared = none ∧ v.identity.fpic = none ∧
      v.identity.buildType = none ∧ v.identity.compiler = none) := by
  intro p
  refine ⟨?_, ?_, fun r hr => ValidVariant.option?_shared_of_mem_requirements hr,
    ⟨System.libraryFile_eq .., Variant.prefix_fileName_iff⟩, v.libraryName_eq,
    Variant.libraryDirs_layout_eq_nil_iff.symm, Variant.binaryDirs_layout_eq_nil_iff.symm,
    fun h => ⟨Variant.assets?_eq_none_iff.2 (.inl h), ?_⟩⟩
  · show v.cacheVariables.get? "BUILD_SHARED_LIBS" = some "ON" ↔ _
    rw [Variant.get?_cacheVariables_shared, Option.some.injEq, Variant.switchText_eq_on_iff,
      Variant.buildsShared_iff]
  · show v.artifact.extension ∈ sharedExtensions ↔ _
    rw [Variant.extension_artifact, System.libraryExtension_mem_iff, Variant.buildsShared_iff]
  · -- Nothing is compiled, so no setting of the compilation is part of the identity.
    have hnone {α : Type} (setting : α) : v.ifCompiled setting = none :=
      ValidVariant.ifCompiled_eq_none_iff.2 h
    exact ⟨hnone _, hnone _, hnone _, hnone _⟩

/-- A shared header-only package for macOS whose caller wants a static Boost. The build system is
told to build no shared library and the file gets the extension of a static one, yet everything
required is shared, and no setting of the compilation identifies the package. -/
theorem linkage_told_consistently_headerOnly :
    ∃ v : ValidVariant, v.headerOnly = true ∧ v.shared = true ∧
      (v.planOn .editable).cacheVariables.get? "BUILD_SHARED_LIBS" ≠ some "ON" ∧
      (v.planOn .editable).artifact.extension ∉ ["dll", "dylib", "so"] ∧
      (∀ r ∈ (v.planOn .editable).dependencies, r.option? "shared" = some (.flag true)) ∧
      (v.planOn .editable).layout.libraryDirs = [] ∧ v.identity.shared = none := by
  let v : Variant := { Variant.sample with
    threading := .tbb, headerOnly := true, jsBindings := true, system := .macos,
    compiler := ⟨"apple-clang", .release 13 0 0, none⟩, buildType := .debug,
    dependencyOptions := .ofList [("boost", .ofList [("shared", .flag false)])] }
  let w : ValidVariant := ⟨v, by decide, rfl⟩
  obtain ⟨hvariable, hextension, hdependencies, -, -, hdirs, -, hidentity⟩ :=
    linkage_told_consistently w .editable
  refine ⟨w, rfl, rfl, fun h => ?_, fun h => ?_, hdependencies, hdirs.1 rfl,
    (hidentity rfl).2.1⟩
  · exact absurd (hvariable.1 h).2 (by decide)
  · exact absurd (hextension.1 h).2 (by decide)

end VariantPlan
