import VariantPlan.Proofs.Dependency.Actions

/-!
# Resolved requirements

What a variant requires can be read off: the packages of its backends and the logging library, in
order, with the options that the caller has for them and over these the forced ones. The rules are
a list of actions that require the packages of the geometry backend, force options on Boost if it
is one of them, require the other packages, and force the linkage on all.

Main results: `requirements_eq_map` (the closed form), `Variant.option?_requirement` (who decides
an option), and `resolution_complete`.
-/

namespace VariantPlan

/-! ## Options of dependencies -/

namespace DependencyOptions

/-- The value that a caller has for an option of a dependency. -/
def option? (d : DependencyOptions) (name key : String) : Option OptionValue :=
  (d.get? name).bind (·.get? key)

theorem get?_getD (d : DependencyOptions) (name key : String) :
    (SortedMap.getD d name .empty).get? key = d.option? name key := by
  unfold SortedMap.getD option?
  cases d.get? name <;> rfl

end DependencyOptions

/-! ## Packages of backends -/

/-- The packages that a geometry backend needs. -/
def Geometry.packages : Geometry → List Package
  | .clipper => [.clipper, .boost]
  | .boost => [.boost]
  | .eigen => [.eigen]

/-- The package that an optimizer backend needs. -/
def Optimizer.package : Optimizer → Package
  | .nlopt => .nlopt
  | .optimlib => .armadillo

/-- The runtime that a threading backend needs, if it has one of its own. -/
def Threading.packages : Threading → List Package
  | .tbb => [.oneTbb]
  | .omp => [.llvmOpenmp]
  | .std | .none => []

namespace Variant

/-- The packages that a variant requires beside those of its geometry backend, in order. -/
def otherPackages (v : Variant) : List Package :=
  v.optimizer.package :: (v.threading.packages ++ [.spdlog])

/-- The packages that a variant requires as libraries, in order. -/
def requiredPackages (v : Variant) : List Package := v.geometry.packages ++ v.otherPackages

/-- The options that are forced on Boost if it is required, in order. -/
def boostOptions (v : Variant) : List (String × OptionValue) :=
  if .boost ∈ v.geometry.packages then
    [("header_only", .flag true), ("python_version", .text v.pythonVersion)]
  else []

/-- The linkage that is forced on everything required. -/
def linkageOptions (v : Variant) : List (String × OptionValue) :=
  [("shared", .flag (v.headerOnly || v.shared))]

/-- The requirement of a package with the options that the caller has for it. -/
def seeded (v : Variant) (p : Package) : Requirement :=
  .ofPackage p .library (v.dependencyOptions.getD p.name .empty)

/-- The requirement of a package with the forced options over those of the caller. -/
def requirement (v : Variant) (p : Package) : Requirement :=
  (v.seeded p).forceEach ((if p = .boost then v.boostOptions else []) ++ v.linkageOptions)

theorem requirement_eq (v : Variant) (p : Package) :
    v.requirement p = { v.seeded p with options := (v.requirement p).options } :=
  (v.seeded p).forceEach_eq _

theorem nodup_requiredPackages (v : Variant) : (v.requiredPackages.map Package.name).Nodup := by
  have hpackages : ∀ (g : Geometry) (o : Optimizer) (t : Threading),
      (g.packages ++ o.package :: (t.packages ++ [.spdlog])).Nodup := by
    intro g o t
    cases g <;> cases o <;> cases t <;> decide
  exact List.pairwise_map.2 <|
    (hpackages v.geometry v.optimizer v.threading).imp fun hne h => hne (Package.name_inj h)

theorem boost_not_mem_otherPackages (v : Variant) : .boost ∉ v.otherPackages := by
  have h : ∀ (o : Optimizer) (t : Threading),
      Package.boost ∉ o.package :: (t.packages ++ [.spdlog]) := by
    intro o t
    cases o <;> cases t <;> decide
  exact h v.optimizer v.threading

/-- Neither the build system nor the test framework is a library of a variant. -/
theorem tool_not_mem_requiredPackages (v : Variant) {p : Package}
    (hp : p = .cmake ∨ p = .catch2) : p.name ∉ v.requiredPackages.map Package.name := by
  have hpackages : ∀ (g : Geometry) (o : Optimizer) (t : Threading),
      Package.cmake ∉ g.packages ++ o.package :: (t.packages ++ [.spdlog]) ∧
        Package.catch2 ∉ g.packages ++ o.package :: (t.packages ++ [.spdlog]) := by
    intro g o t
    cases g <;> cases o <;> cases t <;> decide
  intro h
  obtain ⟨q, hq, hname⟩ := List.mem_map.1 h
  obtain rfl := Package.name_inj hname
  obtain ⟨hcmake, hcatch2⟩ := hpackages v.geometry v.optimizer v.threading
  rcases hp with rfl | rfl
  · exact hcmake hq
  · exact hcatch2 hq

/-! ## The actions of a variant -/

def actions (v : Variant) : List RuleAction := DependencyRule.all.flatMap (·.actions v)

/-- The actions that force options on Boost. -/
def boostForces (v : Variant) : List RuleAction :=
  v.boostOptions.map fun e => .force .boost e.1 e.2

/-- The actions that force the linkage. -/
def linkageForces (v : Variant) : List RuleAction :=
  v.linkageOptions.map fun e => .forceAll e.1 e.2

/-- Packages are required in order, options are forced on Boost once it is, and the linkage is
forced on everything at the end. -/
theorem actions_eq (v : Variant) :
    v.actions = v.geometry.packages.map .require ++ v.boostForces ++
      v.otherPackages.map .require ++ v.linkageForces := by
  obtain ⟨geometry, optimizer, threading⟩ := v
  cases geometry <;> cases optimizer <;> cases threading <;> rfl

theorem reviseAll_boostForces (v : Variant) (p : Package) :
    RuleAction.reviseAll v.boostForces (v.seeded p) =
      (v.seeded p).forceEach (if p = .boost then v.boostOptions else []) := by
  have hname : (v.seeded p).name = p.name := rfl
  rw [boostForces, RuleAction.reviseAll_map_force, hname]
  by_cases hp : p = .boost
  · rw [if_pos hp, if_pos (congrArg Package.name hp)]
  · rw [if_neg hp, if_neg fun h => hp (Package.name_inj h)]
    rfl

theorem reviseAll_linkageForces (v : Variant) (p : Package) :
    RuleAction.reviseAll v.linkageForces (RuleAction.reviseAll v.boostForces (v.seeded p)) =
      v.requirement p := by
  rw [linkageForces, RuleAction.reviseAll_map_forceAll, reviseAll_boostForces]
  exact List.foldl_append.symm

theorem addedBy_geometry (v : Variant) :
    RuleAction.addedBy v.dependencyOptions []
        (v.geometry.packages.map .require ++ v.boostForces) =
      v.geometry.packages.map fun p => RuleAction.reviseAll v.boostForces (v.seeded p) := by
  have hnodup : ([] ++ v.geometry.packages.map Package.name).Nodup :=
    (List.nodup_append.1 (List.map_append ▸ v.nodup_requiredPackages)).1
  rw [RuleAction.addedBy_append, RuleAction.addedBy_map_require _ hnodup, List.map_map]
  exact (congrArg _ (RuleAction.addedBy_map_force ..)).trans (List.append_nil _)

theorem addedBy_otherPackages (v : Variant) :
    RuleAction.addedBy v.dependencyOptions (v.geometry.packages.map Package.name)
        (v.otherPackages.map .require) =
      v.otherPackages.map fun p => RuleAction.reviseAll v.boostForces (v.seeded p) := by
  have hnodup : (v.geometry.packages.map Package.name ++
      v.otherPackages.map Package.name).Nodup := List.map_append ▸ v.nodup_requiredPackages
  rw [RuleAction.addedBy_map_require _ hnodup]
  refine List.map_congr_left fun p hp => ?_
  -- The actions on Boost come before and would leave these packages alone.
  have hboost : p ≠ .boost := fun h => v.boost_not_mem_otherPackages (h ▸ hp)
  rw [reviseAll_boostForces, if_neg hboost]
  rfl

theorem addedBy_actions (v : Variant) :
    RuleAction.addedBy v.dependencyOptions [] v.actions =
      v.requiredPackages.map v.requirement := by
  have hnames : (v.geometry.packages.map fun p =>
      RuleAction.reviseAll v.boostForces (v.seeded p)).map Requirement.name =
        v.geometry.packages.map Package.name := by
    rw [List.map_map]
    exact List.map_congr_left fun p _ => RuleAction.name_reviseAll _ _
  have hlinkage : ∀ names, RuleAction.addedBy v.dependencyOptions names v.linkageForces = [] :=
    fun names => RuleAction.addedBy_map_forceAll _ names _
  rw [actions_eq, RuleAction.addedBy_append, RuleAction.addedBy_append, addedBy_geometry,
    List.nil_append, hnames, addedBy_otherPackages, hlinkage, List.append_nil, List.map_map,
    requiredPackages, List.map_append, List.map_append]
  simp only [List.map_map, Function.comp_def, RuleAction.reviseAll_map_require,
    reviseAll_linkageForces]

end Variant

/-! ## Options of requirements -/

namespace Variant

/-- The value that the rules force on an option of a dependency, if the variant requires it as a
library. -/
def forced? (v : Variant) (name key : String) : Option OptionValue :=
  if name ∉ v.requiredPackages.map Package.name then none
  else if key = "shared" then some (.flag (v.headerOnly || v.shared))
  else if name = "boost" ∧ key = "header_only" then some (.flag true)
  else if name = "boost" ∧ key = "python_version" then some (.text v.pythonVersion)
  else none

theorem option?_requirement (v : Variant) {p : Package} (hp : p ∈ v.requiredPackages)
    (key : String) : (v.requirement p).option? key =
      (v.forced? p.name key).or (v.dependencyOptions.option? p.name key) := by
  have hseed : (v.seeded p).option? key = v.dependencyOptions.option? p.name key :=
    v.dependencyOptions.get?_getD p.name key
  have hname : p.name ∈ v.requiredPackages.map Package.name := List.mem_map_of_mem hp
  rw [forced?, if_neg (not_not_intro hname), ← hseed, requirement]
  -- Boost has two forced options more than the other packages.
  by_cases hboost : p = .boost
  · subst hboost
    have hgeometry : .boost ∈ v.geometry.packages :=
      (List.mem_append.1 hp).resolve_right v.boost_not_mem_otherPackages
    have hforced : (v.seeded .boost).forceEach (v.boostOptions ++ v.linkageOptions) =
        (((v.seeded .boost).force "header_only" (.flag true)).force "python_version"
          (.text v.pythonVersion)).force "shared" (.flag (v.headerOnly || v.shared)) := by
      rw [boostOptions, if_pos hgeometry]
      rfl
    rw [if_pos rfl, hforced]
    simp only [Requirement.option?_force, Package.name, true_and]
    by_cases hshared : key = "shared"
    · rw [if_pos hshared, if_pos hshared, Option.some_or]
    · rw [if_neg hshared, if_neg hshared]
      by_cases hheader : key = "header_only"
      · subst hheader
        rfl
      · rw [if_neg hheader, if_neg hheader]
        split <;> rfl
  · have hne : p.name ≠ "boost" := fun h => hboost (Package.name_inj h)
    have hforced : (v.seeded p).forceEach ([] ++ v.linkageOptions) =
        (v.seeded p).force "shared" (.flag (v.headerOnly || v.shared)) := rfl
    rw [if_neg hboost, hforced, Requirement.option?_force]
    simp only [hne, false_and, if_false]
    split <;> rfl

end Variant

/-! ## Requirements -/

namespace ValidVariant

/-- **The closed form.** A variant requires its packages, in order, each with the forced options
over those of the caller. -/
theorem requirements_eq_map (v : ValidVariant) :
    v.requirements = v.requiredPackages.map v.requirement := by
  rw [requirements, applyRules, DependencyRule.value_foldlM_apply, RuleAction.value_foldlM_apply,
    ← v.addedBy_actions]
  rfl

theorem names_requirements (v : ValidVariant) :
    v.requirements.map Requirement.name = v.requiredPackages.map Package.name := by
  rw [requirements_eq_map, List.map_map]
  exact List.map_congr_left fun p _ => congrArg Requirement.name (v.requirement_eq p)

/-- A requirement has the forced value for an option, or else the value of the caller. -/
theorem option?_of_mem_requirements {v : ValidVariant} {r : Requirement}
    (hr : r ∈ v.requirements) (key : String) :
    r.option? key = (v.forced? r.name key).or (v.dependencyOptions.option? r.name key) := by
  rw [requirements_eq_map] at hr
  obtain ⟨p, hp, rfl⟩ := List.mem_map.1 hr
  rw [v.option?_requirement hp, v.requirement_eq p]
  rfl

theorem mem_toolRequirements {v : ValidVariant} {r : Requirement} :
    r ∈ v.toolRequirements ↔ r = .ofPackage .cmake .tool .empty ∨ v.tests = true ∧
      r = .ofPackage .catch2 .test (v.dependencyOptions.getD Package.catch2.name .empty) := by
  rw [toolRequirements, List.mem_cons]
  cases v.tests <;> simp

/-- The test framework has the options of the caller, the build system none. -/
theorem option?_of_mem_toolRequirements {v : ValidVariant} {r : Requirement}
    (hr : r ∈ v.toolRequirements) (key : String) :
    r.option? key =
      if r.name = "catch2" then v.dependencyOptions.option? "catch2" key else none := by
  rcases mem_toolRequirements.1 hr with rfl | ⟨-, rfl⟩
  · rfl
  · exact v.dependencyOptions.get?_getD "catch2" key

end ValidVariant

/-- **Resolution is complete.** A variant requires the packages of its backends and the logging
library, each once and in order. The linkage is forced on all of them, the header-only build and
the version of Python on Boost; any other option has the value that the caller has for it. At
build time the variant requires the build system, and the test framework with the caller's options
if tests are built. -/
theorem resolution_complete (v : ValidVariant) :
    (v.resolve.value.map fun r => (r.name, r.constraint, r.kind)) =
      (v.geometry.packages ++ v.optimizer.package :: (v.threading.packages ++ [.spdlog])).map
        (fun p => (p.name, p.constraint, .library)) ∧
    (v.resolve.value.map Requirement.name).Nodup ∧
    (∀ r ∈ v.resolve.value, ∀ key, r.option? key =
      if key = "shared" then some (.flag (v.headerOnly || v.shared))
      else if r.name = "boost" ∧ key = "header_only" then some (.flag true)
      else if r.name = "boost" ∧ key = "python_version" then some (.text v.pythonVersion)
      else v.dependencyOptions.option? r.name key) ∧
    (v.toolRequirements.map fun r => (r.name, r.constraint, r.kind)) =
      ("cmake", Package.cmake.constraint, .tool) ::
        (if v.tests then [("catch2", Package.catch2.constraint, .test)] else []) ∧
    ∀ r ∈ v.toolRequirements, r.name = "catch2" →
      ∀ key, r.option? key = v.dependencyOptions.option? "catch2" key := by
  refine ⟨?_, ?_, fun r hr key => ?_, ?_, fun r hr hname key => ?_⟩
  · show (v.requirements.map _) = _
    rw [v.requirements_eq_map, List.map_map]
    refine List.map_congr_left fun p _ => ?_
    rw [Function.comp_apply, v.requirement_eq p]
    rfl
  · exact v.names_requirements ▸ v.nodup_requiredPackages
  · have hr : r ∈ v.requirements := hr
    have hname : r.name ∈ v.requiredPackages.map Package.name :=
      v.names_requirements ▸ List.mem_map_of_mem hr
    rw [ValidVariant.option?_of_mem_requirements hr, Variant.forced?, if_neg (not_not_intro hname)]
    split
    · rfl
    · split
      · rfl
      · split <;> rfl
  · rw [ValidVariant.toolRequirements]
    cases v.tests <;> rfl
  · rw [ValidVariant.option?_of_mem_toolRequirements hr, if_pos hname]

/-- With Clipper, threads of oneTBB and tests, the caller's options reach Boost and the test
framework, but not over the forced ones. -/
theorem resolution_complete_clipper :
    ∃ v : ValidVariant,
      v.resolve.value.map Requirement.name = ["clipper", "boost", "nlopt", "onetbb", "spdlog"] ∧
      (∀ r ∈ v.resolve.value, r.name = "boost" →
        r.option? "header_only" = some (.flag true) ∧ r.option? "zlib" = some (.flag false)) ∧
      ∀ r ∈ v.toolRequirements, r.name = "catch2" → r.option? "shared" = some (.text "no") := by
  let v : Variant := { Variant.sample with
    threading := .tbb, tests := true, pythonVersion := "3.10",
    compiler := ⟨"gcc", .release 11 0 0, none⟩,
    dependencyOptions := .ofList [
      ("boost", .ofList [("header_only", .flag false), ("zlib", .flag false)]),
      ("catch2", .ofList [("shared", .text "no")])] }
  let w : ValidVariant := ⟨v, by decide, rfl⟩
  obtain ⟨hpackages, -, hoptions, -, htests⟩ := resolution_complete w
  refine ⟨w, ?_, fun r hr hname => ⟨?_, ?_⟩, fun r hr hname => ?_⟩
  · have hnames := congrArg (List.map Prod.fst) hpackages
    rw [List.map_map, List.map_map] at hnames
    exact hnames
  · rw [hoptions r hr, hname]
    rfl
  · rw [hoptions r hr, hname]
    decide
  · rw [htests r hr hname]
    decide

end VariantPlan
