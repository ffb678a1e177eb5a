import VariantPlan.Document.Identity
import VariantPlan.Document.Plan

/-!
# Interchangeable variants

Two variants are **interchangeable** when they agree on everything that identifies a package: on
all fields but the generator settings, and on linkage, position-independent code, build type and
compiler only where something is compiled. Each stage of planning reads interchangeable variants
alike, on any one host; where nothing is compiled the host is not read either.

Main results: `identity_eq_iff` (valid variants are interchangeable when their identities are
equal), `plan_eq_of_interchangeable`, and `plan_determined_by_identity`, which puts them together
with what the host may change.
-/

namespace VariantPlan

/-- Agreement on all that identifies a package. -/
structure Interchangeable (u v : Variant) : Prop where
  geometry : u.geometry = v.geometry
  optimizer : u.optimizer = v.optimizer
  threading : u.threading = v.threading
  headerOnly : u.headerOnly = v.headerOnly
  jsBindings : u.jsBindings = v.jsBindings
  tests : u.tests = v.tests
  pythonVersion : u.pythonVersion = v.pythonVersion
  system : u.system = v.system
  dependencyOptions : u.dependencyOptions = v.dependencyOptions
  shared : u.headerOnly = false → u.shared = v.shared
  fpic : u.headerOnly = false → u.fpic = v.fpic
  buildType : u.headerOnly = false → u.buildType = v.buildType
  compiler : u.headerOnly = false → u.compiler = v.compiler

namespace Interchangeable

variable {u v : Variant}

/-! ## Linkage -/

theorem buildsShared_eq (h : Interchangeable u v) : u.buildsShared = v.buildsShared := by
  unfold Variant.buildsShared
  rw [← h.headerOnly]
  cases hc : u.headerOnly with
  | true => simp
  | false => rw [h.shared hc]

theorem linkage_eq (h : Interchangeable u v) :
    (u.headerOnly || u.shared) = (v.headerOnly || v.shared) := by
  rw [← h.headerOnly]
  cases hc : u.headerOnly with
  | true => simp
  | false => rw [h.shared hc]

/-! ## Requirements -/

theorem actions_eq (h : Interchangeable u v) {r : DependencyRule} (hr : r ∈ DependencyRule.all) :
    r.actions u = r.actions v := by
  simp only [DependencyRule.all, List.mem_cons, List.not_mem_nil, or_false] at hr
  rcases hr with rfl | rfl | rfl | rfl | rfl
  · simp only [DependencyRule.geometry, DependencyRule.boostActions, h.geometry, h.pythonVersion]
  · simp only [DependencyRule.optimizer, h.optimizer]
  · simp only [DependencyRule.threading, h.threading]
  · rfl
  · simp only [DependencyRule.linkage, h.linkage_eq]

theorem apply_eq (h : Interchangeable u v) {r : DependencyRule} (hr : r ∈ DependencyRule.all)
    (rs : List Requirement) : DependencyRule.apply u rs r = DependencyRule.apply v rs r := by
  unfold DependencyRule.apply
  rw [h.actions_eq hr, h.dependencyOptions]

/-- Rules of the table, applied in any order, do the same for interchangeable variants. -/
theorem foldlM_apply_eq (h : Interchangeable u v) {rules : List DependencyRule}
    (hall : ∀ r ∈ rules, r ∈ DependencyRule.all) (rs : List Requirement) :
    rules.foldlM (DependencyRule.apply u) rs = rules.foldlM (DependencyRule.apply v) rs := by
  induction rules generalizing rs with
  | nil => rfl
  | cons r rules ih =>
    rw [List.foldlM_cons, List.foldlM_cons, h.apply_eq (hall r List.mem_cons_self)]
    congr 1
    funext rs'
    exact ih (fun r' hr' => hall r' (List.mem_cons_of_mem _ hr')) rs'

end Interchangeable

section Stages

variable {a b : ValidVariant}

theorem applyRules_eq (h : Interchangeable a.toVariant b.toVariant) :
    a.applyRules = b.applyRules :=
  h.foldlM_apply_eq (fun _ hr => hr) []

theorem toolRequirements_eq (h : Interchangeable a.toVariant b.toVariant) :
    a.toolRequirements = b.toolRequirements := by
  unfold ValidVariant.toolRequirements
  rw [h.tests, h.dependencyOptions]

theorem requirements_eq (h : Interchangeable a.toVariant b.toVariant) :
    a.requirements = b.requirements := congrArg Logged.value (applyRules_eq h)

theorem resolve_eq (h : Interchangeable a.toVariant b.toVariant) : a.resolve = b.resolve := by
  unfold ValidVariant.resolve ValidVariant.ignoredNames
  rw [requirements_eq h, toolRequirements_eq h, applyRules_eq h, h.dependencyOptions]

end Stages

namespace Interchangeable

variable {u v : Variant}

/-! ## Names and places -/

theorem hasDebugMarker_eq (h : Interchangeable u v) : u.hasDebugMarker = v.hasDebugMarker := by
  unfold Variant.hasDebugMarker
  rw [h.buildsShared_eq, h.system, ← h.headerOnly]
  cases hc : u.headerOnly with
  | true => simp
  | false => rw [h.buildType hc]

theorem artifact_eq (h : Interchangeable u v) : u.artifact = v.artifact := by
  unfold Variant.artifact Variant.libraryName Variant.defines
  rw [h.hasDebugMarker_eq, h.buildsShared_eq, h.system, h.geometry, h.optimizer, h.threading]

/-- The layout reads the host only where something is compiled. -/
theorem layout_eq (h : Interchangeable u v) {host host' : Host}
    (hh : host = host' ∨ u.headerOnly = true) : u.layout host = v.layout host' := by
  cases hc : u.headerOnly with
  | true =>
    rw [Variant.layout_of_headerOnly hc, Variant.layout_of_headerOnly (h.headerOnly ▸ hc)]
  | false =>
    obtain rfl : host = host' := hh.resolve_right (by simp [hc])
    unfold Variant.layout Variant.libraryDir Variant.binaryDirs
    rw [← h.headerOnly, h.buildType hc, h.system]

theorem systemLibraries_eq (h : Interchangeable u v) : u.systemLibraries = v.systemLibraries := by
  unfold Variant.systemLibraries
  rw [h.threading, h.system]

theorem prunedPaths_eq (h : Interchangeable u v) : u.prunedPaths = v.prunedPaths := by
  unfold Variant.prunedPaths
  rw [h.geometry, h.optimizer]

theorem assets?_eq (h : Interchangeable u v) : u.assets? = v.assets? := by
  unfold Variant.assets? Variant.generatesAssets
  rw [h.headerOnly, h.system, h.jsBindings]

theorem cacheVariables_eq (h : Interchangeable u v) : u.cacheVariables = v.cacheVariables := by
  unfold Variant.cacheVariables
  rw [h.buildsShared_eq, h.headerOnly, h.tests, h.geometry, h.optimizer, h.threading,
    h.jsBindings]

end Interchangeable

/-! ## Plans -/

section Plans

variable {a b : ValidVariant} {host host' : Host}

theorem planOn_eq_of_interchangeable (h : Interchangeable a.toVariant b.toVariant)
    (hh : host = host' ∨ a.headerOnly = true) : a.planOn host = b.planOn host' := by
  unfold ValidVariant.planOn
  rw [requirements_eq h, toolRequirements_eq h, h.artifact_eq, h.systemLibraries_eq,
    h.layout_eq hh, h.prunedPaths_eq, h.assets?_eq, h.cacheVariables_eq]

/-- Interchangeable variants have the same plan, told about in the same events. -/
theorem plan_eq_of_interchangeable (h : Interchangeable a.toVariant b.toVariant)
    (hh : host = host' ∨ a.headerOnly = true) : a.plan host = b.plan host' := by
  unfold ValidVariant.plan ValidVariant.plannedEvent
  rw [planOn_eq_of_interchangeable h hh, resolve_eq h, h.geometry, h.optimizer, h.threading,
    h.system]

end Plans

/-! ## Identities -/

theorem identity_eq_iff {a b : ValidVariant} :
    a.identity = b.identity ↔ Interchangeable a.toVariant b.toVariant := by
  constructor
  · intro h
    simp only [ValidVariant.identity, ValidVariant.ifCompiled, Identity.mk.injEq] at h
    obtain ⟨hg, ho, ht, hh, hj, hts, hp, hs, hsh, hf, hb, hc, hd⟩ := h
    refine ⟨hg, ho, ht, hh, hj, hts, hp, hs, hd, ?_, ?_, ?_, ?_⟩ <;> intro hcomp
    · simpa [← hh, hcomp] using hsh
    · simpa [← hh, hcomp] using hf
    · simpa [← hh, hcomp] using hb
    · simpa [← hh, hcomp] using hc
  · intro h
    simp only [ValidVariant.identity, ValidVariant.ifCompiled, Identity.mk.injEq, ← h.headerOnly]
    refine ⟨h.geometry, h.optimizer, h.threading, trivial, h.jsBindings, h.tests, h.pythonVersion,
      h.system, ?_, ?_, ?_, ?_, h.dependencyOptions⟩ <;> cases hc : a.headerOnly
    · simpa using h.shared hc
    · rfl
    · simpa using h.fpic hc
    · rfl
    · simpa using h.buildType hc
    · rfl
    · simpa using h.compiler hc
    · rfl

theorem toVariant_of_validate? {v : Variant} {a : ValidVariant} (h : v.validate? = .ok a) :
    a.toVariant = v.normalize := by
  unfold Variant.validate? at h
  split at h
  · cases h
  · exact congrArg ValidVariant.toVariant (Except.ok.inj h).symm

theorem exists_of_resolvePlan_ok {v : Variant} {host : Host} {p : BuildPlan}
    (h : (v.resolvePlan host).value = .ok p) :
    ∃ a : ValidVariant, v.validate? = .ok a ∧ p = a.planOn host := by
  rw [Variant.value_resolvePlan] at h
  cases hv : v.validate? with
  | error e => simp [hv] at h
  | ok a =>
    rw [hv] at h
    exact ⟨a, rfl, (Except.ok.inj h).symm⟩

/-- A header-only variant stays interchangeable with itself when its compilation settings and its
generator change, before and after normalizing. -/
theorem interchangeable_settings {v : Variant} (hv : v.headerOnly = true) (shared : Bool)
    (fpic : Fpic) (buildType : BuildType) (compiler : Compiler) (generator : Generator) :
    Interchangeable v.normalize
      ({ v with shared, fpic, buildType, compiler, generator } : Variant).normalize := by
  have hc : v.normalize.headerOnly ≠ false := by
    show v.headerOnly ≠ false
    simp [hv]
  exact ⟨rfl, rfl, rfl, rfl, rfl, rfl, rfl, rfl, rfl, fun h => absurd h hc,
    fun h => absurd h hc, fun h => absurd h hc, fun h => absurd h hc⟩

/-- **Identities determine plans.** Valid variants of one identity have one plan on one host, and
on any two hosts if they are header-only, down to its text. The plan of a header-only variant does
not change with its compilation settings, its generator or the host. The plan of any variant
changes with the host in its library directories only. -/
theorem plan_determined_by_identity :
    (∀ (a b : ValidVariant) (host host' : Host), a.identity = b.identity →
      host = host' ∨ a.headerOnly = true →
        a.plan host = b.plan host' ∧
        (a.planOn host).toJson.compact = (b.planOn host').toJson.compact ∧
        (a.planOn host).fingerprint = (b.planOn host').fingerprint) ∧
    (∀ (v : Variant) (shared : Bool) (fpic : Fpic) (buildType : BuildType) (compiler : Compiler)
      (generator : Generator) (host host' : Host) (p q : BuildPlan), v.headerOnly = true →
      (v.resolvePlan host).value = .ok p →
      (({ v with shared, fpic, buildType, compiler, generator } : Variant).resolvePlan host').value
        = .ok q → p = q) ∧
    (∀ (a : ValidVariant) (host host' : Host),
      a.planOn host' = { a.planOn host with
        layout := { a.layout host with libraryDirs := (a.layout host').libraryDirs } }) := by
  refine ⟨fun a b host host' hid hh => ?_, ?_, fun a host host' => ?_⟩
  · have hi := identity_eq_iff.1 hid
    have hp := planOn_eq_of_interchangeable hi hh
    exact ⟨plan_eq_of_interchangeable hi hh, by rw [hp], by rw [hp]⟩
  · intro v shared fpic buildType compiler generator host host' p q hv hp hq
    obtain ⟨a, ha, rfl⟩ := exists_of_resolvePlan_ok hp
    obtain ⟨b, hb, rfl⟩ := exists_of_resolvePlan_ok hq
    have hi := interchangeable_settings hv shared fpic buildType compiler generator
    rw [← toVariant_of_validate? ha, ← toVariant_of_validate? hb] at hi
    have hh : a.headerOnly = true := by
      rw [toVariant_of_validate? ha]
      exact hv
    exact planOn_eq_of_interchangeable hi (.inr hh)
  · -- Only the layout reads the host, and of it the library directories only.
    unfold ValidVariant.planOn Variant.layout
    cases a.headerOnly <;> rfl

/-- A header-only variant with a debug build by one compiler and one with a release build by
another have one identity, and one plan on different hosts. -/
theorem plan_determined_by_identity_headerOnly :
    ∃ a b : ValidVariant, a.identity = b.identity ∧ a.headerOnly = true ∧
      a.compiler ≠ b.compiler ∧ a.buildType ≠ b.buildType ∧ a.generator ≠ b.generator ∧
      a.plan .cached = b.plan .editable ∧ a.planOn .editable = b.planOn .cached := by
  let v : Variant := { Variant.sample with
    geometry := .eigen, threading := .tbb, shared := false, fpic := .disabled, headerOnly := true,
    jsBindings := true, tests := true, pythonVersion := "3.10",
    compiler := ⟨"gcc", .release 11 0 0, none⟩, buildType := .debug,
    dependencyOptions := .ofList [("nlopt", .ofList [("enable_cxx_routines", .flag true)])] }
  let w : Variant := { v with
    shared := true, fpic := .notApplicable, buildType := .release,
    compiler := ⟨"clang", .release 14 0 0, some .cpp17⟩, generator := ⟨none, some "llvm"⟩ }
  let a : ValidVariant := ⟨v, by decide, rfl⟩
  let b : ValidVariant := ⟨w, by decide, rfl⟩
  have hid : a.identity = b.identity := rfl
  have hplan : ∀ (c : ValidVariant) (host : Host),
      (c.toVariant.resolvePlan host).value = .ok (c.planOn host) := by
    intro c host
    rw [Variant.value_resolvePlan, Variant.validate?_toVariant]
  refine ⟨a, b, hid, rfl, by decide, by decide, by decide,
    (plan_determined_by_identity.1 a b .cached .editable hid (.inr rfl)).1, ?_⟩
  exact plan_determined_by_identity.2.1 v w.shared w.fpic w.buildType w.compiler w.generator
    .editable .cached _ _ rfl (hplan a .editable) (hplan b .cached)

end VariantPlan
