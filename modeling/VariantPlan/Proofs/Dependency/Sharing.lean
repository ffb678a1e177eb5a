import VariantPlan.Document.Plan
import VariantPlan.Proofs.Dependency.Resolution

/-!
# Shared options

Options for dependencies are written once and used for many variants, of which each requires other
dependencies. A variant **reads** an option if it requires the dependency, as a library or as the
framework of its tests, and no rule forces the option.

**Theorem (`plan_determined_by_read_options`).** Replace the options for dependencies by others
that agree with them where the variant reads them. Then the variant stays valid, and its plan and
fingerprint on any host stay the same.

Replacing the options changes no verdict and no part of a plan but its requirements. These have the
forced value for an option or else the caller's, so two of them are equal when the options agree
where nothing is forced. The converse holds as well (`planOn_withOptions_eq_iff`): options that
disagree where they are read lead to another plan.
-/

namespace VariantPlan

/-! ## Options that are read -/

namespace Variant

/-- A variant requires the dependency, and no rule forces the option. -/
def Reads (v : Variant) (name key : String) : Prop :=
  (name ∈ v.requiredPackages.map Package.name ∨ v.tests = true ∧ name = "catch2") ∧
    v.forced? name key = none

instance (v : Variant) (name key : String) : Decidable (v.Reads name key) :=
  inferInstanceAs (Decidable (_ ∧ _))

/-- Options for dependencies agree with those of a variant where it reads them. -/
def Agrees (v : Variant) (d : DependencyOptions) : Prop :=
  ∀ name key, v.Reads name key → d.option? name key = v.dependencyOptions.option? name key

theorem agrees_self (v : Variant) : v.Agrees v.dependencyOptions := fun _ _ _ => rfl

/-- Options still agree when one gets a value that is not read. -/
theorem Agrees.insert {v : Variant} {d : DependencyOptions} (h : v.Agrees d) (name key : String)
    (hkey : ¬v.Reads name key) (value : OptionValue) :
    v.Agrees (d.insert name ((d.getD name .empty).insert key value)) := by
  intro name' key' hreads
  rw [← h name' key' hreads]
  unfold DependencyOptions.option?
  rw [SortedMap.get?_insert]
  by_cases hname : name' = name
  · subst hname
    have hne : key' ≠ key := by
      rintro rfl
      exact hkey hreads
    rw [if_pos rfl, Option.bind_some, SortedMap.get?_insert, if_neg hne]
    exact d.get?_getD name' key'
  · rw [if_neg hname]

/-- The variant with other options for dependencies. -/
def withOptions (v : Variant) (d : DependencyOptions) : Variant := { v with dependencyOptions := d }

theorem requirement_withOptions_eq_iff {v : Variant} {d : DependencyOptions} {p : Package}
    (hp : p ∈ v.requiredPackages) : (v.withOptions d).requirement p = v.requirement p ↔
      ∀ key, v.forced? p.name key = none →
        d.option? p.name key = v.dependencyOptions.option? p.name key := by
  have hnew : ∀ key, ((v.withOptions d).requirement p).option? key =
      (v.forced? p.name key).or (d.option? p.name key) :=
    (v.withOptions d).option?_requirement hp
  constructor
  · intro h key hforced
    have hkey := hnew key
    rw [h, v.option?_requirement hp, hforced, Option.none_or, Option.none_or] at hkey
    exact hkey.symm
  · intro h
    have hoptions : ((v.withOptions d).requirement p).options = (v.requirement p).options := by
      refine SortedMap.ext_get? fun key => (hnew key).trans ?_
      refine Eq.trans ?_ (v.option?_requirement hp key).symm
      cases hforced : v.forced? p.name key with
      | none => exact h key hforced
      | some x => rfl
    rw [(v.withOptions d).requirement_eq p, v.requirement_eq p, hoptions]
    rfl

end Variant

/-! ## Plans -/

namespace ValidVariant

/-- The valid variant with other options for dependencies. -/
def withOptions (v : ValidVariant) (d : DependencyOptions) : ValidVariant where
  toVariant := v.toVariant.withOptions d
  accepted := v.accepted
  normal := congrArg (fun u => u.withOptions d) v.normal

variable {v : ValidVariant} {d : DependencyOptions}

theorem validate?_withOptions {u : Variant} (hv : u.validate? = .ok v) :
    (u.withOptions d).validate? = .ok (v.withOptions d) := by
  unfold Variant.validate? at hv ⊢
  split at hv
  next => cases hv
  next hfault =>
    -- No gate of validation reads the options, so the verdict carries over as it is.
    obtain rfl := Except.ok.inj hv
    split
    next e he =>
      have hfault' : (u.withOptions d).fault? = none := hfault
      rw [hfault'] at he
      cases he
    next => rfl

theorem requirements_withOptions_eq_iff : (v.withOptions d).requirements = v.requirements ↔
    ∀ p ∈ v.requiredPackages, ∀ key, v.forced? p.name key = none →
      d.option? p.name key = v.dependencyOptions.option? p.name key := by
  have hnew : (v.withOptions d).requirements =
      v.requiredPackages.map (v.toVariant.withOptions d).requirement :=
    (v.withOptions d).requirements_eq_map
  rw [hnew, requirements_eq_map, List.map_inj_left]
  exact forall₂_congr fun p hp => Variant.requirement_withOptions_eq_iff hp

theorem toolRequirements_withOptions_eq_iff :
    (v.withOptions d).toolRequirements = v.toolRequirements ↔
      (v.tests = true → ∀ key,
        d.option? "catch2" key = v.dependencyOptions.option? "catch2" key) := by
  have hframework : d.getD "catch2" .empty = v.dependencyOptions.getD "catch2" .empty ↔
      ∀ key, d.option? "catch2" key = v.dependencyOptions.option? "catch2" key := by
    constructor
    · intro h key
      rw [← DependencyOptions.get?_getD, h, DependencyOptions.get?_getD]
    · intro h
      refine SortedMap.ext_get? fun key => ?_
      rw [DependencyOptions.get?_getD, h, DependencyOptions.get?_getD]
  have htests : (v.withOptions d).tests = v.tests := rfl
  rw [toolRequirements, toolRequirements, htests, ← hframework]
  cases v.tests with
  | false => simp
  | true => simp [Requirement.ofPackage, Package.name, withOptions, Variant.withOptions]

/-- Nothing of a plan but its requirements depends on the options for dependencies. -/
theorem planOn_withOptions_eq_iff_requirements {host : Host} :
    (v.withOptions d).planOn host = v.planOn host ↔
      (v.withOptions d).requirements = v.requirements ∧
        (v.withOptions d).toolRequirements = v.toolRequirements := by
  constructor
  · intro h
    exact ⟨congrArg BuildPlan.dependencies h, congrArg BuildPlan.tools h⟩
  · rintro ⟨hlibraries, htools⟩
    rw [planOn, hlibraries, htools]
    rfl

/-- **Plans depend on the options that are read**, and on all of them. -/
theorem planOn_withOptions_eq_iff {host : Host} :
    (v.withOptions d).planOn host = v.planOn host ↔ v.Agrees d := by
  rw [planOn_withOptions_eq_iff_requirements, requirements_withOptions_eq_iff,
    toolRequirements_withOptions_eq_iff]
  constructor
  · rintro ⟨hlibraries, hframework⟩ name key ⟨hname | ⟨htests, rfl⟩, hforced⟩
    · obtain ⟨p, hp, rfl⟩ := List.mem_map.1 hname
      exact hlibraries p hp key hforced
    · exact hframework htests key
  · intro h
    refine ⟨fun p hp key hforced => ?_, fun htests key => ?_⟩
    · exact h p.name key ⟨.inl (List.mem_map_of_mem hp), hforced⟩
    · -- Nothing is forced on what is no library.
      have hforced : v.forced? "catch2" key = none :=
        if_pos (v.tool_not_mem_requiredPackages (p := .catch2) (.inr rfl))
      exact h "catch2" key ⟨.inr ⟨htests, rfl⟩, hforced⟩

end ValidVariant

/-- **Shared options.** A valid variant stays valid with other options for dependencies. If they
agree with its own where it reads them, then it has the same plan on any host, with the same
fingerprint. -/
theorem plan_determined_by_read_options {u : Variant} {v : ValidVariant}
    (hv : u.validate? = .ok v) {d : DependencyOptions} (h : v.Agrees d) :
    ∃ w : ValidVariant, (u.withOptions d).validate? = .ok w ∧
      w.toVariant = v.toVariant.withOptions d ∧
      ∀ host, (w.plan host).value = (v.plan host).value ∧
        (w.planOn host).fingerprint = (v.planOn host).fingerprint := by
  refine ⟨v.withOptions d, ValidVariant.validate?_withOptions hv, rfl, fun host => ?_⟩
  have hplan : (v.withOptions d).planOn host = v.planOn host :=
    ValidVariant.planOn_withOptions_eq_iff.2 h
  rw [ValidVariant.value_plan, ValidVariant.value_plan, hplan]
  exact ⟨rfl, rfl⟩

/-- With Eigen and without tests, a variant has the same plan whatever is asked of Boost, of the
test framework, and of the linkage of NLopt, which is forced. -/
theorem plan_determined_by_read_options_eigen :
    ∃ (v w : ValidVariant) (d : DependencyOptions), v.Agrees d ∧ d ≠ v.dependencyOptions ∧
      v.validate? = .ok v ∧ (v.withOptions d).validate? = .ok w ∧
      (w.plan .cached).value = (v.plan .cached).value := by
  let v : Variant := { Variant.sample with
    geometry := .eigen,
    dependencyOptions := .ofList [("nlopt", .ofList [("enable_python", .flag true)])] }
  let a : ValidVariant := ⟨v, by decide, rfl⟩
  have hnlopt := a.agrees_self.insert "nlopt" "shared" (by decide) (.flag false)
  have hboost := hnlopt.insert "boost" "header_only" (by decide) (.flag false)
  have hall := hboost.insert "catch2" "shared" (by decide) (.text "no")
  have hvalid : a.validate? = .ok a := Variant.validate?_toVariant a
  obtain ⟨w, hw, -, hplan⟩ := plan_determined_by_read_options hvalid hall
  exact ⟨a, w, _, hall, by decide, hvalid, hw, (hplan .cached).1⟩

end VariantPlan
