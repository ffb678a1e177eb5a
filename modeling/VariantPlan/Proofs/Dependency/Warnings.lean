import VariantPlan.Proofs.Dependency.Resolution
import VariantPlan.Proofs.Sets

/-!
# Options that nothing takes

The options that a caller has for a dependency are **applied** when something of that name is
required and has for each of them the caller's value or a forced one. Resolving warns of a name
that nothing required has. Both together cover every name but one: the build system is required,
so there is no warning, and takes no options.

Main results: `isRequired_all_iff` (what is required), `filter_isWarning` (the warnings),
`applied_iff`, and `options_applied_or_ignored` with the option that is lost (`cmake_options_lost`).
-/

namespace VariantPlan

namespace ValidVariant

/-! ## What is required -/

/-- The names of everything required are those of the packages of a variant, of the build system,
and of the test framework if tests are built. -/
theorem isRequired_all_iff {v : ValidVariant} {name : String} :
    isRequired name (v.requirements ++ v.toolRequirements) = true ↔
      name ∈ v.requiredPackages.map Package.name ∨ name = "cmake" ∨
        v.tests = true ∧ name = "catch2" := by
  have htools : name ∈ v.toolRequirements.map Requirement.name ↔
      name = "cmake" ∨ v.tests = true ∧ name = "catch2" := by
    rw [toolRequirements]
    cases v.tests <;> simp [Requirement.ofPackage, Package.name]
  rw [isRequired_iff, List.map_append, List.mem_append, names_requirements, htools]

/-! ## Warnings -/

theorem isWarning_of_mem_applyRules {v : ValidVariant} {e : Event} (he : e ∈ v.applyRules.events) :
    e.isWarning = false := by
  have haction : ∀ (rs : List Requirement) (a : RuleAction),
      ∀ e ∈ (a.apply v.dependencyOptions rs).events, e.isWarning = false := by
    intro rs a e he
    cases a with
    | require p =>
      rw [RuleAction.apply] at he
      split at he
      · cases he
      · obtain rfl : e = requiringEvent p := List.mem_singleton.1 he
        rfl
    | force p key value => cases he
    | forceAll key value => cases he
  have hrule : ∀ (rs : List Requirement) (r : DependencyRule),
      ∀ e ∈ (r.apply v.toVariant rs).events, e.isWarning = false := by
    intro rs r e he
    rw [DependencyRule.apply, Logged.events_bind] at he
    rcases List.mem_cons.1 he with rfl | he
    · rfl
    · exact Logged.forall_mem_events_foldlM haction rs _ e he
  exact Logged.forall_mem_events_foldlM hrule [] _ e he

/-- The warnings are one for each ignored name, in order. -/
theorem filter_isWarning (v : ValidVariant) :
    v.resolve.events.filter Event.isWarning = v.ignoredNames.map ignoredEvent := by
  have hrules : v.applyRules.events.filter Event.isWarning = [] :=
    List.filter_eq_nil_iff.2 fun e he => by simp [isWarning_of_mem_applyRules he]
  have hignored : (v.ignoredNames.map ignoredEvent).filter Event.isWarning =
      v.ignoredNames.map ignoredEvent := by
    refine List.filter_eq_self.2 fun e he => ?_
    obtain ⟨name, -, rfl⟩ := List.mem_map.1 he
    rfl
  rw [resolve, List.filter_append, hrules, hignored, List.nil_append]

theorem ignoredEvent_inj {a b : String} (h : ignoredEvent a = ignoredEvent b) : a = b := by
  simpa [ignoredEvent] using h

theorem ignoredEvent_mem_iff {v : ValidVariant} {name : String} :
    ignoredEvent name ∈ v.resolve.events ↔ name ∈ v.ignoredNames := by
  have hfilter : ignoredEvent name ∈ v.resolve.events ↔
      ignoredEvent name ∈ v.resolve.events.filter Event.isWarning := by
    rw [List.mem_filter]
    exact ⟨fun h => ⟨h, rfl⟩, fun h => h.1⟩
  rw [hfilter, filter_isWarning]
  exact List.mem_map.trans
    ⟨fun ⟨_, ha, h⟩ => ignoredEvent_inj h ▸ ha, fun h => ⟨name, h, rfl⟩⟩

theorem pairwise_ignoredNames (v : ValidVariant) :
    v.ignoredNames.Pairwise fun a b => compare a b = .lt :=
  v.dependencyOptions.pairwise_keys.filter _

/-- The ignored names are those under which the caller has options and nothing is required. -/
theorem mem_ignoredNames {v : ValidVariant} {name : String} :
    name ∈ v.ignoredNames ↔ v.dependencyOptions.contains name = true ∧
      ¬isRequired name (v.requirements ++ v.toolRequirements) = true := by
  rw [ignoredNames, List.mem_filter, SortedMap.mem_keys_iff, Bool.not_eq_true']
  simp

theorem count_ignoredEvent {v : ValidVariant} {name : String} (h : name ∈ v.ignoredNames) :
    v.resolve.events.count (ignoredEvent name) = 1 := by
  have hwarning : (ignoredEvent name).isWarning = true := rfl
  have hnodup : (v.ignoredNames.map ignoredEvent).Nodup := by
    refine List.pairwise_map.2 (v.pairwise_ignoredNames.imp fun hlt he => ?_)
    rw [ignoredEvent_inj he, Std.compare_self] at hlt
    cases hlt
  rw [← List.count_filter hwarning, filter_isWarning, hnodup.count,
    if_pos (List.mem_map_of_mem h)]

/-! ## Applied options -/

/-- Something of that name is required, and has for each of the caller's options the caller's value
or a forced one. -/
def Applied (v : ValidVariant) (name : String) : Prop :=
  ∃ r ∈ v.resolve.value ++ v.toolRequirements, r.name = name ∧
    ∀ key value, v.dependencyOptions.option? name key = some value →
      r.option? key = some value ∨ ∃ x, v.forced? name key = some x ∧ r.option? key = some x

/-- Options are applied to the libraries and to the test framework. The build system is there
always, but takes none. -/
theorem applied_iff {v : ValidVariant} {name : String} :
    v.Applied name ↔ name ∈ v.requiredPackages.map Package.name ∨
      (v.tests = true ∧ name = "catch2") ∨
      (name = "cmake" ∧ ∀ key, v.dependencyOptions.option? "cmake" key = none) := by
  constructor
  · rintro ⟨r, hr, rfl, happlied⟩
    rcases List.mem_append.1 hr with hr | hr
    · have hr : r ∈ v.requirements := hr
      exact .inl (v.names_requirements ▸ List.mem_map_of_mem hr)
    rcases mem_toolRequirements.1 hr with rfl | ⟨htests, rfl⟩
    · -- The build system has no option, so that the caller cannot have one either.
      refine .inr (.inr ⟨rfl, fun key => ?_⟩)
      cases hseed : v.dependencyOptions.option? "cmake" key with
      | none => rfl
      | some value =>
        rcases happlied key value hseed with h | ⟨x, -, h⟩
        · cases h
        · cases h
    · exact .inr (.inl ⟨htests, rfl⟩)
  · rintro (hname | ⟨htests, rfl⟩ | ⟨rfl, hnone⟩)
    · rw [← v.names_requirements] at hname
      obtain ⟨r, hr, rfl⟩ := List.mem_map.1 hname
      refine ⟨r, List.mem_append_left _ hr, rfl, fun key value hseed => ?_⟩
      rw [option?_of_mem_requirements hr, hseed]
      cases v.forced? r.name key with
      | none => exact .inl rfl
      | some x => exact .inr ⟨x, rfl, rfl⟩
    · have htool := mem_toolRequirements.2 (.inr ⟨htests, rfl⟩)
      refine ⟨_, List.mem_append_right _ htool, rfl, fun key value hseed => .inl ?_⟩
      rw [option?_of_mem_toolRequirements htool]
      exact hseed
    · refine ⟨_, List.mem_append_right _ (mem_toolRequirements.2 (.inl rfl)), rfl, ?_⟩
      intro key value hseed
      rw [hnone key] at hseed
      cases hseed

theorem not_mem_ignoredNames_of_applied {v : ValidVariant} {name : String} (h : v.Applied name) :
    name ∉ v.ignoredNames := by
  obtain ⟨r, hr, rfl, -⟩ := h
  intro hignored
  exact (mem_ignoredNames.1 hignored).2 (isRequired_iff.2 (List.mem_map_of_mem hr))

theorem not_applied_cmake {v : ValidVariant} {key : String} {value : OptionValue}
    (h : v.dependencyOptions.option? "cmake" key = some value) : ¬v.Applied "cmake" := by
  intro happlied
  rcases applied_iff.1 happlied with hlibrary | ⟨-, hname⟩ | ⟨-, hnone⟩
  · exact v.tool_not_mem_requiredPackages (.inl rfl) hlibrary
  · exact absurd hname (by decide)
  · rw [hnone key] at h
    cases h

theorem cmake_not_mem_ignoredNames (v : ValidVariant) : "cmake" ∉ v.ignoredNames := by
  intro h
  exact (mem_ignoredNames.1 h).2 (isRequired_all_iff.2 (.inr (.inl rfl)))

theorem applied_or_mem_ignoredNames {v : ValidVariant} {name : String}
    (hseeds : v.dependencyOptions.contains name = true) (hname : name ≠ "cmake") :
    v.Applied name ∨ name ∈ v.ignoredNames := by
  by_cases hrequired : isRequired name (v.requirements ++ v.toolRequirements) = true
  · rcases isRequired_all_iff.1 hrequired with hlibrary | hcmake | htest
    · exact .inl (applied_iff.2 (.inl hlibrary))
    · exact absurd hcmake hname
    · exact .inl (applied_iff.2 (.inr (.inl htest)))
  · exact .inr (mem_ignoredNames.2 ⟨hseeds, hrequired⟩)

end ValidVariant

/-- **No options are lost but those of the build system.** If the caller has options for a
dependency, either they are applied or there is a warning, unless the dependency is the build
system: it is required, so there is no warning, and takes no options. The warnings come in the
order of names, one for each name that nothing required has, and none for options that are
applied. -/
theorem options_applied_or_ignored (v : ValidVariant) :
    (∀ name options, v.dependencyOptions.get? name = some options → options ≠ .empty →
      ((v.Applied name ∨ ValidVariant.ignoredEvent name ∈ v.resolve.events) ↔ name ≠ "cmake")) ∧
    v.resolve.events.filter Event.isWarning = v.ignoredNames.map ValidVariant.ignoredEvent ∧
    v.ignoredNames.Pairwise (fun a b => compare a b = .lt) ∧
    (∀ name ∈ v.ignoredNames, v.resolve.events.count (ValidVariant.ignoredEvent name) = 1) ∧
    (∀ name, name ∈ v.ignoredNames ↔ v.dependencyOptions.contains name = true ∧
      name ∉ v.requiredPackages.map Package.name ∧ name ≠ "cmake" ∧
      ¬(v.tests = true ∧ name = "catch2")) ∧
    ∀ name, v.Applied name → ValidVariant.ignoredEvent name ∉ v.resolve.events := by
  refine ⟨fun name options hget hne => ⟨?_, fun hname => ?_⟩, v.filter_isWarning,
    v.pairwise_ignoredNames, fun _ => ValidVariant.count_ignoredEvent, fun name => ?_,
    fun name happlied => ?_⟩
  · rintro happlied rfl
    obtain ⟨key, value, hvalue⟩ := SortedMap.exists_get?_of_ne_empty hne
    have hseed : v.dependencyOptions.option? "cmake" key = some value := by
      rw [DependencyOptions.option?, hget]
      exact hvalue
    -- The build system takes no options, and it is not warned about either.
    rcases happlied with happlied | hwarned
    · exact ValidVariant.not_applied_cmake hseed happlied
    · exact v.cmake_not_mem_ignoredNames (ValidVariant.ignoredEvent_mem_iff.1 hwarned)
  · have hseeds : v.dependencyOptions.contains name = true := by
      rw [SortedMap.contains, hget]
      rfl
    rw [ValidVariant.ignoredEvent_mem_iff]
    exact ValidVariant.applied_or_mem_ignoredNames hseeds hname
  · rw [ValidVariant.mem_ignoredNames, ValidVariant.isRequired_all_iff, not_or, not_or]
  · rw [ValidVariant.ignoredEvent_mem_iff]
    exact ValidVariant.not_mem_ignoredNames_of_applied happlied

/-- With Eigen and without a threading runtime, options of NLopt are applied although one of them is
overridden, and there is one warning, of options of Boost. -/
theorem options_applied_or_ignored_eigen :
    ∃ v : ValidVariant, v.Applied "nlopt" ∧ ¬v.Applied "boost" ∧
      v.resolve.events.filter Event.isWarning = [ValidVariant.ignoredEvent "boost"] ∧
      v.resolve.events.count (ValidVariant.ignoredEvent "boost") = 1 := by
  let v : Variant := { Variant.sample with
    geometry := .eigen,
    dependencyOptions := .ofList [
      ("nlopt", .ofList [("shared", .flag false), ("enable_python", .text "no")]),
      ("boost", .ofList [("header_only", .flag false)])] }
  let w : ValidVariant := ⟨v, by decide, rfl⟩
  obtain ⟨htaken, hwarnings, -, hcount, -, happlied⟩ := options_applied_or_ignored w
  have hignored : w.ignoredNames = ["boost"] := by decide
  have hboost : ValidVariant.ignoredEvent "boost" ∈ w.resolve.events := by decide
  have hnlopt : ValidVariant.ignoredEvent "nlopt" ∉ w.resolve.events := by decide
  refine ⟨w, ?_, fun h => happlied "boost" h hboost, ?_, ?_⟩
  · exact ((htaken "nlopt" _ rfl (by decide)).2 (by decide)).resolve_right hnlopt
  · rw [hwarnings, hignored]
    rfl
  · exact hcount "boost" (hignored ▸ List.mem_cons_self)

/-- An option of the build system is neither applied nor warned of. -/
theorem cmake_options_lost :
    ∃ (v : ValidVariant) (options : SortedMap String OptionValue),
      v.dependencyOptions.get? "cmake" = some options ∧ options ≠ .empty ∧
      ¬v.Applied "cmake" ∧ ∀ e ∈ v.resolve.events, e.isWarning = false := by
  let v : Variant := { Variant.sample with
    dependencyOptions := .ofList [("cmake", .ofList [("bootstrap", .flag true)])] }
  let w : ValidVariant := ⟨v, by decide, rfl⟩
  have hseed : w.dependencyOptions.option? "cmake" "bootstrap" = some (.flag true) := by decide
  exact ⟨w, _, rfl, by decide, ValidVariant.not_applied_cmake hseed, by decide⟩

end VariantPlan
