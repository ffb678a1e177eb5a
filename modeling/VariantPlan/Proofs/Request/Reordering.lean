import Mathlib.Data.List.Pairwise
import VariantPlan.Proofs.Session
import VariantPlan.Proofs.Sets
import VariantPlan.Proofs.Text.ByteOrder
import VariantPlan.Variant.Request

/-!
# Requests in any order

Every entry of a request is about one **field**: an option, a setting, or an option of a dependency.
The two spellings of the request for position-independent code are about one option. Assignments to
different fields commute, and whether a step can be read does not depend on the builder. So the
entries of a request with at most one of the two spellings can be made in any order.

The order of a request's own steps matters for what is left: it has the first spelling before the
second, which therefore counts, and it decides which of several bad entries is reported. Options
come before settings and these before the options of dependencies, each by the bytes of their keys.

Main results: `Builder.assign_comm` (the commutation), `Builder.runAll_eq_ok_iff` and
`Builder.runAll_eq_error_iff` (sessions that stop at the first error), `Builder.run_perm`,
`Request.pairwise_steps` (the order), and `request_reordering_complete`.
-/

namespace VariantPlan

/-! ## Fields -/

/-- What an entry of a request is about. -/
inductive Field where
  | option (key : String)
  | setting (key : String)
  | dependency (name key : String)
deriving DecidableEq

/-- The field of an option. Both spellings of the request for position-independent code are about
one field. -/
def Field.ofOption (key : String) : Field := .option (if key = "fPIC" then "fpic" else key)

theorem Field.ofOption_eq_ofOption {k l : String} (h : ofOption k = ofOption l) (hne : k ≠ l) :
    k = "fPIC" ∧ l = "fpic" ∨ k = "fpic" ∧ l = "fPIC" := by
  have h := Field.option.inj h
  split_ifs at h with hk hl hl
  · exact absurd (hk.trans hl.symm) hne
  · exact .inl ⟨hk, h.symm⟩
  · exact .inr ⟨h, hl⟩
  · exact absurd h hne

namespace Assignment

/-- The field that an assignment changes. -/
def field : Assignment → Field
  | .geometry _ => .option "geometries"
  | .optimizer _ => .option "optimizer"
  | .threading _ => .option "threading"
  | .shared _ => .option "shared"
  | .fpic _ => .option "fpic"
  | .headerOnly _ => .option "header_only"
  | .jsBindings _ => .option "with_js_bindings"
  | .tests _ => .option "tests"
  | .pythonVersion _ => .option "python_version"
  | .system _ => .setting "os"
  | .buildType _ => .setting "build_type"
  | .compilerFamily _ => .setting "compiler"
  | .compilerVersion _ => .setting "compiler.version"
  | .standard _ => .setting "compiler.cppstd"
  | .platform _ => .setting "compiler.generator_platform"
  | .toolset _ => .setting "compiler.toolset"
  | .dependency name key _ => .dependency name key
  | .defaultSystem _ => .setting "os"

variable {key value : String} {v : OptionValue} {a : Assignment}

theorem field_of_map {α : Type} {f : α → Assignment} {x : Except ConfigError α} {field' : Field}
    (hf : ∀ y, (f y).field = field') (h : f <$> x = .ok a) : a.field = field' := by
  cases x with
  | error e => cases h
  | ok y => rw [← Except.ok.inj h, hf]

theorem field_of_ofOption (h : ofOption key v = .ok a) : a.field = .ofOption key := by
  unfold ofOption at h
  split_ifs at h with h₁ h₂ h₃ h₄ hfpic h₆ h₇ h₈ h₉ <;> try subst key
  · exact field_of_map (fun _ => rfl) h
  · exact field_of_map (fun _ => rfl) h
  · exact field_of_map (fun _ => rfl) h
  · exact field_of_map (fun _ => rfl) h
  · rcases hfpic with rfl | rfl <;> exact field_of_map (fun _ => rfl) h
  · exact field_of_map (fun _ => rfl) h
  · exact field_of_map (fun _ => rfl) h
  · exact field_of_map (fun _ => rfl) h
  · exact Except.ok.inj h ▸ rfl

theorem field_of_ofSetting (h : ofSetting key value = .ok a) : a.field = .setting key := by
  unfold ofSetting at h
  split_ifs at h <;> try subst key
  · exact field_of_map (fun _ => rfl) h
  · exact field_of_map (fun _ => rfl) h
  all_goals exact Except.ok.inj h ▸ rfl

end Assignment

/-- The field that a step is about, if the step names it. -/
def BuildStep.field? : BuildStep → Option Field
  | .option key _ => some (.ofOption key)
  | .setting key _ => some (.setting key)
  | .dependencyOption name key _ => some (.dependency name key)
  | _ => none

theorem BuildStep.field_of_assignment {s : BuildStep} {a : Assignment} {field : Field}
    (h : s.assignment = .ok a) (hfield : s.field? = some field) : a.field = field := by
  cases s with
  | option key value => exact Option.some.inj hfield ▸ Assignment.field_of_ofOption h
  | setting key value => exact Option.some.inj hfield ▸ Assignment.field_of_ofSetting h
  | dependencyOption name key value => exact Option.some.inj hfield ▸ Except.ok.inj h ▸ rfl
  | _ => cases hfield

namespace BuildStep

/-- Steps are about different fields. -/
def IsApart (s s' : BuildStep) : Prop :=
  ∃ field field', s.field? = some field ∧ s'.field? = some field' ∧ field ≠ field'

theorem IsApart.field_ne {s s' : BuildStep} {a a' : Assignment} (h : s.IsApart s')
    (ha : s.assignment = .ok a) (ha' : s'.assignment = .ok a') : a.field ≠ a'.field := by
  obtain ⟨field, field', hs, hs', hne⟩ := h
  rwa [field_of_assignment ha hs, field_of_assignment ha' hs']

theorem toOption_assignment_eq_some_iff {s : BuildStep} {a : Assignment} :
    s.assignment.toOption = some a ↔ s.assignment = .ok a := by
  cases s.assignment <;> simp [Except.toOption]

end BuildStep

/-! ## Commutation -/

namespace Builder

/-- Options of dependencies commute unless they are of one key and one dependency. -/
theorem assign_dependency_comm (b : Builder) {name key name' key' : String} (x y : OptionValue)
    (h : name = name' → key ≠ key') :
    (b.assign (.dependency name key x)).assign (.dependency name' key' y) =
      (b.assign (.dependency name' key' y)).assign (.dependency name key x) := by
  simp only [assign, withDependencyOption, SortedMap.getD, SortedMap.get?_insert]
  by_cases hname : name = name'
  · subst hname
    rw [if_pos rfl, if_pos rfl, Option.getD_some, Option.getD_some, SortedMap.insert_insert,
      SortedMap.insert_insert, SortedMap.insert_comm _ (h rfl)]
  · rw [if_neg (Ne.symm hname), if_neg hname, SortedMap.insert_comm _ hname]

theorem assign_comm (b : Builder) {a a' : Assignment} (h : a.field ≠ a'.field) :
    (b.assign a).assign a' = (b.assign a').assign a := by
  cases a with
  | dependency name key x =>
    cases a' with
    | dependency name' key' y =>
      refine b.assign_dependency_comm x y ?_
      rintro rfl rfl
      exact h rfl
    | _ => rfl
  | _ =>
    cases a' <;> try rfl
    all_goals exact absurd rfl h

end Builder

/-! ## Sessions that stop at the first error -/

/-- A step can be read, whichever builder it is made on. -/
def BuildStep.IsAccepted (s : BuildStep) : Prop := ∃ a, s.assignment = .ok a

namespace Builder

variable {b b' : Builder} {s : BuildStep} {steps steps' : List BuildStep} {e : ConfigError}

theorem step_eq_error_iff : b.step s = (.error e, b) ↔ s.assignment = .error e := by
  rw [step_eq]
  cases s.assignment <;> simp [after]

theorem exists_step_eq_ok_iff : (∃ b', b.step s = (.ok (), b')) ↔ s.IsAccepted := by
  rw [step_eq, BuildStep.IsAccepted]
  cases s.assignment <;> simp [after]

/-- All steps are made if all can be read, and then nothing is passed over. -/
theorem runAll_eq_ok_iff :
    b.runAll steps = .ok b' ↔ (∀ s ∈ steps, s.IsAccepted) ∧ b' = b.run steps := by
  induction steps generalizing b with
  | nil =>
    rw [runAll, List.foldlM_nil, run, List.foldl_nil]
    exact ⟨fun h => ⟨List.forall_mem_nil _, (Except.ok.inj h).symm⟩, fun h => h.2 ▸ rfl⟩
  | cons s steps ih =>
    rw [List.forall_mem_cons]
    cases hs : s.assignment with
    | error e =>
      rw [runAll_cons_of_error hs]
      refine iff_of_false (fun h => by cases h) fun h => ?_
      obtain ⟨a, ha⟩ := h.1.1
      rw [hs] at ha
      cases ha
    | ok a => rw [runAll_cons_of_ok hs, ih, run_cons_of_ok hs,
      and_iff_right (show s.IsAccepted from ⟨a, hs⟩)]

theorem exists_runAll_eq_ok_iff :
    (∃ b', b.runAll steps = .ok b') ↔ ∀ s ∈ steps, s.IsAccepted := by
  simp only [runAll_eq_ok_iff, exists_and_left, exists_eq, and_true]

theorem runAll_append {before : List BuildStep} (h : ∀ s ∈ before, s.IsAccepted) :
    b.runAll (before ++ steps) = (b.run before).runAll steps := by
  have hbefore : before.foldlM advance b = .ok (b.run before) := runAll_eq_ok_iff.2 ⟨h, rfl⟩
  rw [runAll, List.foldlM_append, hbefore]
  rfl

theorem forall_isAccepted_or_first (steps : List BuildStep) : (∀ s ∈ steps, s.IsAccepted) ∨
    ∃ before s after e, steps = before ++ s :: after ∧ (∀ s' ∈ before, s'.IsAccepted) ∧
      s.assignment = .error e := by
  induction steps with
  | nil => exact .inl (List.forall_mem_nil _)
  | cons s steps ih =>
    cases hs : s.assignment with
    | error e => exact .inr ⟨[], s, steps, e, rfl, List.forall_mem_nil _, hs⟩
    | ok a =>
      rcases ih with hall | ⟨before, s', after, e, rfl, hbefore, herror⟩
      · exact .inl (List.forall_mem_cons.2 ⟨⟨a, hs⟩, hall⟩)
      · exact .inr ⟨s :: before, s', after, e, rfl, List.forall_mem_cons.2 ⟨⟨a, hs⟩, hbefore⟩,
          herror⟩

/-- Running stops with an error at the first step that cannot be read. -/
theorem runAll_eq_error_iff : b.runAll steps = .error e ↔
    ∃ before s after, steps = before ++ s :: after ∧ (∀ s' ∈ before, s'.IsAccepted) ∧
      s.assignment = .error e := by
  constructor
  · intro h
    rcases forall_isAccepted_or_first steps with
      hall | ⟨before, s, after, e', rfl, hbefore, herror⟩
    · rw [runAll_eq_ok_iff.2 ⟨hall, rfl⟩] at h
      cases h
    · rw [runAll_append hbefore, runAll_cons_of_error herror] at h
      cases h
      exact ⟨before, s, after, rfl, hbefore, herror⟩
  · rintro ⟨before, s, after, rfl, hbefore, herror⟩
    rw [runAll_append hbefore, runAll_cons_of_error herror]

/-! ## Reordering -/

theorem run_perm (hperm : steps.Perm steps') (hapart : steps.Pairwise BuildStep.IsApart)
    (b : Builder) : b.run steps = b.run steps' := by
  have hcomm : (acceptedAssignments steps).Pairwise fun a a' =>
      ∀ b : Builder, (b.assign a).assign a' = (b.assign a').assign a := by
    refine hapart.filterMap _ fun s s' h a ha a' ha' b => b.assign_comm ?_
    exact h.field_ne (BuildStep.toOption_assignment_eq_some_iff.1 ha)
      (BuildStep.toOption_assignment_eq_some_iff.1 ha')
  have hsymm : Std.Symm fun a a' : Assignment =>
      ∀ b : Builder, (b.assign a).assign a' = (b.assign a').assign a :=
    ⟨fun _ _ h b => (h b).symm⟩
  rw [run_eq_foldl_assign, run_eq_foldl_assign]
  exact (hperm.filterMap _).foldl_eq' (hcomm.forall_of_forall fun _ _ _ => rfl) b

/-- Assignments to other fields keep the request for position-independent code. -/
theorem fpic_foldl_assign {l : List Assignment} (h : ∀ a ∈ l, a.field ≠ .option "fpic") :
    (l.foldl assign b).fpic = b.fpic := by
  induction l generalizing b with
  | nil => rfl
  | cons a l ih =>
    obtain ⟨ha, hl⟩ := List.forall_mem_cons.1 h
    rw [List.foldl_cons, ih hl]
    cases a with
    | fpic x => exact absurd rfl ha
    | _ => rfl

end Builder

/-! ## The order of a request's steps -/

namespace BuildStep

/-- A step of a request comes before another one: options before settings and these before the
options of dependencies, each by the bytes of their keys. -/
inductive Precedes : BuildStep → BuildStep → Prop where
  | option {k k' : String} (h : Text.bytes k < Text.bytes k') (v v' : OptionValue) :
    Precedes (.option k v) (.option k' v')
  | setting {k k' : String} (h : Text.bytes k < Text.bytes k') (v v' : String) :
    Precedes (.setting k v) (.setting k' v')
  | dependencyName {n n' : String} (h : Text.bytes n < Text.bytes n') (k k' : String)
    (v v' : OptionValue) : Precedes (.dependencyOption n k v) (.dependencyOption n' k' v')
  | dependencyKey (n : String) {k k' : String} (h : Text.bytes k < Text.bytes k')
    (v v' : OptionValue) : Precedes (.dependencyOption n k v) (.dependencyOption n k' v')
  | optionSetting (k : String) (v : OptionValue) (k' v' : String) :
    Precedes (.option k v) (.setting k' v')
  | optionDependency (k : String) (v : OptionValue) (n k' : String) (v' : OptionValue) :
    Precedes (.option k v) (.dependencyOption n k' v')
  | settingDependency (k v n k' : String) (v' : OptionValue) :
    Precedes (.setting k v) (.dependencyOption n k' v')

variable {s s' : BuildStep}

theorem Precedes.asymm (h : s.Precedes s') : ¬s'.Precedes s := by
  intro h'
  cases h with
  | option h => cases h' with | option h' => exact List.lt_asymm h h'
  | setting h => cases h' with | setting h' => exact List.lt_asymm h h'
  | dependencyName h =>
    cases h' with
    | dependencyName h' => exact List.lt_asymm h h'
    | dependencyKey => exact List.lt_irrefl _ h
  | dependencyKey n h =>
    cases h' with
    | dependencyName h' => exact List.lt_irrefl _ h'
    | dependencyKey _ h' => exact List.lt_asymm h h'
  | optionSetting | optionDependency | settingDependency => cases h'

/-- The capital spelling of the request for position-independent code comes before the small one. -/
theorem bytes_fPIC_lt : Text.bytes "fPIC" < Text.bytes "fpic" :=
  Text.compare_eq_lt_iff.1 (by decide)

/-- Steps in the order of a request are about different fields, but for the two spellings. -/
theorem Precedes.isApart_or (h : s.Precedes s') :
    s.IsApart s' ∨ ∃ v v', s = .option "fPIC" v ∧ s' = .option "fpic" v' := by
  have hne {k k' : String} (h : Text.bytes k < Text.bytes k') : k ≠ k' := by
    rintro rfl
    exact List.lt_irrefl _ h
  cases h with
  | @option k k' h v v' =>
    by_cases hfield : Field.ofOption k = Field.ofOption k'
    · rcases Field.ofOption_eq_ofOption hfield (hne h) with ⟨rfl, rfl⟩ | ⟨rfl, rfl⟩
      · exact .inr ⟨v, v', rfl, rfl⟩
      · exact absurd bytes_fPIC_lt (List.lt_asymm h)
    · exact .inl ⟨_, _, rfl, rfl, hfield⟩
  | setting h => exact .inl ⟨_, _, rfl, rfl, fun heq => hne h (Field.setting.inj heq)⟩
  | dependencyName h =>
    exact .inl ⟨_, _, rfl, rfl, fun heq => hne h (Field.dependency.inj heq).1⟩
  | dependencyKey n h =>
    exact .inl ⟨_, _, rfl, rfl, fun heq => hne h (Field.dependency.inj heq).2⟩
  | optionSetting | optionDependency | settingDependency => exact .inl ⟨_, _, rfl, rfl, nofun⟩

end BuildStep

namespace Request

variable {r : Request}

theorem mem_steps_iff {s : BuildStep} : s ∈ r.steps ↔
    (∃ key v, r.options.get? key = some v ∧ s = .option key v) ∨
    (∃ key v, r.settings.get? key = some v ∧ s = .setting key v) ∨
    ∃ name options key v, r.dependencyOptions.get? name = some options ∧
      options.get? key = some v ∧ s = .dependencyOption name key v := by
  simp only [steps, List.mem_append, List.mem_map, List.mem_flatMap, Prod.exists, or_assoc,
    ← SortedMap.get?_eq_some_iff, @eq_comm _ s, exists_and_left]

theorem mem_steps_option {key : String} {v : OptionValue} :
    .option key v ∈ r.steps ↔ r.options.get? key = some v := by
  simp [mem_steps_iff]

theorem pairwise_steps (r : Request) : r.steps.Pairwise BuildStep.Precedes := by
  have hoptions : (r.options.toList.map fun e => BuildStep.option e.1 e.2).Pairwise
      BuildStep.Precedes :=
    List.pairwise_map.2 (r.options.sorted.imp fun h => .option (Text.compare_eq_lt_iff.1 h) _ _)
  have hsettings : (r.settings.toList.map fun e => BuildStep.setting e.1 e.2).Pairwise
      BuildStep.Precedes :=
    List.pairwise_map.2 (r.settings.sorted.imp fun h => .setting (Text.compare_eq_lt_iff.1 h) _ _)
  have hdependencies : (r.dependencyOptions.toList.flatMap fun d =>
      d.2.toList.map fun e => BuildStep.dependencyOption d.1 e.1 e.2).Pairwise
      BuildStep.Precedes := by
    refine List.pairwise_flatMap.2 ⟨fun d _ => ?_, r.dependencyOptions.sorted.imp fun h => ?_⟩
    · exact List.pairwise_map.2
        (d.2.sorted.imp fun h => .dependencyKey _ (Text.compare_eq_lt_iff.1 h) _ _)
    · simp only [List.forall_mem_map]
      exact fun e _ e' _ => .dependencyName (Text.compare_eq_lt_iff.1 h) _ _ _ _
  -- Within each part the steps are ordered by their keys; it remains to compare the parts.
  rw [steps, List.pairwise_append, List.pairwise_append]
  refine ⟨⟨hoptions, hsettings, ?_⟩, hdependencies, ?_⟩
  · simp only [List.forall_mem_map]
    exact fun e _ e' _ => .optionSetting _ _ _ _
  · intro s hs s' hs'
    obtain ⟨d, -, hd⟩ := List.mem_flatMap.1 hs'
    obtain ⟨e', -, rfl⟩ := List.mem_map.1 hd
    rcases List.mem_append.1 hs with hs | hs
    · obtain ⟨e, -, rfl⟩ := List.mem_map.1 hs
      exact .optionDependency _ _ _ _ _
    · obtain ⟨e, -, rfl⟩ := List.mem_map.1 hs
      exact .settingDependency _ _ _ _ _

/-- A request without one of the spellings has its steps about different fields. -/
theorem pairwise_isApart
    (h : ¬(r.options.contains "fPIC" = true ∧ r.options.contains "fpic" = true)) :
    r.steps.Pairwise BuildStep.IsApart := by
  have hcontains {key : String} {v : OptionValue} (hmem : .option key v ∈ r.steps) :
      r.options.contains key = true := by
    rw [SortedMap.contains, mem_steps_option.1 hmem]
    rfl
  refine r.pairwise_steps.imp_of_mem fun hs hs' hlt => ?_
  rcases hlt.isApart_or with hapart | ⟨v, v', rfl, rfl⟩
  · exact hapart
  · exact absurd ⟨hcontains hs, hcontains hs'⟩ h

/-- A request's builder has the value of the second spelling. -/
theorem fpic_of_toBuilder {v : OptionValue} {b : Builder} (hv : r.options.get? "fpic" = some v)
    (hb : r.toBuilder = .ok b) : v.asFlag "fPIC" = .ok b.fpic := by
  obtain ⟨haccepted, rfl⟩ := Builder.runAll_eq_ok_iff.1 hb
  obtain ⟨a, ha⟩ := haccepted _ (mem_steps_option.2 hv)
  obtain ⟨before, after, hsplit⟩ := List.append_of_mem (mem_steps_option.2 hv)
  have hsteps : acceptedAssignments r.steps =
      acceptedAssignments before ++ a :: acceptedAssignments after := by
    rw [hsplit, acceptedAssignments, List.filterMap_append, List.filterMap_cons, ha]
    rfl
  -- The first spelling comes before the second, so nothing after that is about the field.
  have hafter : ∀ a' ∈ acceptedAssignments after, a'.field ≠ .option "fpic" := by
    intro a' ha'
    obtain ⟨s, hs, hassigned⟩ := List.mem_filterMap.1 ha'
    have horder := r.pairwise_steps
    rw [hsplit, List.pairwise_append, List.pairwise_cons] at horder
    rcases (horder.2.1.1 s hs).isApart_or with hapart | ⟨w, w', hw, -⟩
    · have hfield : a.field = .option "fpic" := Assignment.field_of_ofOption ha
      rw [← hfield]
      exact (hapart.field_ne ha (BuildStep.toOption_assignment_eq_some_iff.1 hassigned)).symm
    · exact absurd (BuildStep.option.inj hw).1 (by decide)
  have hflag : Assignment.fpic <$> v.asFlag "fPIC" = .ok a := ha
  rw [run_eq_foldl_assign, hsteps, List.foldl_append, List.foldl_cons,
    Builder.fpic_foldl_assign hafter]
  cases hx : v.asFlag "fPIC" with
  | error e =>
    rw [hx] at hflag
    cases hflag
  | ok x =>
    rw [hx] at hflag
    cases hflag
    rfl

/-- A request fails with the error of its first step that cannot be read. -/
theorem toBuilder_eq_error_iff {e : ConfigError} : r.toBuilder = .error e ↔
    ∃ s ∈ r.steps, s.assignment = .error e ∧ ∀ s' ∈ r.steps, s'.Precedes s → s'.IsAccepted := by
  rw [toBuilder, Builder.runAll_eq_error_iff]
  constructor
  · rintro ⟨before, s, after, hsplit, hbefore, herror⟩
    have horder := r.pairwise_steps
    rw [hsplit, List.pairwise_append, List.pairwise_cons] at horder
    refine ⟨s, hsplit ▸ by simp, herror, fun s' hs' hlt => ?_⟩
    rw [hsplit, List.mem_append, List.mem_cons] at hs'
    rcases hs' with hs' | rfl | hs'
    · exact hbefore s' hs'
    · exact absurd hlt hlt.asymm
    · exact absurd (horder.2.1.1 s' hs') hlt.asymm
  · rintro ⟨s, hs, herror, hfirst⟩
    obtain ⟨before, after, hsplit⟩ := List.append_of_mem hs
    have horder := r.pairwise_steps
    rw [hsplit, List.pairwise_append] at horder
    refine ⟨before, s, after, hsplit, fun s' hs' => ?_, herror⟩
    exact hfirst s' (hsplit ▸ List.mem_append_left _ hs')
      (horder.2.2 s' hs' s List.mem_cons_self)

end Request

/-- **Requests in any order.** The steps of a request are its entries, in order. They lead from the
defaults to a builder, in this order and in every other one, if and only if each of them can be
made alone. If the request does not have both spellings of the request for position-independent
code, it is the same builder in every order; if it has both, the second one counts. Otherwise the
error is that of the first entry that cannot be made. -/
theorem request_reordering_complete (r : Request) :
    (∀ s, s ∈ r.steps ↔
      (∃ key v, r.options.get? key = some v ∧ s = .option key v) ∨
      (∃ key v, r.settings.get? key = some v ∧ s = .setting key v) ∨
      ∃ name options key v, r.dependencyOptions.get? name = some options ∧
        options.get? key = some v ∧ s = .dependencyOption name key v) ∧
    r.steps.Pairwise BuildStep.Precedes ∧
    ((∃ b, r.toBuilder = .ok b) ↔ ∀ s ∈ r.steps, ∃ b, Builder.default.step s = (.ok (), b)) ∧
    (∀ steps : List BuildStep, steps.Perm r.steps →
      ((∃ b, Builder.default.runAll steps = .ok b) ↔ ∃ b, r.toBuilder = .ok b) ∧
      (¬(r.options.contains "fPIC" = true ∧ r.options.contains "fpic" = true) →
        ∀ b, Builder.default.runAll steps = .ok b ↔ r.toBuilder = .ok b)) ∧
    (∀ v v' b, r.options.get? "fPIC" = some v → r.options.get? "fpic" = some v' →
      r.toBuilder = .ok b → v'.asFlag "fPIC" = .ok b.fpic) ∧
    ∀ e, r.toBuilder = .error e ↔
      ∃ s ∈ r.steps, Builder.default.step s = (.error e, .default) ∧
        ∀ s' ∈ r.steps, s'.Precedes s → ∃ b, Builder.default.step s' = (.ok (), b) := by
  simp only [Builder.exists_step_eq_ok_iff, Builder.step_eq_error_iff]
  refine ⟨fun s => Request.mem_steps_iff, r.pairwise_steps, Builder.exists_runAll_eq_ok_iff,
    fun steps hperm => ⟨?_, fun hspelling b => ?_⟩, fun v v' b _ hv' hb =>
    Request.fpic_of_toBuilder hv' hb, fun e => Request.toBuilder_eq_error_iff⟩
  · -- Whether each step can be read has nothing to do with the order.
    rw [Request.toBuilder, Builder.exists_runAll_eq_ok_iff, Builder.exists_runAll_eq_ok_iff]
    simp only [hperm.mem_iff]
  · rw [Request.toBuilder, Builder.runAll_eq_ok_iff, Builder.runAll_eq_ok_iff,
      Builder.run_perm hperm.symm (Request.pairwise_isApart hspelling)]
    simp only [hperm.mem_iff]

/-- A request with an option, two settings of one structure and two options of one dependency leads
to a builder, and backwards to the same one. With both spellings of the request for
position-independent code the second one counts, and backwards the first. Of an option and a setting
that do not exist the option is reported. -/
theorem request_reordering_complete_backwards :
    let entries : Request := ⟨.ofList [("fPIC", .flag false)],
      .ofList [("compiler.toolset", "v143"), ("compiler.generator_platform", "x64")],
      .ofList [("boost", .ofList [("shared", .flag true), ("header_only", .text "no")])]⟩
    let spellings : Request :=
      ⟨.ofList [("fPIC", .flag true), ("fpic", .text "FALSE")], .empty, .empty⟩
    let unknown : Request := ⟨.ofList [("pic", .flag true)], .ofList [("cpu", "x64")], .empty⟩
    (∃ b, entries.toBuilder = .ok b ∧ Builder.default.runAll entries.steps.reverse = .ok b) ∧
      (∃ b b', spellings.toBuilder = .ok b ∧ b.fpic = false ∧
        Builder.default.runAll spellings.steps.reverse = .ok b' ∧ b'.fpic = true) ∧
      unknown.toBuilder = .error (.unknownOption "pic") := by
  intro entries spellings unknown
  have hentries : entries.steps = [.option "fPIC" (.flag false),
      .setting "compiler.generator_platform" "x64", .setting "compiler.toolset" "v143",
      .dependencyOption "boost" "header_only" (.text "no"),
      .dependencyOption "boost" "shared" (.flag true)] := by decide +kernel
  have hspellings : spellings.steps =
      [.option "fPIC" (.flag true), .option "fpic" (.text "FALSE")] := by decide +kernel
  have hunknown : unknown.steps = [.option "pic" (.flag true), .setting "cpu" "x64"] := by
    decide +kernel
  refine ⟨?_, ?_, ?_⟩
  · obtain ⟨-, -, hbuilds, hperm, -⟩ := request_reordering_complete entries
    obtain ⟨b, hb⟩ := hbuilds.2 (by
      simp only [hentries, List.forall_mem_cons]
      exact ⟨⟨_, rfl⟩, ⟨_, rfl⟩, ⟨_, rfl⟩, ⟨_, rfl⟩, ⟨_, rfl⟩, nofun⟩)
    have hone : ¬(entries.options.contains "fPIC" = true ∧
        entries.options.contains "fpic" = true) := by decide +kernel
    exact ⟨b, hb, ((hperm _ entries.steps.reverse_perm).2 hone b).2 hb⟩
  · obtain ⟨-, -, hbuilds, hperm, hcounts, -⟩ := request_reordering_complete spellings
    obtain ⟨b, hb⟩ := hbuilds.2 (by
      simp only [hspellings, List.forall_mem_cons]
      exact ⟨⟨_, rfl⟩, ⟨_, rfl⟩, nofun⟩)
    obtain ⟨b', hb'⟩ := (hperm _ spellings.steps.reverse_perm).1.2 ⟨b, hb⟩
    have hflag := hcounts (.flag true) (.text "FALSE") b (by decide +kernel) (by decide +kernel) hb
    have hfirst : (Builder.default.run spellings.steps.reverse).fpic = true := by
      rw [hspellings]
      decide +kernel
    refine ⟨b, b', hb, (Except.ok.inj hflag).symm, hb', ?_⟩
    rw [(Builder.runAll_eq_ok_iff.1 hb').2, hfirst]
  · refine ((request_reordering_complete unknown).2.2.2.2.2 _).2
      ⟨.option "pic" (.flag true), hunknown ▸ List.mem_cons_self, rfl, fun s hs hlt => ?_⟩
    rw [hunknown, List.mem_cons, List.mem_singleton] at hs
    rcases hs with rfl | rfl
    · exact absurd hlt hlt.asymm
    · cases hlt

end VariantPlan
