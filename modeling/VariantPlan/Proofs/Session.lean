import Mathlib.Tactic.ByContra
import VariantPlan.Proofs.Assignments

/-!
# Final writes of building sessions

A builder consists of **slots**, each of which holds a value that assignments overwrite: the
options, the settings, and one slot for every option of every dependency. The system is apart from
them, since it can also be given as a fallback.

Steps that cannot be read leave a builder as it was. Of the others only the last one to each slot
shows in the builder that a session ends with, and of the system the last choice or else the first
fallback. A session from the defaults leaves no dependency without options, so slots and system
are all there is to its builder.

Main results: `read_assign` and `read_foldl_assign` (what a slot holds after one and after many
assignments), `system_foldl_assign`, `Builder.ext_slot` and `session_determined_by_final_writes`.
-/

namespace VariantPlan

/-! ## Slots -/

/-- A part of a builder that is overwritten as a whole. -/
inductive Slot where
  | geometry
  | optimizer
  | threading
  | shared
  | fpic
  | headerOnly
  | jsBindings
  | tests
  | pythonVersion
  | buildType
  | compilerFamily
  | compilerVersion
  | standard
  | platform
  | toolset
  /-- An option of a dependency. -/
  | option (name key : String)

namespace Slot

/-- What a slot holds. -/
abbrev Value : Slot → Type
  | .geometry => Geometry
  | .optimizer => Optimizer
  | .threading => Threading
  | .shared | .fpic | .headerOnly | .jsBindings | .tests => Bool
  | .pythonVersion => String
  | .buildType => BuildType
  | .compilerFamily | .compilerVersion | .standard | .platform | .toolset => Option String
  | .option .. => Option OptionValue

/-- The value that a builder has in a slot. -/
def read (b : Builder) : (s : Slot) → s.Value
  | .geometry => b.geometry
  | .optimizer => b.optimizer
  | .threading => b.threading
  | .shared => b.shared
  | .fpic => b.fpic
  | .headerOnly => b.headerOnly
  | .jsBindings => b.jsBindings
  | .tests => b.tests
  | .pythonVersion => b.pythonVersion
  | .buildType => b.buildType
  | .compilerFamily => b.compilerFamily
  | .compilerVersion => b.compilerVersion
  | .standard => b.standard
  | .platform => b.generator.platform
  | .toolset => b.generator.toolset
  | .option name key => (b.dependencyOptions.get? name).bind (·.get? key)

/-- The value that an assignment writes to a slot, if it addresses it. -/
def written? (a : Assignment) : (s : Slot) → Option s.Value
  | .geometry => match a with | .geometry x => some x | _ => none
  | .optimizer => match a with | .optimizer x => some x | _ => none
  | .threading => match a with | .threading x => some x | _ => none
  | .shared => match a with | .shared x => some x | _ => none
  | .fpic => match a with | .fpic x => some x | _ => none
  | .headerOnly => match a with | .headerOnly x => some x | _ => none
  | .jsBindings => match a with | .jsBindings x => some x | _ => none
  | .tests => match a with | .tests x => some x | _ => none
  | .pythonVersion => match a with | .pythonVersion x => some x | _ => none
  | .buildType => match a with | .buildType x => some x | _ => none
  | .compilerFamily => match a with | .compilerFamily x => some (some x) | _ => none
  | .compilerVersion => match a with | .compilerVersion x => some (some x) | _ => none
  | .standard => match a with | .standard x => some (some x) | _ => none
  | .platform => match a with | .platform x => some (some x) | _ => none
  | .toolset => match a with | .toolset x => some (some x) | _ => none
  | .option name key => match a with
    | .dependency name' key' x => if name = name' ∧ key = key' then some (some x) else none
    | _ => none

/-- The value of the last assignment to a slot. -/
def last? (l : List Assignment) (s : Slot) : Option s.Value :=
  (l.filterMap fun a => written? a s).getLast?

end Slot

/-! ## Systems -/

namespace Assignment

/-- The system that an assignment chooses, whatever was chosen before. -/
def chosenSystem? : Assignment → Option System
  | .system x => some x
  | _ => none

/-- The system that an assignment offers for the case that none is chosen. -/
def fallbackSystem? : Assignment → Option System
  | .defaultSystem x => some x
  | _ => none

/-- The last choice of a system, or else the first fallback. -/
def finalSystem? (l : List Assignment) : Option System :=
  (l.filterMap chosenSystem?).getLast?.or (l.filterMap fallbackSystem?).head?

end Assignment

/-! ## One assignment -/

theorem read_assign (b : Builder) (a : Assignment) (s : Slot) :
    Slot.read (b.assign a) s = (Slot.written? a s).getD (Slot.read b s) := by
  cases s with
  | option name key =>
    cases a with
    | dependency name' key' x =>
      simp only [Slot.read, Slot.written?, Builder.assign, Builder.withDependencyOption,
        SortedMap.getD]
      rw [SortedMap.get?_insert]
      by_cases hn : name = name'
      · subst hn
        rw [if_pos rfl, Option.bind_some, SortedMap.get?_insert]
        by_cases hk : key = key'
        · rw [if_pos hk, if_pos ⟨rfl, hk⟩, Option.getD_some]
        · rw [if_neg hk, if_neg fun h => hk h.2, Option.getD_none]
          cases b.dependencyOptions.get? name <;> rfl
      · rw [if_neg hn, if_neg fun h => hn h.1, Option.getD_none]
    | _ => rfl
  | _ => cases a <;> rfl

theorem system_assign (b : Builder) (a : Assignment) :
    (b.assign a).system = a.chosenSystem?.or (b.system.or a.fallbackSystem?) := by
  cases a with
  | system x => rfl
  | defaultSystem x =>
    show some (b.system.getD x) = Option.or none (b.system.or (some x))
    cases b.system <;> rfl
  | _ =>
    show b.system = Option.or none (b.system.or none)
    cases b.system <;> rfl

/-! ## Many assignments -/

theorem last?_cons (a : Assignment) (l : List Assignment) (s : Slot) :
    Slot.last? (a :: l) s = (Slot.last? l s).or (Slot.written? a s) := by
  unfold Slot.last?
  rw [List.filterMap_cons]
  cases Slot.written? a s with
  | none => simp
  | some x => simp only [List.getLast?_cons]; cases List.getLast? _ <;> rfl

/-- A slot holds what was written to it last, or what it held before. -/
theorem read_foldl_assign (b : Builder) (l : List Assignment) (s : Slot) :
    Slot.read (l.foldl Builder.assign b) s = (Slot.last? l s).getD (Slot.read b s) := by
  induction l generalizing b with
  | nil => rfl
  | cons a l ih =>
    rw [List.foldl_cons, ih, read_assign, last?_cons]
    cases Slot.last? l s <;> rfl

theorem system_foldl_assign (b : Builder) (l : List Assignment) :
    (l.foldl Builder.assign b).system =
      (l.filterMap Assignment.chosenSystem?).getLast?.or
        (b.system.or (l.filterMap Assignment.fallbackSystem?).head?) := by
  induction l generalizing b with
  | nil =>
    show b.system = Option.or none (b.system.or none)
    cases b.system <;> rfl
  | cons a l ih =>
    rw [List.foldl_cons, ih, system_assign, List.filterMap_cons, List.filterMap_cons]
    cases a with
    | system x =>
      simp only [Assignment.chosenSystem?, List.getLast?_cons]
      cases List.getLast? _ <;> rfl
    | defaultSystem x =>
      simp only [Assignment.chosenSystem?, Assignment.fallbackSystem?]
      cases b.system <;> rfl
    | _ =>
      simp only [Assignment.chosenSystem?, Assignment.fallbackSystem?]
      cases b.system <;> rfl

/-! ## Options of dependencies -/

/-- No dependency is kept without an option. -/
def Builder.OptionsInhabited (b : Builder) : Prop :=
  ∀ name m, b.dependencyOptions.get? name = some m → m ≠ .empty

theorem optionsInhabited_default : Builder.default.OptionsInhabited := by
  intro name m h
  cases h

theorem optionsInhabited_assign {b : Builder} (h : b.OptionsInhabited) (a : Assignment) :
    (b.assign a).OptionsInhabited := by
  cases a with
  | dependency name key x =>
    intro name' m hm hempty
    simp only [Builder.assign, Builder.withDependencyOption] at hm
    rw [SortedMap.get?_insert] at hm
    split at hm
    · have hx : m.get? key = some x := by
        rw [← Option.some.inj hm, SortedMap.get?_insert, if_pos rfl]
      simp [hempty] at hx
    · exact h name' m hm hempty
  | _ => exact h

theorem optionsInhabited_foldl_assign {b : Builder} (h : b.OptionsInhabited)
    (l : List Assignment) : (l.foldl Builder.assign b).OptionsInhabited := by
  induction l generalizing b with
  | nil => exact h
  | cons a l ih => exact ih (optionsInhabited_assign h a)

/-- Maps of maps none of which is empty are equal if all their values are. -/
theorem dependencyOptions_ext {d d' : DependencyOptions}
    (hd : ∀ name m, d.get? name = some m → m ≠ .empty)
    (hd' : ∀ name m, d'.get? name = some m → m ≠ .empty)
    (h : ∀ name key, (d.get? name).bind (·.get? key) = (d'.get? name).bind (·.get? key)) :
    d = d' := by
  refine SortedMap.ext_get? fun name => ?_
  have hn := h name
  cases hm : d.get? name with
  | none =>
    cases hm' : d'.get? name with
    | none => rfl
    | some m' =>
      refine absurd (SortedMap.ext_get? fun key => ?_) (hd' name m' hm')
      simpa [hm, hm'] using (hn key).symm
  | some m =>
    cases hm' : d'.get? name with
    | none =>
      refine absurd (SortedMap.ext_get? fun key => ?_) (hd name m hm)
      simpa [hm, hm'] using hn key
    | some m' =>
      refine congrArg some (SortedMap.ext_get? fun key => ?_)
      simpa [hm, hm'] using hn key

/-- **Extensionality.** Builders without dependencies that lack options are equal if their slots
and their systems are. -/
theorem Builder.ext_slot {b b' : Builder} (hb : b.OptionsInhabited) (hb' : b'.OptionsInhabited)
    (hs : b.system = b'.system) (h : ∀ s : Slot, Slot.read b s = Slot.read b' s) : b = b' := by
  have hd : b.dependencyOptions = b'.dependencyOptions :=
    dependencyOptions_ext hb hb' fun name key => h (.option name key)
  have hg : b.generator = b'.generator := by
    have hp : b.generator.platform = b'.generator.platform := h .platform
    have ht : b.generator.toolset = b'.generator.toolset := h .toolset
    cases hgen : b.generator
    cases hgen' : b'.generator
    simp_all
  cases b
  cases b'
  rw [Builder.mk.injEq]
  exact ⟨h .geometry, h .optimizer, h .threading, h .shared, h .fpic, h .headerOnly, h .jsBindings,
    h .tests, h .pythonVersion, hs, h .buildType, h .compilerFamily, h .compilerVersion,
    h .standard, hg, hd⟩

/-! ## Sessions -/

/-- The assignments of the steps that succeed, in order. -/
def acceptedAssignments (steps : List BuildStep) : List Assignment :=
  steps.filterMap fun s => s.assignment.toOption

theorem accepted_cons (s : BuildStep) (steps : List BuildStep) :
    acceptedAssignments (s :: steps) =
      s.assignment.toOption.toList ++ acceptedAssignments steps := by
  unfold acceptedAssignments
  rw [List.filterMap_cons]
  cases s.assignment.toOption <;> rfl

theorem run_cons (b : Builder) (s : BuildStep) (rest : List BuildStep) :
    (∃ e, b.step s = (.error e, b) ∧ b.run (s :: rest) = b.run rest ∧
      acceptedAssignments (s :: rest) = acceptedAssignments rest) ∨
    (∃ a, b.step s = (.ok (), b.assign a) ∧ b.run (s :: rest) = (b.assign a).run rest ∧
      acceptedAssignments (s :: rest) = a :: acceptedAssignments rest) := by
  rw [accepted_cons]
  cases hs : s.assignment with
  | error e => exact .inl ⟨e, Builder.step_of_error hs, Builder.run_cons_of_error hs, rfl⟩
  | ok a => exact .inr ⟨a, Builder.step_of_ok hs, Builder.run_cons_of_ok hs, rfl⟩

theorem run_eq_foldl_assign (b : Builder) (steps : List BuildStep) :
    b.run steps = (acceptedAssignments steps).foldl Builder.assign b := by
  induction steps generalizing b with
  | nil => rfl
  | cons s rest ih =>
    rcases run_cons b s rest with ⟨e, -, hrun, hacc⟩ | ⟨a, -, hrun, hacc⟩
    · rw [hrun, hacc, ih]
    · rw [hrun, hacc, ih, List.foldl_cons]

theorem read_run (steps : List BuildStep) (s : Slot) :
    Slot.read (Builder.default.run steps) s =
      (Slot.last? (acceptedAssignments steps) s).getD (Slot.read .default s) := by
  rw [run_eq_foldl_assign, read_foldl_assign]

theorem system_run (steps : List BuildStep) :
    (Builder.default.run steps).system = Assignment.finalSystem? (acceptedAssignments steps) := by
  rw [run_eq_foldl_assign, system_foldl_assign]
  rfl

theorem optionsInhabited_run (steps : List BuildStep) :
    (Builder.default.run steps).OptionsInhabited := by
  rw [run_eq_foldl_assign]
  exact optionsInhabited_foldl_assign optionsInhabited_default _

theorem written?_option_eq_some {a : Assignment} {name key : String} {v : Option OptionValue}
    (h : Slot.written? a (.option name key) = some v) :
    ∃ x, a = .dependency name key x ∧ v = some x := by
  cases a with
  | dependency name' key' x =>
    simp only [Slot.written?] at h
    split at h
    next hk =>
      obtain ⟨rfl, rfl⟩ := hk
      exact ⟨x, rfl, (Option.some.inj h).symm⟩
    next => cases h
  | _ => cases h

theorem isSome_read_run_option {steps : List BuildStep} {name key : String} :
    (Slot.read (Builder.default.run steps) (.option name key)).isSome ↔
      ∃ x, .dependency name key x ∈ acceptedAssignments steps := by
  rw [read_run]
  constructor
  · intro h
    cases hl : Slot.last? (acceptedAssignments steps) (.option name key) with
    | none =>
      rw [hl] at h
      cases h
    | some v =>
      obtain ⟨a, ha, hw⟩ := List.mem_filterMap.1 (List.mem_of_getLast? hl)
      obtain ⟨x, rfl, -⟩ := written?_option_eq_some hw
      exact ⟨x, ha⟩
  · -- A value for an option is never taken back, so the last assignment has one too.
    rintro ⟨x, hx⟩
    have hmem : some x ∈
        (acceptedAssignments steps).filterMap fun a => Slot.written? a (.option name key) :=
      List.mem_filterMap.2 ⟨_, hx, if_pos ⟨rfl, rfl⟩⟩
    cases hl : Slot.last? (acceptedAssignments steps) (.option name key) with
    | none =>
      rw [List.getLast?_eq_none_iff.1 hl] at hmem
      cases hmem
    | some v =>
      obtain ⟨a, -, hw⟩ := List.mem_filterMap.1 (List.mem_of_getLast? hl)
      obtain ⟨y, -, rfl⟩ := written?_option_eq_some hw
      rfl

/-- The dependencies with options after a session are those that an option was assigned to. -/
theorem isSome_dependencyOptions_run {steps : List BuildStep} {name : String} :
    ((Builder.default.run steps).dependencyOptions.get? name).isSome ↔
      ∃ key x, .dependency name key x ∈ acceptedAssignments steps := by
  have hr : ∀ key, Slot.read (Builder.default.run steps) (.option name key) =
      ((Builder.default.run steps).dependencyOptions.get? name).bind (·.get? key) := fun _ => rfl
  cases hm : (Builder.default.run steps).dependencyOptions.get? name with
  | none =>
    refine iff_of_false (by simp) fun ⟨key, hx⟩ => ?_
    have := isSome_read_run_option.2 hx
    rw [hr, hm] at this
    cases this
  | some m =>
    -- Without an assignment the map would be empty, and no empty map is kept.
    refine iff_of_true rfl (by_contra fun hnone => optionsInhabited_run steps name m hm ?_)
    refine SortedMap.ext_get? fun key => ?_
    by_contra hkey
    refine hnone ⟨key, isSome_read_run_option.1 ?_⟩
    rw [hr, hm, Option.bind_some]
    exact Option.isSome_iff_ne_none.2 hkey

/-- Sessions that write the same last write the same builder. -/
theorem run_eq_of_last?_eq {steps steps' : List BuildStep}
    (hsys : Assignment.finalSystem? (acceptedAssignments steps) =
      Assignment.finalSystem? (acceptedAssignments steps'))
    (h : ∀ s, Slot.last? (acceptedAssignments steps) s =
      Slot.last? (acceptedAssignments steps') s) :
    Builder.default.run steps = Builder.default.run steps' := by
  refine Builder.ext_slot (optionsInhabited_run steps) (optionsInhabited_run steps') ?_ fun s => ?_
  · rw [system_run, system_run, hsys]
  · rw [read_run, read_run, h]

/-- **Final writes determine a session.** A step fails and leaves the builder as it was, or makes
an assignment. After a session from the defaults each slot holds what was written to it last, or
its default, the system is the last choice or else the first fallback, and the dependencies with
options are those that got one. Both spellings of the request for position-independent code write
to one slot. Sessions with the same final writes lead to the same builder and build the same. -/
theorem session_determined_by_final_writes :
    (∀ (b : Builder) (s : BuildStep) (rest : List BuildStep),
      (∃ e, b.step s = (.error e, b) ∧ b.run (s :: rest) = b.run rest ∧
        acceptedAssignments (s :: rest) = acceptedAssignments rest) ∨
      (∃ a, b.step s = (.ok (), b.assign a) ∧ b.run (s :: rest) = (b.assign a).run rest ∧
        acceptedAssignments (s :: rest) = a :: acceptedAssignments rest)) ∧
    (∀ (steps : List BuildStep) (s : Slot), Slot.read (Builder.default.run steps) s =
      (Slot.last? (acceptedAssignments steps) s).getD (Slot.read .default s)) ∧
    (∀ steps : List BuildStep,
      (Builder.default.run steps).system = Assignment.finalSystem? (acceptedAssignments steps)) ∧
    (∀ (steps : List BuildStep) (name : String),
      ((Builder.default.run steps).dependencyOptions.get? name).isSome ↔
        ∃ key x, Assignment.dependency name key x ∈ acceptedAssignments steps) ∧
    (∀ value : OptionValue,
      (∀ b : Builder, b.step (.option "fPIC" value) = b.step (.option "fpic" value)) ∧
      (BuildStep.option "fPIC" value).assignment = Assignment.fpic <$> value.asFlag "fPIC" ∧
      (BuildStep.option "fpic" value).assignment = Assignment.fpic <$> value.asFlag "fPIC") ∧
    (∀ steps steps' : List BuildStep,
      Assignment.finalSystem? (acceptedAssignments steps) =
        Assignment.finalSystem? (acceptedAssignments steps') →
      (∀ s, Slot.last? (acceptedAssignments steps) s =
        Slot.last? (acceptedAssignments steps') s) →
        Builder.default.run steps = Builder.default.run steps' ∧
        (Builder.default.run steps).build = (Builder.default.run steps').build) := by
  refine ⟨run_cons, read_run, system_run, fun _ _ => isSome_dependencyOptions_run,
    fun _ => ⟨fun _ => rfl, rfl, rfl⟩, ?_⟩
  intro steps steps' hsys hlast
  have hrun := run_eq_of_last?_eq hsys hlast
  exact ⟨hrun, by rw [hrun]⟩

/-- A session with a fallback system, a step that fails, and tokens writes last what a session of
two plain steps does. -/
theorem session_determined_by_final_writes_tokens :
    let steps : List BuildStep := [.defaultSystem .windows, .option "fPIC" (.flag true),
      .settingToken " os = linux ", .option "threading" (.text "bogus"),
      .optionToken "fpic=FALSE", .defaultSystem .macos]
    let steps' : List BuildStep := [.option "fPIC" (.flag false), .setting "os" "Linux"]
    (∃ e, Builder.default.step (.option "threading" (.text "bogus")) = (.error e, .default)) ∧
      Builder.default.run steps = Builder.default.run steps' := by
  intro steps steps'
  have hacc : acceptedAssignments steps = [.defaultSystem .windows, .fpic true, .system .linux,
      .fpic false, .defaultSystem .macos] := by decide +kernel
  have hacc' : acceptedAssignments steps' = [.fpic false, .system .linux] := by decide +kernel
  refine ⟨⟨_, rfl⟩, (session_determined_by_final_writes.2.2.2.2.2 steps steps' ?_ fun s => ?_).1⟩
  · rw [hacc, hacc']
    rfl
  · rw [hacc, hacc']
    cases s <;> rfl

end VariantPlan
