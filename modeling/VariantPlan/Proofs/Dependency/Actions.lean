import VariantPlan.Dependency.Rule

/-!
# Lists of actions

An action **revises** each requirement that is there and may **add** one behind them. Actions one
after another therefore revise the first requirements by all of them, and each added requirement by
the actions after it (`RuleAction.value_foldlM_apply`).

For lists of one kind of action this can be read off: requiring adds, forcing revises. Rules, one
after another, are the list of their actions (`DependencyRule.value_foldlM_apply`).
-/

namespace VariantPlan

/-! ## Forced options -/

namespace Requirement

/-- Force options, one after another. -/
def forceEach (r : Requirement) (l : List (String × OptionValue)) : Requirement :=
  l.foldl (fun r e => r.force e.1 e.2) r

theorem forceEach_eq (r : Requirement) (l : List (String × OptionValue)) :
    r.forceEach l = { r with options := (r.forceEach l).options } := by
  induction l generalizing r with
  | nil => rfl
  | cons e l ih => exact ih (r.force e.1 e.2)

end Requirement

/-! ## One action -/

theorem isRequired_iff {name : String} {rs : List Requirement} :
    isRequired name rs = true ↔ name ∈ rs.map Requirement.name := by
  rw [isRequired, List.any_eq_true, List.mem_map]
  simp only [beq_iff_eq]

namespace RuleAction

/-- What an action does to a requirement that is there. -/
def revise (a : RuleAction) (r : Requirement) : Requirement :=
  match a with
  | .require _ => r
  | .force p key value => if r.name == p.name then r.force key value else r
  | .forceAll key value => r.force key value

/-- The requirement that an action adds to requirements of the given names: one for a package that
is not among them, with the options that the caller has for it. -/
def added (seeds : DependencyOptions) (names : List String) : RuleAction → List Requirement
  | .require p =>
    if p.name ∈ names then [] else [.ofPackage p .library (seeds.getD p.name .empty)]
  | .force .. | .forceAll .. => []

theorem name_revise (a : RuleAction) (r : Requirement) : (a.revise r).name = r.name := by
  cases a with
  | require p => rfl
  | force p key value =>
    show (if r.name == p.name then r.force key value else r).name = r.name
    split <;> rfl
  | forceAll key value => rfl

theorem map_name_revise (a : RuleAction) (rs : List Requirement) :
    (rs.map a.revise).map Requirement.name = rs.map Requirement.name := by
  rw [List.map_map]
  exact List.map_congr_left fun r _ => a.name_revise r

/-- An action revises the requirements that are there and adds its own behind them. -/
theorem value_apply (seeds : DependencyOptions) (rs : List Requirement) (a : RuleAction) :
    (a.apply seeds rs).value = rs.map a.revise ++ a.added seeds (rs.map Requirement.name) := by
  cases a with
  | require p =>
    have hrevise : rs.map (RuleAction.require p).revise = rs := List.map_id' rs
    rw [hrevise]
    by_cases h : p.name ∈ rs.map Requirement.name
    · rw [apply, if_pos (isRequired_iff.2 h), added, if_pos h, List.append_nil]
      rfl
    · rw [apply, if_neg (mt isRequired_iff.1 h), added, if_neg h]
      rfl
  | force p key value => exact (List.append_nil _).symm
  | forceAll key value => exact (List.append_nil _).symm

/-! ## Many actions -/

/-- What actions do, one after another, to a requirement that is there. -/
def reviseAll (as : List RuleAction) (r : Requirement) : Requirement :=
  as.foldl (fun r a => a.revise r) r

/-- The requirements that actions add to requirements of the given names, each revised by the
actions after it. -/
def addedBy (seeds : DependencyOptions) : List String → List RuleAction → List Requirement
  | _, [] => []
  | names, a :: as =>
    (a.added seeds names).map (reviseAll as) ++
      addedBy seeds (names ++ (a.added seeds names).map Requirement.name) as

theorem name_reviseAll (as : List RuleAction) (r : Requirement) :
    (reviseAll as r).name = r.name := by
  induction as generalizing r with
  | nil => rfl
  | cons a as ih => exact (ih (a.revise r)).trans (a.name_revise r)

theorem map_name_reviseAll (as : List RuleAction) (rs : List Requirement) :
    (rs.map (reviseAll as)).map Requirement.name = rs.map Requirement.name := by
  rw [List.map_map]
  exact List.map_congr_left fun r _ => name_reviseAll as r

theorem value_foldlM_apply (seeds : DependencyOptions) (rs : List Requirement)
    (as : List RuleAction) :
    (as.foldlM (RuleAction.apply seeds) rs).value =
      rs.map (reviseAll as) ++ addedBy seeds (rs.map Requirement.name) as := by
  induction as generalizing rs with
  | nil => exact (List.map_id' rs).symm.trans (List.append_nil _).symm
  | cons a as ih =>
    rw [List.foldlM_cons, Logged.value_bind, ih, value_apply, List.map_append, List.map_map,
      List.map_append, map_name_revise, addedBy, ← List.append_assoc]
    rfl

/-- Later actions revise what earlier ones add. -/
theorem addedBy_append (seeds : DependencyOptions) (names : List String)
    (as bs : List RuleAction) :
    addedBy seeds names (as ++ bs) = (addedBy seeds names as).map (reviseAll bs) ++
      addedBy seeds (names ++ (addedBy seeds names as).map Requirement.name) bs := by
  induction as generalizing names with
  | nil => simp [addedBy]
  | cons a as ih =>
    have hrevise : (reviseAll bs) ∘ (reviseAll as) = reviseAll (as ++ bs) := by
      funext r
      exact List.foldl_append.symm
    rw [List.cons_append, addedBy, ih, addedBy, List.map_append, List.map_map, hrevise,
      List.map_append, map_name_reviseAll, List.append_assoc, List.append_assoc]

theorem reviseAll_map_require (ps : List Package) (r : Requirement) :
    reviseAll (ps.map .require) r = r := by
  induction ps with
  | nil => rfl
  | cons p ps ih => exact ih

/-- Packages that are not there yet are added in order, each once. -/
theorem addedBy_map_require (seeds : DependencyOptions) {names : List String} {ps : List Package}
    (h : (names ++ ps.map Package.name).Nodup) :
    addedBy seeds names (ps.map .require) =
      ps.map fun p => .ofPackage p .library (seeds.getD p.name .empty) := by
  induction ps generalizing names with
  | nil => rfl
  | cons p ps ih =>
    have hadded : (RuleAction.require p).added seeds names =
        [.ofPackage p .library (seeds.getD p.name .empty)] :=
      if_neg fun hp => (List.nodup_append.1 h).2.2 _ hp _ List.mem_cons_self rfl
    have hrest : ((names ++ [p.name]) ++ ps.map Package.name).Nodup := by
      rw [List.append_assoc]
      exact h
    rw [List.map_cons, addedBy, hadded, List.map_singleton, reviseAll_map_require,
      List.map_singleton]
    exact congrArg _ (ih hrest)

theorem reviseAll_map_force (p : Package) (l : List (String × OptionValue)) (r : Requirement) :
    reviseAll (l.map fun e => .force p e.1 e.2) r =
      if r.name = p.name then r.forceEach l else r := by
  induction l generalizing r with
  | nil => simp [reviseAll, Requirement.forceEach]
  | cons e l ih =>
    have hcons : reviseAll ((e :: l).map fun e => .force p e.1 e.2) r =
        reviseAll (l.map fun e => .force p e.1 e.2) ((RuleAction.force p e.1 e.2).revise r) := rfl
    rw [hcons, ih, name_revise]
    by_cases h : r.name = p.name
    · rw [if_pos h, if_pos h, revise, if_pos (beq_iff_eq.2 h)]
      rfl
    · rw [if_neg h, if_neg h, revise, if_neg (mt beq_iff_eq.1 h)]

theorem addedBy_map_force (seeds : DependencyOptions) (names : List String) (p : Package)
    (l : List (String × OptionValue)) :
    addedBy seeds names (l.map fun e => .force p e.1 e.2) = [] := by
  induction l generalizing names with
  | nil => rfl
  | cons e l ih => exact ih _

theorem reviseAll_map_forceAll (l : List (String × OptionValue)) (r : Requirement) :
    reviseAll (l.map fun e => .forceAll e.1 e.2) r = r.forceEach l := by
  rw [reviseAll, List.foldl_map]
  rfl

theorem addedBy_map_forceAll (seeds : DependencyOptions) (names : List String)
    (l : List (String × OptionValue)) :
    addedBy seeds names (l.map fun e => .forceAll e.1 e.2) = [] := by
  induction l generalizing names with
  | nil => rfl
  | cons e l ih => exact ih _

end RuleAction

/-! ## Rules -/

namespace DependencyRule

theorem value_foldlM_apply (v : Variant) (rs : List Requirement) (rules : List DependencyRule) :
    (rules.foldlM (DependencyRule.apply v) rs).value =
      ((rules.flatMap (·.actions v)).foldlM (RuleAction.apply v.dependencyOptions) rs).value := by
  induction rules generalizing rs with
  | nil => rfl
  | cons r rules ih =>
    -- The value of a rule is that of the fold over its actions; joined lists are one fold.
    rw [List.foldlM_cons, Logged.value_bind, ih, List.flatMap_cons, Logged.value_foldlM,
      Logged.value_foldlM, List.foldl_append, ← Logged.value_foldlM _ rs]
    rfl

end DependencyRule

end VariantPlan
