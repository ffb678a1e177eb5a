import VariantPlan.Document.Identity
import VariantPlan.Proofs.Interchange
import VariantPlan.Proofs.Sets

/-!
# Complete validation

Each of the three gates is read as a condition on the variant's own data. A standard is too early by
its year alone, since of the two standards of 2017 neither comes before the required one. A version
comes before the first supported one if its major number is smaller, or if it is a pre-release of
that very version; its build labels do not count.

Accepted variants are normalized, and two variants have one normal form if and only if they agree
but for what normalizing overwrites.

Main results: `precedes_release_iff` and `precedes_requiredStandard_iff` (the gates),
`validate?_eq_error_iff` and `validate?_eq_ok_iff` (the verdict by the first fault),
`normalize_eq_iff` and `validation_complete`.
-/

namespace VariantPlan

/-! ## Orders -/

/-- A version comes before the first one of a major number if its own major number is smaller, or if
it is a pre-release of that version. -/
def Version.IsBefore (v : Version) (major : UInt64) : Prop :=
  v.major < major ∨ v.major = major ∧ v.minor = 0 ∧ v.patch = 0 ∧ v.pre ≠ []

theorem Version.precedes_release_iff {v : Version} {major : UInt64} :
    v.precedes (release major 0 0) = true ↔ v.IsBefore major := by
  have hnumber (n : UInt64) : compare n 0 = .lt ↔ False :=
    iff_false_intro fun h => UInt64.not_lt_zero (Std.compare_eq_lt.1 h)
  have hpre : (if v.pre.isEmpty then Ordering.eq else .lt) = .lt ↔ v.pre ≠ [] := by
    cases v.pre <;> simp
  rw [precedes, beq_iff_eq, precedence_release, Ordering.then_eq_lt, Ordering.then_eq_lt,
    Ordering.then_eq_lt, hnumber, hnumber, hpre, false_or, false_or, Std.compare_eq_lt,
    Std.compare_eq_iff_eq, Std.compare_eq_iff_eq, Std.compare_eq_iff_eq]
  rfl

/-- Before the required standard come the standards of earlier years, and no others. -/
theorem CppStandard.precedes_requiredStandard_iff {s : CppStandard} :
    s.precedes requiredStandard = true ↔ s.year < 2017 := by
  have hdialect : compare s.gnu requiredStandard.gnu ≠ .lt := by
    cases s.gnu <;> decide
  have hthen : compare s requiredStandard = (compare s.year 2017).then
      (compare s.gnu requiredStandard.gnu) := rfl
  rw [precedes, beq_iff_eq, hthen, Ordering.then_eq_lt, Std.compare_eq_lt]
  exact or_iff_left fun h => hdialect h.2

/-- The first supported version of a family is in the table, and is the first one of a major
number. -/
theorem Compiler.minimumVersion?_eq_some_iff {family : String} {minimum : Version} :
    minimumVersion? family = some minimum ↔
      ∃ major, minimum = .release major 0 0 ∧ (family, .release major 0 0) ∈ minimumVersions := by
  have hmajor : ∀ row ∈ minimumVersions, row.2 = .release row.2.major 0 0 := by decide
  rw [minimumVersion?, lookup_eq_some_iff_mem (by decide)]
  constructor
  · intro h
    exact ⟨minimum.major, hmajor _ h, hmajor _ h ▸ h⟩
  · rintro ⟨major, rfl, h⟩
    exact h

/-! ## Verdicts -/

namespace Variant

/-- The compiler is set to a standard of a year before 2017. -/
def HasEarlyStandard (v : Variant) : Prop :=
  ∃ s, v.compiler.standard = some s ∧ s.year < 2017

/-- The compiler comes before the first supported version of its family. -/
def HasEarlyVersion (v : Variant) : Prop :=
  ∃ major, (v.compiler.family, .release major 0 0) ∈ Compiler.minimumVersions ∧
    v.compiler.version.IsBefore major

/-- The threading backend needs a runtime that the system does not have. -/
def LacksRuntime (v : Variant) : Prop :=
  v.system = .emscripten ∧ (v.threading = .tbb ∨ v.threading = .omp)

theorem standardFault?_eq_some_iff {v : Variant} {e : ConfigError} :
    v.standardFault? = some e ↔ ∃ s, v.compiler.standard = some s ∧ s.year < 2017 ∧
      e = .standardTooLow v.compiler.family v.compiler.version s := by
  unfold standardFault?
  cases v.compiler.standard with
  | none => simp
  | some s =>
    simp only [CppStandard.precedes_requiredStandard_iff, Option.ite_none_right_eq_some,
      Option.some.injEq, exists_eq_left', @eq_comm _ e]

theorem versionFault?_eq_some_iff {v : Variant} {e : ConfigError} :
    v.versionFault? = some e ↔ ∃ major,
      (v.compiler.family, .release major 0 0) ∈ Compiler.minimumVersions ∧
      v.compiler.version.IsBefore major ∧
      e = .compilerTooOld v.compiler.family v.compiler.version (.release major 0 0) := by
  unfold versionFault?
  cases hminimum : Compiler.minimumVersion? v.compiler.family with
  | none =>
    refine iff_of_false nofun ?_
    rintro ⟨major, hmem, -, -⟩
    rw [Compiler.minimumVersion?_eq_some_iff.2 ⟨major, rfl, hmem⟩] at hminimum
    cases hminimum
  | some minimum =>
    obtain ⟨major, rfl, hmem⟩ := Compiler.minimumVersion?_eq_some_iff.1 hminimum
    simp only [Version.precedes_release_iff, Option.ite_none_right_eq_some, Option.some.injEq]
    constructor
    · rintro ⟨hbefore, rfl⟩
      exact ⟨major, hmem, hbefore, rfl⟩
    · rintro ⟨major', hmem', hbefore, rfl⟩
      have hsame := Compiler.minimumVersion?_eq_some_iff.2 ⟨major', rfl, hmem'⟩
      rw [hminimum, Option.some.injEq] at hsame
      obtain rfl : major = major' := congrArg Version.major hsame
      exact ⟨hbefore, rfl⟩

theorem runtimeFault?_eq_some_iff {v : Variant} {e : ConfigError} :
    v.runtimeFault? = some e ↔ v.LacksRuntime ∧ e = .noThreadRuntime v.threading := by
  have hneeds : v.threading.needsRuntime = true ↔ v.threading = .tbb ∨ v.threading = .omp := by
    cases v.threading <;> decide
  unfold runtimeFault? LacksRuntime
  rw [Option.ite_none_right_eq_some, Bool.and_eq_true, beq_iff_eq, hneeds, Option.some.injEq,
    @eq_comm _ e]

/-! ### The absence of faults -/

theorem eq_none_iff_of_exists_iff {α : Type} {fault? : Option α} {p : Prop}
    (h : (∃ e, fault? = some e) ↔ p) : fault? = none ↔ ¬p := by
  rw [← h, ← Option.isSome_iff_exists, Option.not_isSome_iff_eq_none]

theorem standardFault?_eq_none_iff {v : Variant} :
    v.standardFault? = none ↔ ¬v.HasEarlyStandard := by
  refine eq_none_iff_of_exists_iff ?_
  simp only [standardFault?_eq_some_iff]
  constructor
  · rintro ⟨-, s, hs, hyear, -⟩
    exact ⟨s, hs, hyear⟩
  · rintro ⟨s, hs, hyear⟩
    exact ⟨_, s, hs, hyear, rfl⟩

theorem versionFault?_eq_none_iff {v : Variant} : v.versionFault? = none ↔ ¬v.HasEarlyVersion := by
  refine eq_none_iff_of_exists_iff ?_
  simp only [versionFault?_eq_some_iff]
  constructor
  · rintro ⟨-, major, hmem, hbefore, -⟩
    exact ⟨major, hmem, hbefore⟩
  · rintro ⟨major, hmem, hbefore⟩
    exact ⟨_, major, hmem, hbefore, rfl⟩

theorem runtimeFault?_eq_none_iff {v : Variant} : v.runtimeFault? = none ↔ ¬v.LacksRuntime := by
  refine eq_none_iff_of_exists_iff ?_
  simp only [runtimeFault?_eq_some_iff]
  constructor
  · rintro ⟨-, hlacks, -⟩
    exact hlacks
  · intro hlacks
    exact ⟨_, hlacks, rfl⟩

theorem fault?_eq_none_iff {v : Variant} :
    v.fault? = none ↔ ¬v.HasEarlyStandard ∧ ¬v.HasEarlyVersion ∧ ¬v.LacksRuntime := by
  rw [fault?, Option.or_eq_none_iff, Option.or_eq_none_iff, standardFault?_eq_none_iff,
    versionFault?_eq_none_iff, runtimeFault?_eq_none_iff]

/-! ### Validating -/

theorem validate?_eq_error_iff {v : Variant} {e : ConfigError} :
    v.validate? = .error e ↔ v.fault? = some e := by
  unfold validate?
  split
  next e' h => rw [h, Except.error.injEq, Option.some.injEq]
  next h => simp [h]

theorem validate?_eq_ok_iff {v : Variant} {a : ValidVariant} :
    v.validate? = .ok a ↔ v.fault? = none ∧ a.toVariant = v.normalize := by
  constructor
  · intro h
    refine ⟨?_, toVariant_of_validate? h⟩
    rw [← fault?_normalize, ← toVariant_of_validate? h, a.accepted]
  · rintro ⟨hfault, hnormal⟩
    unfold validate?
    split
    next e h => simp [h] at hfault
    next h => exact congrArg Except.ok (ValidVariant.ext hnormal.symm)

/-! ## Normal forms -/

theorem fpicApplies_eq_false_iff {v : Variant} : v.fpicApplies = false ↔
    v.shared = true ∨ v.compiler.isMsvcClass = true ∨ v.system = .windows := by
  unfold fpicApplies
  cases v.shared <;> cases v.compiler.isMsvcClass <;> simp

/-- Two variants agree but for what normalizing overwrites: the request for position-independent
code where there is no question, and the generator settings of MSVC-class compilers. -/
structure AgreesUnlessSettled (v w : Variant) : Prop where
  rest : { w with fpic := v.fpic, generator := v.generator } = v
  fpic : v.fpicApplies = true → w.fpic = v.fpic
  generator : v.compiler.isMsvcClass = false → w.generator = v.generator

theorem fpic_normalize (v : Variant) :
    v.normalize.fpic = if v.fpicApplies then v.fpic else .notApplicable := rfl

theorem generator_normalize (v : Variant) :
    v.normalize.generator = if v.compiler.isMsvcClass then .unset else v.generator := rfl

theorem normalize_eq_iff {v w : Variant} : v.normalize = w.normalize ↔ v.AgreesUnlessSettled w := by
  constructor
  · intro h
    -- The conditions for overwriting read nothing that is overwritten.
    have happlies : v.fpicApplies = w.fpicApplies := (congrArg fpicApplies h :)
    have hclass : v.compiler.isMsvcClass = w.compiler.isMsvcClass :=
      congrArg (·.compiler.isMsvcClass) h
    have hrest : { w with fpic := v.fpic, generator := v.generator } = v :=
      congrArg (fun u : Variant => { u with fpic := v.fpic, generator := v.generator }) h.symm
    refine ⟨hrest, fun hv => ?_, fun hv => ?_⟩
    · have hfpic := congrArg Variant.fpic h
      rw [fpic_normalize, fpic_normalize, ← happlies, if_pos hv, if_pos hv] at hfpic
      exact hfpic.symm
    · have hgenerator := congrArg Variant.generator h
      rw [generator_normalize, generator_normalize, ← hclass, hv] at hgenerator
      exact hgenerator.symm
  · rintro ⟨hrest, hfpic, hgenerator⟩
    have happlies : w.fpicApplies = v.fpicApplies := (congrArg fpicApplies hrest :)
    have hclass : w.compiler.isMsvcClass = v.compiler.isMsvcClass :=
      congrArg (·.compiler.isMsvcClass) hrest
    have hsettled : w.normalize.fpic = v.normalize.fpic := by
      rw [fpic_normalize, fpic_normalize, happlies]
      split
      next hv => exact hfpic hv
      next => rfl
    have hcleared : w.normalize.generator = v.normalize.generator := by
      rw [generator_normalize, generator_normalize, hclass]
      split
      next => rfl
      next hv => exact hgenerator (Bool.eq_false_iff.2 hv)
    calc v.normalize
        = { v with fpic := v.normalize.fpic, generator := v.normalize.generator } := rfl
      _ = { w with fpic := w.normalize.fpic, generator := w.normalize.generator } := by
        rw [hsettled, hcleared]
        exact congrArg (fun u : Variant =>
          { u with fpic := v.normalize.fpic, generator := v.normalize.generator }) hrest.symm
      _ = w.normalize := rfl

/-- What normalizing overwrites, by the conditions for it. -/
theorem normalize_eq (v : Variant) : v.normalize = { v with
    fpic := if v.shared = true ∨ v.compiler.isMsvcClass = true ∨ v.system = .windows
      then .notApplicable else v.fpic
    generator := if v.compiler.isMsvcClass = true then .unset else v.generator } := by
  have hfpic : v.normalize.fpic =
      if v.shared = true ∨ v.compiler.isMsvcClass = true ∨ v.system = .windows
        then .notApplicable else v.fpic := by
    rw [fpic_normalize]
    split
    next happlies =>
      have hnot := mt fpicApplies_eq_false_iff.2 (Bool.not_eq_false _ ▸ happlies)
      rw [if_neg hnot]
    next happlies => rw [if_pos (fpicApplies_eq_false_iff.1 (Bool.eq_false_iff.2 happlies))]
  rw [← hfpic]
  rfl

theorem validate?_eq_of_normalize_eq {v w : Variant} (h : v.normalize = w.normalize) :
    v.validate? = w.validate? := by
  have hfault : v.fault? = w.fault? := by
    rw [← fault?_normalize v, h, fault?_normalize]
  cases hv : v.validate? with
  | error e =>
    rw [validate?_eq_error_iff, hfault] at hv
    exact (validate?_eq_error_iff.2 hv).symm
  | ok a =>
    rw [validate?_eq_ok_iff, hfault, h] at hv
    exact (validate?_eq_ok_iff.2 hv).symm

end Variant

/-- **Validation is complete.** A variant is refused for a standard of a year before 2017, or else
for a version before the first supported one of its family, or else for a threading backend without
a runtime on its system, and for nothing else.

An accepted variant loses its request for position-independent code if it is shared, has an
MSVC-class compiler or is for Windows, and its generator settings if it has an MSVC-class compiler,
and keeps the rest. It is then accepted again and comes back unchanged. Variants that agree but for
what is overwritten get the same verdict, with the same package id if they are accepted; and those
that are accepted as the same variant agree in this sense. -/
theorem validation_complete (v : Variant) :
    (∀ e, v.validate? = .error e ↔
      (∃ s, v.compiler.standard = some s ∧ s.year < 2017 ∧
        e = .standardTooLow v.compiler.family v.compiler.version s) ∨
      ¬v.HasEarlyStandard ∧
        ((∃ major, (v.compiler.family, .release major 0 0) ∈ Compiler.minimumVersions ∧
          v.compiler.version.IsBefore major ∧
          e = .compilerTooOld v.compiler.family v.compiler.version (.release major 0 0)) ∨
        ¬v.HasEarlyVersion ∧ v.LacksRuntime ∧ e = .noThreadRuntime v.threading)) ∧
    ((∃ a, v.validate? = .ok a) ↔
      ¬v.HasEarlyStandard ∧ ¬v.HasEarlyVersion ∧ ¬v.LacksRuntime) ∧
    (∀ a, v.validate? = .ok a →
      a.toVariant = { v with
        fpic := if v.shared = true ∨ v.compiler.isMsvcClass = true ∨ v.system = .windows
          then .notApplicable else v.fpic
        generator := if v.compiler.isMsvcClass = true then .unset else v.generator } ∧
      a.toVariant.validate? = .ok a) ∧
    (∀ w, v.AgreesUnlessSettled w → v.validate? = w.validate? ∧
      v.validate?.map ValidVariant.packageId = w.validate?.map ValidVariant.packageId) ∧
    ∀ w a, v.validate? = .ok a → w.validate? = .ok a → v.AgreesUnlessSettled w := by
  refine ⟨fun e => ?_, ?_, fun a ha => ⟨?_, Variant.validate?_toVariant a⟩, fun w hw => ?_,
    fun w a hv hw => ?_⟩
  · -- The gates in their order: the standard, the version, the threading runtime.
    rw [Variant.validate?_eq_error_iff, Variant.fault?, Option.or_eq_some_iff,
      Option.or_eq_some_iff, Variant.standardFault?_eq_some_iff, Variant.versionFault?_eq_some_iff,
      Variant.runtimeFault?_eq_some_iff, Variant.standardFault?_eq_none_iff,
      Variant.versionFault?_eq_none_iff]
  · rw [← Variant.fault?_eq_none_iff]
    constructor
    · rintro ⟨a, ha⟩
      exact (Variant.validate?_eq_ok_iff.1 ha).1
    · intro hfault
      exact ⟨⟨v.normalize, (Variant.fault?_normalize v).trans hfault, Variant.normalize_idem v⟩,
        Variant.validate?_eq_ok_iff.2 ⟨hfault, rfl⟩⟩
  · rw [toVariant_of_validate? ha, v.normalize_eq]
  · have hverdict := Variant.validate?_eq_of_normalize_eq (Variant.normalize_eq_iff.2 hw)
    exact ⟨hverdict, by rw [hverdict]⟩
  · rw [← Variant.normalize_eq_iff, ← toVariant_of_validate? hv, ← toVariant_of_validate? hw]

/-- A release candidate of the first supported version is refused, with an early standard beside it
for the standard, and the release with a build label is accepted. A static build for Windows loses
its request for position-independent code and keeps its toolset, like the build without the
request. -/
theorem validation_complete_candidate :
    ∃ candidate release windows : Variant,
      candidate.validate? =
        .error (.compilerTooOld "gcc" candidate.compiler.version (.release 9 0 0)) ∧
      ({ candidate with compiler.standard := some ⟨98, true⟩ } : Variant).validate? =
        .error (.standardTooLow "gcc" candidate.compiler.version ⟨98, true⟩) ∧
      (∃ a, release.validate? = .ok a) ∧
      windows.validate? = ({ windows with fpic := .notApplicable } : Variant).validate? ∧
      ∀ a, windows.validate? = .ok a → windows.fpic = .enabled ∧ a.fpic = .notApplicable ∧
        a.generator.toolset = some "llvm" ∧ a.toVariant.validate? = .ok a := by
  let gcc (version : Version) : Variant := { Variant.sample with
    threading := .tbb, compiler := ⟨"gcc", version, none⟩ }
  let candidate := gcc ⟨9, 0, 0, [.number 1], []⟩
  let release := gcc ⟨9, 0, 0, [], [⟨['b'], by decide, by decide⟩]⟩
  let windows : Variant := { gcc (.release 14 0 0) with
    shared := false, fpic := .enabled, system := .windows, compiler.family := "clang"
    generator := ⟨none, some "llvm"⟩ }
  refine ⟨candidate, release, windows, ?_, ?_, ?_, ?_, fun a ha => ?_⟩
  · refine ((validation_complete candidate).1 _).2 (.inr ⟨?_, .inl ⟨9, ?_, ?_, rfl⟩⟩)
    · rintro ⟨s, hs, -⟩
      cases hs
    · decide
    · exact .inr ⟨rfl, rfl, rfl, by decide⟩
  · exact ((validation_complete _).1 _).2 (.inl ⟨_, rfl, by decide, rfl⟩)
  · refine (validation_complete release).2.1.2 ⟨?_, ?_, ?_⟩
    · rintro ⟨s, hs, -⟩
      cases hs
    · rintro ⟨major, hmem, hbefore⟩
      obtain rfl : major = 9 := by
        simpa [release, gcc, Compiler.minimumVersions, Version.release] using hmem
      obtain hlt | ⟨-, -, -, hpre⟩ := hbefore
      · exact absurd hlt (by decide)
      · exact hpre rfl
    · rintro ⟨hsystem, -⟩
      cases hsystem
  · exact ((validation_complete windows).2.2.2.1 _ ⟨rfl, by decide, fun _ => rfl⟩).1
  · obtain ⟨hvariant, hagain⟩ := (validation_complete windows).2.2.1 a ha
    refine ⟨rfl, ?_, ?_, hagain⟩
    · rw [hvariant]
      rfl
    · rw [hvariant]
      rfl

end VariantPlan
