import VariantPlan.Proofs.Family
import VariantPlan.Proofs.Session
import VariantPlan.Proofs.Validation

/-!
# Built variants

A builder builds when its system and its compiler are set and the compiler's version and standard
can be read. What it **lacks** is looked for in this order, and the first lack is reported. Texts
are read only then, so a session may have put anything in their place before.

A built variant is **settled**: its family is in normal form, its version is a release, and there
is no request for position-independent code exactly where there is no question of it. Validation
finds nothing left to do about these.

Main results: `Builder.build_eq_error_iff`, `Builder.build_eq_ok_iff`, `Builder.isSettled_of_build`,
and `build_complete` for the builders that sessions lead to.
-/

namespace VariantPlan

/-! ## Compilers from texts -/

namespace Compiler

theorem exists_release_of_readVersion {raw : String} {v : Version} (h : readVersion raw = .ok v) :
    ∃ major minor patch, v = .release major minor patch := by
  simp only [readVersion] at h
  split at h
  · cases h
  · cases hnumbers : ((Text.trim raw.toList).splitOn '.').mapM (readPart raw) with
    | error e =>
      rw [hnumbers] at h
      cases h
    | ok numbers =>
      rw [hnumbers] at h
      cases h
      exact ⟨_, _, _, rfl⟩

section

variable {family text standard : String} {version : Version} {e : ConfigError}

theorem ofTexts_of_version_error (h : readVersion text = .error e) (s : Option String) :
    ofTexts family text s = .error e := by
  unfold ofTexts
  rw [h]
  rfl

theorem ofTexts_none (h : readVersion text = .ok version) :
    ofTexts family text none = .ok ⟨normalizeFamily family, version, none⟩ := by
  unfold ofTexts
  rw [h]
  rfl

theorem ofTexts_some {s : CppStandard} (h : readVersion text = .ok version)
    (hs : CppStandard.ofText? standard = some s) :
    ofTexts family text (some standard) = .ok ⟨normalizeFamily family, version, some s⟩ := by
  simp only [ofTexts, readStandard, h, hs]
  rfl

theorem ofTexts_of_standard_error (h : readVersion text = .ok version)
    (hs : CppStandard.ofText? standard = none) : ofTexts family text (some standard) =
      .error (.invalidVersion "compiler.cppstd" standard .notAStandard) := by
  simp only [ofTexts, readStandard, h, hs]
  rfl

end

theorem ofTexts_eq_ok_iff {family text : String} {standard : Option String} {c : Compiler} :
    ofTexts family text standard = .ok c ↔
      c.family = normalizeFamily family ∧ readVersion text = .ok c.version ∧
        standard.map CppStandard.ofText? = c.standard.map some := by
  obtain ⟨family', version', standard'⟩ := c
  cases hversion : readVersion text with
  | error e =>
    rw [ofTexts_of_version_error hversion]
    simp
  | ok version =>
    cases standard with
    | none =>
      rw [ofTexts_none hversion]
      cases standard' <;> simp [eq_comm]
    | some standard =>
      cases hstandard : CppStandard.ofText? standard with
      | none =>
        rw [ofTexts_of_standard_error hversion hstandard]
        cases standard' <;> simp [hstandard]
      | some s =>
        rw [ofTexts_some hversion hstandard]
        cases standard' <;> simp [hstandard, eq_comm]

theorem exists_of_ofTexts_eq_error {family text : String} {standard : Option String}
    {e : ConfigError} (h : ofTexts family text standard = .error e) :
    readVersion text = .error e ∨ ∃ version s, readVersion text = .ok version ∧
      standard = some s ∧ CppStandard.ofText? s = none ∧
      e = .invalidVersion "compiler.cppstd" s .notAStandard := by
  cases hversion : readVersion text with
  | error e' =>
    rw [ofTexts_of_version_error hversion] at h
    cases h
    exact .inl rfl
  | ok version =>
    cases standard with
    | none =>
      rw [ofTexts_none hversion] at h
      cases h
    | some s =>
      cases hs : CppStandard.ofText? s with
      | none =>
        rw [ofTexts_of_standard_error hversion hs] at h
        cases h
        exact .inr ⟨version, s, rfl, rfl, hs, rfl⟩
      | some level =>
        rw [ofTexts_some hversion hs] at h
        cases h

end Compiler

/-! ## What a builder lacks -/

namespace Builder

/-- The first thing that keeps a builder from building, with the error that tells it. -/
inductive Lacks (b : Builder) : ConfigError → Prop where
  | system (hsystem : b.system = none) : b.Lacks (.missingSetting "os")
  | family (hsystem : b.system ≠ none) (hfamily : b.compilerFamily = none) :
    b.Lacks (.missingSetting "compiler")
  | version (hsystem : b.system ≠ none) (hfamily : b.compilerFamily ≠ none)
    (hversion : b.compilerVersion = none) : b.Lacks (.missingSetting "compiler.version")
  | readableVersion {text : String} {e : ConfigError} (hsystem : b.system ≠ none)
    (hfamily : b.compilerFamily ≠ none) (hversion : b.compilerVersion = some text)
    (hread : Compiler.readVersion text = .error e) : b.Lacks e
  | readableStandard {text standard : String} {version : Version} (hsystem : b.system ≠ none)
    (hfamily : b.compilerFamily ≠ none) (hversion : b.compilerVersion = some text)
    (hread : Compiler.readVersion text = .ok version) (hstandard : b.standard = some standard)
    (hunread : CppStandard.ofText? standard = none) :
    b.Lacks (.invalidVersion "compiler.cppstd" standard .notAStandard)

/-- The variant of a builder for a system and a compiler. -/
def variant (b : Builder) (system : System) (compiler : Compiler) : Variant :=
  Variant.settleFpic {
    geometry := b.geometry
    optimizer := b.optimizer
    threading := b.threading
    shared := b.shared
    fpic := .ofFlag b.fpic
    headerOnly := b.headerOnly
    jsBindings := b.jsBindings
    tests := b.tests
    pythonVersion := b.pythonVersion
    system := system
    compiler := compiler
    buildType := b.buildType
    generator := b.generator
    dependencyOptions := b.dependencyOptions }

variable {b : Builder}

theorem build_eq_compiler {system : System} {family text : String}
    (hsystem : b.system = some system) (hfamily : b.compilerFamily = some family)
    (hversion : b.compilerVersion = some text) :
    b.build = (Compiler.ofTexts family text b.standard).map (b.variant system) := by
  simp only [build, compiler, hsystem, hfamily, hversion]
  cases Compiler.ofTexts family text b.standard <;> rfl

theorem build_of_lacks {e : ConfigError} (h : b.Lacks e) : b.build = .error e := by
  cases h with
  | system hsystem => simp only [build, hsystem]
  | family hsystem hfamily =>
    obtain ⟨system, hsystem⟩ := Option.ne_none_iff_exists'.1 hsystem
    simp only [build, compiler, hsystem, hfamily]
    rfl
  | version hsystem hfamily hversion =>
    obtain ⟨system, hsystem⟩ := Option.ne_none_iff_exists'.1 hsystem
    obtain ⟨family, hfamily⟩ := Option.ne_none_iff_exists'.1 hfamily
    simp only [build, compiler, hsystem, hfamily, hversion]
    rfl
  | readableVersion hsystem hfamily hversion hread =>
    obtain ⟨system, hsystem⟩ := Option.ne_none_iff_exists'.1 hsystem
    obtain ⟨family, hfamily⟩ := Option.ne_none_iff_exists'.1 hfamily
    rw [build_eq_compiler hsystem hfamily hversion, Compiler.ofTexts_of_version_error hread]
    rfl
  | readableStandard hsystem hfamily hversion hread hstandard hunread =>
    obtain ⟨system, hsystem⟩ := Option.ne_none_iff_exists'.1 hsystem
    obtain ⟨family, hfamily⟩ := Option.ne_none_iff_exists'.1 hfamily
    rw [build_eq_compiler hsystem hfamily hversion, hstandard,
      Compiler.ofTexts_of_standard_error hread hunread]
    rfl

theorem lacks_or_build_eq (b : Builder) : (∃ e, b.Lacks e) ∨
    ∃ system family text c, b.system = some system ∧ b.compilerFamily = some family ∧
      b.compilerVersion = some text ∧ Compiler.ofTexts family text b.standard = .ok c ∧
      b.build = .ok (b.variant system c) := by
  cases hsystem : b.system with
  | none => exact .inl ⟨_, .system hsystem⟩
  | some system =>
    have hsystem' : b.system ≠ none := hsystem ▸ Option.some_ne_none system
    cases hfamily : b.compilerFamily with
    | none => exact .inl ⟨_, .family hsystem' hfamily⟩
    | some family =>
      have hfamily' : b.compilerFamily ≠ none := hfamily ▸ Option.some_ne_none family
      cases hversion : b.compilerVersion with
      | none => exact .inl ⟨_, .version hsystem' hfamily' hversion⟩
      | some text =>
        cases hc : Compiler.ofTexts family text b.standard with
        | ok c =>
          refine .inr ⟨system, family, text, c, rfl, rfl, rfl, hc, ?_⟩
          rw [build_eq_compiler hsystem hfamily hversion, hc]
          rfl
        | error e =>
          rcases Compiler.exists_of_ofTexts_eq_error hc with
            hread | ⟨version, s, hread, hstandard, hunread, -⟩
          · exact .inl ⟨_, .readableVersion hsystem' hfamily' hversion hread⟩
          · exact .inl ⟨_, .readableStandard hsystem' hfamily' hversion hread hstandard hunread⟩

theorem build_eq_error_iff {e : ConfigError} : b.build = .error e ↔ b.Lacks e := by
  refine ⟨fun h => ?_, build_of_lacks⟩
  rcases b.lacks_or_build_eq with ⟨e', hlacks⟩ | ⟨system, family, text, c, -, -, -, -, hbuild⟩
  · rw [build_of_lacks hlacks] at h
    cases h
    exact hlacks
  · rw [hbuild] at h
    cases h

theorem build_eq_ok_iff {v : Variant} : b.build = .ok v ↔
    ∃ system family text c, b.system = some system ∧ b.compilerFamily = some family ∧
      b.compilerVersion = some text ∧ c.family = Compiler.normalizeFamily family ∧
      Compiler.readVersion text = .ok c.version ∧
      b.standard.map CppStandard.ofText? = c.standard.map some ∧ v = b.variant system c := by
  constructor
  · intro h
    rcases b.lacks_or_build_eq with ⟨e, hlacks⟩ |
      ⟨system, family, text, c, hsystem, hfamily, hversion, hc, hbuild⟩
    · rw [build_of_lacks hlacks] at h
      cases h
    · rw [hbuild] at h
      cases h
      obtain ⟨hname, hread, hstandard⟩ := Compiler.ofTexts_eq_ok_iff.1 hc
      exact ⟨system, family, text, c, hsystem, hfamily, hversion, hname, hread, hstandard, rfl⟩
  · rintro ⟨system, family, text, c, hsystem, hfamily, hversion, hname, hread, hstandard, rfl⟩
    rw [build_eq_compiler hsystem hfamily hversion,
      Compiler.ofTexts_eq_ok_iff.2 ⟨hname, hread, hstandard⟩]
    rfl

theorem exists_build_eq_ok_iff : (∃ v, b.build = .ok v) ↔
    b.system ≠ none ∧ b.compilerFamily ≠ none ∧
      (∃ text version, b.compilerVersion = some text ∧ Compiler.readVersion text = .ok version) ∧
      ∀ text, b.standard = some text → CppStandard.ofText? text ≠ none := by
  constructor
  · rintro ⟨v, hv⟩
    obtain ⟨system, family, text, c, hsystem, hfamily, hversion, -, hread, hstandard, -⟩ :=
      build_eq_ok_iff.1 hv
    refine ⟨hsystem ▸ Option.some_ne_none _, hfamily ▸ Option.some_ne_none _,
      ⟨text, c.version, hversion, hread⟩, fun standard hs hunread => ?_⟩
    rw [hs, Option.map_some, hunread] at hstandard
    cases hc : c.standard <;> simp [hc] at hstandard
  · rintro ⟨hsystem, hfamily, ⟨text, version, hversion, hread⟩, hstandard⟩
    rcases b.lacks_or_build_eq with ⟨e, hlacks⟩ | ⟨system, family, text, c, -, -, -, -, hbuild⟩
    · -- Each lack contradicts one of the conditions.
      cases hlacks with
      | system h => exact absurd h hsystem
      | family _ h => exact absurd h hfamily
      | version _ _ h => simp [h] at hversion
      | readableVersion _ _ h hread' => simp_all
      | readableStandard _ _ _ _ h hunread => exact absurd hunread (hstandard _ h)
    · exact ⟨_, hbuild⟩

end Builder

/-! ## What is built -/

/-- What holds of every built variant: its family is in normal form, its version is a release, its
standard has two digits, and there is no request for position-independent code exactly where there
is no question of it. -/
structure Variant.IsSettled (v : Variant) : Prop where
  family : Compiler.normalizeFamily v.compiler.family = v.compiler.family
  release : v.compiler.version.pre = [] ∧ v.compiler.version.build = []
  standard : ∀ s, v.compiler.standard = some s → s.level.val < 100
  fpic : v.fpic = .notApplicable ↔
    v.shared = true ∨ v.compiler.isMsvcClass = true ∨ v.system = .windows

theorem Fpic.ofFlag_ne_notApplicable (requested : Bool) : ofFlag requested ≠ .notApplicable := by
  cases requested <;> exact nofun

namespace Builder

variable {b : Builder} {v : Variant}

theorem fpic_variant (b : Builder) (system : System) (c : Compiler) :
    (b.variant system c).fpic =
      if (b.variant system c).fpicApplies then .ofFlag b.fpic else .notApplicable := rfl

/-- A request for position-independent code is built where there is a question of it. -/
theorem fpic_variant_eq_notApplicable_iff {system : System} {c : Compiler} :
    (b.variant system c).fpic = .notApplicable ↔ (b.variant system c).fpicApplies = false := by
  rw [fpic_variant]
  cases (b.variant system c).fpicApplies with
  | false => simp
  | true => simp [Fpic.ofFlag_ne_notApplicable]

theorem isSettled_of_build (h : b.build = .ok v) : v.IsSettled := by
  obtain ⟨system, family, text, c, -, -, -, hname, hread, -, rfl⟩ := build_eq_ok_iff.1 h
  obtain ⟨major, minor, patch, hversion⟩ := Compiler.exists_release_of_readVersion hread
  refine ⟨?_, ?_, fun s _ => s.level.isLt, ?_⟩
  · show Compiler.normalizeFamily c.family = c.family
    rw [hname, Compiler.normalizeFamily_idem]
  · show c.version.pre = [] ∧ c.version.build = []
    rw [hversion]
    exact ⟨rfl, rfl⟩
  · rw [fpic_variant_eq_notApplicable_iff, Variant.fpicApplies_eq_false_iff]

theorem fpic_of_build (h : b.build = .ok v) (happlies : v.fpic ≠ .notApplicable) :
    v.fpic = .ofFlag b.fpic := by
  obtain ⟨system, family, text, c, -, -, -, -, -, -, rfl⟩ := build_eq_ok_iff.1 h
  rw [Ne, fpic_variant_eq_notApplicable_iff, Bool.not_eq_false] at happlies
  rw [fpic_variant, if_pos happlies]

end Builder

/-- Validation leaves the request for position-independent code and the compiler of a settled
variant as they are. -/
theorem Variant.IsSettled.eq_of_validate? {v : Variant} (hv : v.IsSettled) {a : ValidVariant}
    (h : v.validate? = .ok a) : a.fpic = v.fpic ∧ a.compiler = v.compiler := by
  have hnormal : a.toVariant = v.normalize := toVariant_of_validate? h
  refine ⟨?_, by rw [hnormal]; rfl⟩
  rw [hnormal, fpic_normalize]
  split
  next => rfl
  next happlies =>
    exact (hv.fpic.2 (fpicApplies_eq_false_iff.1 (Bool.eq_false_iff.2 happlies))).symm

/-- **Building is complete.** After any session from the defaults, building fails with what the
builder lacks first, and succeeds if and only if system, family and version are set, the version
can be read and so can the standard, if there is one. What is built is settled; its request for
position-independent code, where there is a question of it, is the last one of the session, and
code is position-independent if there was none. Validation, if it accepts the variant, keeps the
request and the compiler. -/
theorem build_complete (steps : List BuildStep) :
    let b := Builder.default.run steps
    (∀ e, b.build = .error e ↔ b.Lacks e) ∧
    ((∃ v, b.build = .ok v) ↔
      b.system ≠ none ∧ b.compilerFamily ≠ none ∧
        (∃ text version, b.compilerVersion = some text ∧
          Compiler.readVersion text = .ok version) ∧
        ∀ text, b.standard = some text → CppStandard.ofText? text ≠ none) ∧
    ∀ v, b.build = .ok v →
      v.IsSettled ∧
      (v.fpic ≠ .notApplicable →
        v.fpic = .ofFlag ((Slot.last? (acceptedAssignments steps) .fpic).getD true)) ∧
      ∀ a, v.validate? = .ok a → a.fpic = v.fpic ∧ a.compiler = v.compiler := by
  intro b
  have hrequest : b.fpic = (Slot.last? (acceptedAssignments steps) .fpic).getD true :=
    read_run steps .fpic
  refine ⟨fun e => Builder.build_eq_error_iff, Builder.exists_build_eq_ok_iff, fun v hv => ?_⟩
  have hsettled := Builder.isSettled_of_build hv
  refine ⟨hsettled, fun happlies => ?_, fun a ha => hsettled.eq_of_validate? ha⟩
  rw [Builder.fpic_of_build hv happlies, hrequest]

/-- A session that sets an unreadable standard and corrects it, and requests position-independent
code twice. A family with blanks and capitals is built in normal form; it is of the MSVC class, so
there is no request. For another family the last request counts, before and after validation. The
unreadable standard is what the session lacks before it is corrected, and the system if none is
offered. -/
theorem build_complete_respelled :
    let texts (family : String) : List BuildStep := [.setting "compiler" family,
      .optionToken "shared=False", .optionToken "fPIC=True", .option "fpic" (.flag false),
      .settingToken "compiler.version = 16", .setting "compiler.cppstd" "c++17"]
    let session (family : String) : List BuildStep :=
      texts family ++ [.settingToken "compiler.cppstd=gnu17", .defaultSystem .linux]
    (∃ v, (Builder.default.run (session " Visual \t STUDIO ")).build = .ok v ∧
      v.compiler.family = "visual-studio" ∧ v.fpic = .notApplicable ∧ v.IsSettled) ∧
    (∃ v, (Builder.default.run (session "Clang")).build = .ok v ∧
      v.fpic = .disabled ∧ ∀ a, v.validate? = .ok a → a.fpic = .disabled) ∧
    (Builder.default.run (texts "Clang" ++ [.defaultSystem .linux])).build =
      .error (.invalidVersion "compiler.cppstd" "c++17" .notAStandard) ∧
    (Builder.default.run (texts "Clang")).build = .error (.missingSetting "os") := by
  intro texts session
  have hread : Compiler.readVersion "16" = .ok (.release 16 0 0) := by rfl
  have hbuilt : ∀ family ∈ [" Visual \t STUDIO ", "Clang"],
      ∃ v, (Builder.default.run (session family)).build = .ok v := by
    intro family hfamily
    obtain ⟨hsystem, hname, hversion, hstandard⟩ :
        (Builder.default.run (session family)).system = some .linux ∧
        (Builder.default.run (session family)).compilerFamily = some family ∧
        (Builder.default.run (session family)).compilerVersion = some "16" ∧
        (Builder.default.run (session family)).standard = some "gnu17" := by
      revert family
      decide +kernel
    refine (build_complete (session family)).2.1.2 ⟨by simp [hsystem], by simp [hname],
      ⟨"16", .release 16 0 0, hversion, hread⟩, fun text htext => ?_⟩
    obtain rfl : "gnu17" = text := Option.some.inj (hstandard.symm.trans htext)
    decide
  obtain ⟨msvc, hmsvc⟩ := hbuilt " Visual \t STUDIO " (by decide)
  obtain ⟨clang, hclang⟩ := hbuilt "Clang" (by decide)
  have hname : msvc.compiler.family = "visual-studio" := by
    have h : (Builder.default.run (session " Visual \t STUDIO ")).build.toOption.map
        (·.compiler.family) = some "visual-studio" := by decide +kernel
    rw [hmsvc] at h
    exact Option.some.inj h
  have happlies : clang.fpic ≠ .notApplicable := by
    have h : (Builder.default.run (session "Clang")).build.toOption.map (·.fpic) ≠
        some .notApplicable := by decide +kernel
    rw [hclang] at h
    exact fun hfpic => h (congrArg some hfpic)
  obtain ⟨hsettled, -, -⟩ := (build_complete (session " Visual \t STUDIO ")).2.2 msvc hmsvc
  obtain ⟨-, hrequest, hkept⟩ := (build_complete (session "Clang")).2.2 clang hclang
  have hlast : Slot.last? (acceptedAssignments (session "Clang")) .fpic = some false := by
    decide +kernel
  rw [hlast] at hrequest
  refine ⟨⟨msvc, hmsvc, hname, hsettled.fpic.2 (.inr (.inl ?_)), hsettled⟩,
    ⟨clang, hclang, hrequest happlies, fun a ha => (hkept a ha).1.trans (hrequest happlies)⟩,
    ?_, ?_⟩
  · rw [Compiler.isMsvcClass, hname]
    decide
  · have hversion : (Builder.default.run
        (texts "Clang" ++ [.defaultSystem .linux])).compilerVersion = some "16" := by
      decide +kernel
    exact ((build_complete _).1 _).2 (.readableStandard (by decide +kernel) (by decide +kernel)
      hversion hread (by decide +kernel) (by decide))
  · exact ((build_complete _).1 _).2 (.system (by decide +kernel))

end VariantPlan
