import VariantPlan.Log.Event
import VariantPlan.Variant.Basic

/-!
# Validation

A variant is refused for one of three faults, looked for in this order: its compiler is set to a
standard before the required one, its compiler comes before the first version of its family that
supports the required standard, or its threading backend has no runtime on its system. A compiler
of an unknown family is trusted, and so is one that reports no standard.

An accepted variant is **normalized**: the request for position-independent code is dropped where
it does not apply, and MSVC-class compilers get no generator settings. A `ValidVariant` carries
both facts.

Main results: `fault?_normalize` (normalizing changes no verdict), `normalize_idem`, and
`validate?_toVariant` (a valid variant is accepted and comes back unchanged).
-/

namespace VariantPlan

namespace Variant

/-! ## Faults -/

/-- The fault of a compiler that is set to a standard before the required one. -/
def standardFault? (v : Variant) : Option ConfigError :=
  match v.compiler.standard with
  | some s =>
    if s.precedes requiredStandard then
      some (.standardTooLow v.compiler.family v.compiler.version s)
    else none
  | none => none

/-- The fault of a compiler that comes before the first supported version of its family. -/
def versionFault? (v : Variant) : Option ConfigError :=
  match Compiler.minimumVersion? v.compiler.family with
  | some minimum =>
    if v.compiler.version.precedes minimum then
      some (.compilerTooOld v.compiler.family v.compiler.version minimum)
    else none
  | none => none

/-- The fault of a threading backend without a runtime on the system. -/
def runtimeFault? (v : Variant) : Option ConfigError :=
  if v.system == .emscripten && v.threading.needsRuntime then some (.noThreadRuntime v.threading)
  else none

/-- The first fault of a variant. -/
def fault? (v : Variant) : Option ConfigError :=
  v.standardFault?.or (v.versionFault?.or v.runtimeFault?)

/-! ## Normal form -/

/-- The variant without generator settings that its compiler does not take. -/
def settleGenerator (v : Variant) : Variant :=
  { v with generator := if v.compiler.isMsvcClass then .unset else v.generator }

def normalize (v : Variant) : Variant := v.settleFpic.settleGenerator

/-- Normalizing changes no verdict. -/
theorem fault?_normalize (v : Variant) : v.normalize.fault? = v.fault? := rfl

theorem settleGenerator_settleGenerator (v : Variant) :
    v.settleGenerator.settleGenerator = v.settleGenerator := by
  have h : v.settleGenerator.settleGenerator.generator = v.settleGenerator.generator := by
    show (if v.compiler.isMsvcClass then .unset
      else if v.compiler.isMsvcClass then .unset else v.generator) =
      if v.compiler.isMsvcClass then Generator.unset else v.generator
    cases v.compiler.isMsvcClass <;> rfl
  exact congrArg (fun g => { v with generator := g }) h

theorem settleFpic_settleGenerator (v : Variant) :
    v.settleGenerator.settleFpic = v.settleFpic.settleGenerator := rfl

theorem normalize_idem (v : Variant) : v.normalize.normalize = v.normalize := by
  rw [normalize, normalize, settleFpic_settleGenerator, settleFpic_settleFpic,
    settleGenerator_settleGenerator]

end Variant

/-! ## Valid variants -/

/-- A variant that is accepted and in normal form. -/
structure ValidVariant extends Variant where
  /-- The variant has no fault. -/
  accepted : toVariant.fault? = none
  /-- The variant is in normal form. -/
  normal : toVariant.normalize = toVariant

theorem ValidVariant.ext {a b : ValidVariant} (h : a.toVariant = b.toVariant) : a = b := by
  cases a
  cases b
  cases h
  rfl

namespace Variant

/-- The normal form of a variant, or its first fault. -/
def validate? (v : Variant) : Except ConfigError ValidVariant :=
  match h : v.fault? with
  | some e => .error e
  | none => .ok ⟨v.normalize, (fault?_normalize v).trans h, normalize_idem v⟩

theorem validate?_toVariant (v : ValidVariant) : v.toVariant.validate? = .ok v := by
  unfold validate?
  split
  next e h => simp [v.accepted] at h
  next h => exact congrArg Except.ok (ValidVariant.ext v.normal)

/-! ## Events -/

/-- The event of a compiler whose versions are not known. -/
def unknownFamilyEvent (v : Variant) : Event where
  severity := .debug
  stage := .validation
  message := "unknown compiler family, skipping version gate"
  fields := [("family", .shown v.compiler.family)]

/-- The event of generator settings that are dropped. -/
def clearingEvent (v : Variant) : Event where
  severity := .debug
  stage := .validation
  message := "clearing generator platform and toolset for MSVC-class compiler"
  fields := [("compiler", .shown v.compiler.text)]

/-- What validation logs: an unknown family once the standard is checked, and dropped settings
once all is. -/
def validationEvents (v : Variant) : List Event :=
  if v.standardFault?.isSome then []
  else
    (if (Compiler.minimumVersion? v.compiler.family).isNone then [v.unknownFamilyEvent] else []) ++
      (if v.fault?.isNone && v.compiler.isMsvcClass && !v.generator.isUnset then [v.clearingEvent]
        else [])

def validate (v : Variant) : Logged (Except ConfigError ValidVariant) :=
  ⟨v.validate?, v.validationEvents⟩

end Variant

end VariantPlan
