import VariantPlan.Document.Fingerprint
import VariantPlan.Document.Variant
import VariantPlan.Plan.Identity

/-!
# Identities as documents

The JSON form of an identity, a record in which the settings of the compilation are null if
nothing is compiled. The **package id** of a variant is the fingerprint of its identity.
-/

namespace VariantPlan

def Identity.toJson (i : Identity) : Json :=
  .object [
    ("geometries", Choice.toJson i.geometry),
    ("optimizer", Choice.toJson i.optimizer),
    ("threading", Choice.toJson i.threading),
    ("header_only", .bool i.headerOnly),
    ("with_js_bindings", .bool i.jsBindings),
    ("tests", .bool i.tests),
    ("python_version", .string i.pythonVersion),
    ("os", Choice.toJson i.system),
    ("shared", Json.ofOption .bool i.shared),
    ("fpic", Json.ofOption Choice.toJson i.fpic),
    ("build_type", Json.ofOption Choice.toJson i.buildType),
    ("compiler", Json.ofOption Compiler.toJson i.compiler),
    ("dependency_options", DependencyOptions.toJson i.dependencyOptions)]

def ValidVariant.packageId (v : ValidVariant) : String := v.identity.toJson.fingerprint

end VariantPlan
