import VariantPlan.Digest.Sha256
import VariantPlan.Json.Printer

/-!
# Fingerprints

A value's fingerprint is the start of the digest of its compact text, so that values with the same
text have the same fingerprint.
-/

namespace VariantPlan

/-- The number of hexadecimal digits of a fingerprint. -/
def fingerprintLength : Nat := 20

/-- The first hexadecimal digits of the digest of a value's compact text. -/
def Json.fingerprint (j : Json) : String :=
  String.ofList ((Digest.ofText j.compact).toList.take fingerprintLength)

end VariantPlan
