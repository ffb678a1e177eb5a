import VariantPlan.Proofs.Document.Identity
import VariantPlan.Proofs.Interchange

/-!
# Identities of compiled variants

Where something is compiled, an identity keeps all of a variant but its generator settings. Compiled
variants of one identity are therefore the same up to these settings, and the same altogether where
MSVC-class compilers leave no such settings.

Compilers of other classes keep their generator settings in the normal form. They change what is
compiled and are not in the identity, so `toolset_lost` finds two different compiled variants with
one package id.

Main results: `identity_eq_iff_of_compiled` (what one identity means for compiled variants),
`identity_eq_iff_of_validate?` (the same before normalizing) and
`compiled_variant_determined_by_identity`.
-/

namespace VariantPlan

namespace Variant

/-- The variant without generator settings. -/
def withoutGenerator (v : Variant) : Variant := { v with generator := .unset }

theorem eq_of_withoutGenerator_eq {u v : Variant} (h : u.withoutGenerator = v.withoutGenerator)
    (hg : u.generator = v.generator) : u = v := by
  have heq : { u.withoutGenerator with generator := u.generator } =
      { v.withoutGenerator with generator := v.generator } := by rw [h, hg]
  exact heq

/-- Which generator settings are kept is all that normalizing decides after the request for
position-independent code. -/
theorem withoutGenerator_normalize (v : Variant) :
    v.normalize.withoutGenerator = v.settleFpic.withoutGenerator := rfl

end Variant

theorem interchangeable_iff_of_compiled {u v : Variant} (hu : u.headerOnly = false) :
    Interchangeable u v ↔ u.withoutGenerator = v.withoutGenerator := by
  constructor
  · intro h
    obtain ⟨hg, ho, ht, hh, hj, hts, hp, hs, hd, hsh, hf, hb, hc⟩ := h
    simp only [Variant.withoutGenerator, Variant.mk.injEq]
    exact ⟨hg, ho, ht, hsh hu, hf hu, hh, hj, hts, hp, hs, hc hu, hb hu, trivial, hd⟩
  · intro h
    simp only [Variant.withoutGenerator, Variant.mk.injEq] at h
    obtain ⟨hg, ho, ht, hsh, hf, hh, hj, hts, hp, hs, hc, hb, -, hd⟩ := h
    exact ⟨hg, ho, ht, hh, hj, hts, hp, hs, hd, fun _ => hsh, fun _ => hf, fun _ => hb,
      fun _ => hc⟩

section Identities

variable {a b : ValidVariant} (ha : a.headerOnly = false)

include ha

theorem identity_eq_iff_of_compiled :
    a.identity = b.identity ↔ a.toVariant.withoutGenerator = b.toVariant.withoutGenerator :=
  identity_eq_iff.trans (interchangeable_iff_of_compiled ha)

theorem identity_eq_iff_of_generator_eq (hg : a.generator = b.generator) :
    a.identity = b.identity ↔ a = b := by
  constructor
  · intro h
    exact ValidVariant.ext
      (Variant.eq_of_withoutGenerator_eq ((identity_eq_iff_of_compiled ha).1 h) hg)
  · intro h
    rw [h]

/-- Before normalizing, compiled variants may differ in their generator settings, and in the request
for position-independent code where there is no question. -/
theorem identity_eq_iff_of_validate? {u v : Variant} (hu : u.validate? = .ok a)
    (hv : v.validate? = .ok b) :
    a.identity = b.identity ↔
      u.settleFpic.withoutGenerator = v.settleFpic.withoutGenerator := by
  rw [identity_eq_iff_of_compiled ha, toVariant_of_validate? hu, toVariant_of_validate? hv,
    Variant.withoutGenerator_normalize, Variant.withoutGenerator_normalize]

end Identities

theorem generator_eq_unset {a : ValidVariant} (h : a.compiler.isMsvcClass = true) :
    a.generator = .unset := by
  have hnormal : a.toVariant.normalize.generator = a.generator :=
    congrArg Variant.generator a.normal
  rw [← hnormal]
  exact if_pos h

/-- **Identities keep the build settings of compiled variants**, the generator settings excepted.
Take valid variants of which the first one is compiled.

* They have one identity, and one text of it, if and only if they agree in every field but the
  generator settings.
* If their generator settings are the same, or if the compiler of the first one is of the MSVC
  class, then they have one identity only if they are the same.
* If they are the normal forms of two other variants, then these agree as well, but for the request
  for position-independent code where there is no question. -/
theorem compiled_variant_determined_by_identity {a b : ValidVariant} (ha : a.headerOnly = false) :
    (a.identity = b.identity ↔ a.toVariant.withoutGenerator = b.toVariant.withoutGenerator) ∧
    (a.identity.toJson.compact = b.identity.toJson.compact ↔ a.identity = b.identity) ∧
    (a.generator = b.generator ∨ a.compiler.isMsvcClass = true →
      (a.identity = b.identity ↔ a = b)) ∧
    (∀ u v : Variant, u.validate? = .ok a → v.validate? = .ok b →
      (a.identity = b.identity ↔
        u.settleFpic.withoutGenerator = v.settleFpic.withoutGenerator)) := by
  refine ⟨identity_eq_iff_of_compiled ha, ⟨Identity.eq_of_compact_eq, fun h => by rw [h]⟩, ?_,
    fun u v hu hv => identity_eq_iff_of_validate? ha hu hv⟩
  rintro (hg | hmsvc)
  · exact identity_eq_iff_of_generator_eq ha hg
  · constructor
    · intro h
      have hcompiler : a.compiler = b.compiler := (identity_eq_iff.1 h).compiler ha
      have hg : a.generator = b.generator := by
        rw [generator_eq_unset hmsvc, generator_eq_unset (hcompiler ▸ hmsvc)]
      exact (identity_eq_iff_of_generator_eq ha hg).1 h
    · intro h
      rw [h]

/-- An MSVC-class compiler loses its toolset, and a standard that it is set to counts. -/
theorem compiled_variant_determined_by_identity_msvc :
    ∃ (u v : Variant) (a b c : ValidVariant), u.validate? = .ok a ∧ v.validate? = .ok b ∧
      a.headerOnly = false ∧ u.generator ≠ v.generator ∧ a.identity = b.identity ∧ a = b ∧
      a.identity ≠ c.identity ∧ a.identity.toJson.compact ≠ c.identity.toJson.compact := by
  let u : Variant := { Variant.sample with
    system := .windows, compiler := ⟨"msvc", .release 193 0 0, none⟩, buildType := .debug,
    generator := ⟨some "x64", some "v143"⟩ }
  let v : Variant := { u with generator := .unset }
  let a : ValidVariant := ⟨u.normalize, by decide, rfl⟩
  let b : ValidVariant := ⟨v.normalize, by decide, rfl⟩
  let c : ValidVariant :=
    ⟨{ v with compiler := ⟨"msvc", .release 193 0 0, some .cpp17⟩ }, by decide, rfl⟩
  have ha : a.headerOnly = false := rfl
  have h (d : ValidVariant) := @compiled_variant_determined_by_identity a d ha
  have hu : u.validate? = .ok a := rfl
  have hv : v.validate? = .ok b := rfl
  have hid : a.identity = b.identity := ((h b).2.2.2 u v hu hv).2 rfl
  have hne : a.identity ≠ c.identity := mt (h c).1.1 (by decide)
  exact ⟨u, v, a, b, c, hu, hv, rfl, by decide, hid, ((h b).2.2.1 (.inr rfl)).1 hid, hne,
    mt (h c).2.1.1 hne⟩

/-- **The toolset is lost.** Two compiled variants for a compiler of another class, one of them with
a toolset, are valid and different, and have one identity and one package id. -/
theorem toolset_lost :
    ∃ a b : ValidVariant, a.headerOnly = false ∧ b.headerOnly = false ∧
      a.generator.toolset = none ∧ b.generator.toolset = some "llvm" ∧ a ≠ b ∧
      a.identity = b.identity ∧ a.packageId = b.packageId := by
  let v : Variant := { Variant.sample with compiler := ⟨"clang", .release 14 0 0, none⟩ }
  let a : ValidVariant := ⟨v, by decide, rfl⟩
  let b : ValidVariant := ⟨{ v with generator := ⟨none, some "llvm"⟩ }, by decide, rfl⟩
  have hid : a.identity = b.identity := rfl
  have hne : a ≠ b := by
    intro h
    have htoolset := congrArg (fun c : ValidVariant => c.generator.toolset) h
    revert htoolset
    decide
  exact ⟨a, b, rfl, rfl, rfl, rfl, hne, hid, by rw [ValidVariant.packageId, hid]; rfl⟩

end VariantPlan
