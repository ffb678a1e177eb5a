import VariantPlan.Proofs.CommandLine.Source
import VariantPlan.Proofs.Document.Plan
import VariantPlan.Proofs.Tree.Contents

/-!
# Views of a variant

Two commands show one variant: its plan as a report, its plan as a document, or its package id
alone. All three views build the variant from the same source and validate it before they print
anything, so they fail together, and what they print are parts of one plan.

Main results: `VariantSource.validIn` with `run_view` (a view prints its lines of the valid variant,
or fails without printing), and `views_agree`.
-/

namespace VariantPlan.CommandLine

/-! ## Valid variants of a source -/

/-- The valid variant that a source describes in a tree. -/
def VariantSource.validIn (source : VariantSource) (system : Option System) (t : FileTree) :
    Except Failure ValidVariant :=
  (source.variantIn system t).bind fun v => v.validate?.mapError .invalid

section

variable {source : VariantSource} {system : Option System} {t : FileTree}

theorem validIn_of_error {e : Failure} (h : source.variantIn system t = .error e) :
    source.validIn system t = .error e := by
  rw [VariantSource.validIn, h]
  rfl

theorem validIn_of_ok {v : Variant} (h : source.variantIn system t = .ok v) :
    source.validIn system t = v.validate?.mapError .invalid := by
  rw [VariantSource.validIn, h]
  rfl

theorem exists_validIn_iff : (∃ a, source.validIn system t = .ok a) ↔
    ∃ v a, source.variantIn system t = .ok v ∧ v.validate? = .ok a := by
  cases hv : source.variantIn system t with
  | error e => simp [validIn_of_error hv]
  | ok v =>
    rw [validIn_of_ok hv]
    cases hvalid : v.validate? <;> simp [Except.mapError, hvalid]

end

/-- The result of showing a variant if it is valid. -/
def viewResult (lines : ValidVariant → List String) : Except Failure ValidVariant → Result
  | .ok valid => .printed (lines valid)
  | .error e => .failed e

/-- The lines of a plan in a format. -/
def planView (host : Host) : OutputFormat → ValidVariant → List String
  | .json, valid => [(valid.planOn host).toJson.indented]
  | .text, valid => planLines valid (valid.planOn host)

theorem value_resolveVariant (host : Host) (format : OutputFormat) (v : Variant) :
    (resolveVariant host format v).value =
      viewResult (planView host format) (v.validate?.mapError .invalid) := by
  have hvalidated : v.validate.value = v.validate? := rfl
  rw [resolveVariant, Logged.value_bind, hvalidated]
  cases v.validate? with
  | error e => rfl
  | ok valid => cases format <;> rfl

theorem value_identifyVariant (v : Variant) :
    (identifyVariant v).value =
      viewResult (fun valid => [valid.packageId]) (v.validate?.mapError .invalid) := by
  have hvalidated : v.validate.value = v.validate? := rfl
  rw [identifyVariant, Logged.value_bind, hvalidated]
  cases v.validate? <;> rfl

section

variable {system : Option System} {log : Option String} {t : FileTree} {source : VariantSource}
  {lines : ValidVariant → List String}

/-- What a command leaves that shows a variant: its lines and success, or a failure and no lines. -/
theorem run_view {args : List String} {invocation : Invocation} {go : Variant → Logged Result}
    (hargs : readInvocation args = .ok invocation)
    (hcommand : invocation.command.run Files.ofTree system =
      withVariant Files.ofTree system source go)
    (hgo : ∀ v, (go v).value = viewResult lines (v.validate?.mapError .invalid)) :
    ∃ err, (run Files.ofTree system log args t).1 =
      match source.validIn system t with
        | .ok valid => ⟨0, unlines (lines valid), err⟩
        | .error _ => ⟨1, "", err⟩ := by
  obtain ⟨events, hview⟩ := withVariant_ofTree system source go t
  rw [run_ofTree hargs, hcommand, hview]
  cases hv : source.variantIn system t with
  | error e =>
    rw [validIn_of_error hv]
    exact ⟨_, rfl⟩
  | ok v =>
    dsimp only
    rw [hgo, validIn_of_ok hv]
    cases v.validate?.mapError Failure.invalid <;> exact ⟨_, rfl⟩

theorem run_resolve_view {args : List String} {format : OutputFormat} {verbose : Bool}
    (hargs : readInvocation args = .ok ⟨.resolve source format, verbose⟩) :
    ∃ err, (run Files.ofTree system log args t).1 =
      match source.validIn system t with
        | .ok valid => ⟨0, unlines (planView ⟨!source.editable⟩ format valid), err⟩
        | .error _ => ⟨1, "", err⟩ :=
  run_view hargs rfl (value_resolveVariant _ format)

theorem run_packageId_view {args : List String} {verbose : Bool}
    (hargs : readInvocation args = .ok ⟨.packageId source, verbose⟩) :
    ∃ err, (run Files.ofTree system log args t).1 =
      match source.validIn system t with
        | .ok valid => ⟨0, unlines [valid.packageId], err⟩
        | .error _ => ⟨1, "", err⟩ :=
  run_view hargs rfl value_identifyVariant

end

/-! ## Contents of views -/

/-- The report of a plan shows the package id in its second line and the fingerprint of the plan in
the third. -/
theorem exists_planView_text_eq (valid : ValidVariant) (host : Host) : ∃ headline rest,
    planView host .text valid = headline :: statementLine "Package id" valid.packageId ::
      statementLine "Plan" (valid.planOn host).toJson.fingerprint :: rest := by
  rw [planView, planLines]
  exact ⟨_, _, rfl⟩

theorem parse?_planView (valid : ValidVariant) (host : Host) :
    (Json.parse? (unlines (planView host .json valid))).bind BuildPlan.ofJson? =
      some (valid.planOn host) := by
  have hwritable := BuildPlan.writable_planOn valid host
  rw [planView, unlines_singleton, Json.parse?_indented (BuildPlan.within_toJson hwritable),
    Option.bind_some, BuildPlan.ofJson?_toJson hwritable]

/-! ## Agreement -/

/-- **The views of a variant agree.** For every source, tree and system, the report of a plan, its
document and the package id are printed for the same inputs: for those from which a valid variant
is built. Otherwise all three commands fail with nothing on the first channel. What is printed
belongs together: the second line of the report shows the package id that is printed alone, and the
third line the fingerprint of the plan that the printed document reads back as, which is the
fingerprint of its compact text. -/
theorem views_agree {system : Option System} {t : FileTree} {source : VariantSource}
    {textArgs jsonArgs idArgs : List String} {textVerbose jsonVerbose idVerbose : Bool}
    (htext : readInvocation textArgs = .ok ⟨.resolve source .text, textVerbose⟩)
    (hjson : readInvocation jsonArgs = .ok ⟨.resolve source .json, jsonVerbose⟩)
    (hid : readInvocation idArgs = .ok ⟨.packageId source, idVerbose⟩)
    (textLog jsonLog idLog : Option String) :
    let text := (run Files.ofTree system textLog textArgs t).1
    let json := (run Files.ofTree system jsonLog jsonArgs t).1
    let id := (run Files.ofTree system idLog idArgs t).1
    (text.code = 0 ↔ ∃ v a, source.variantIn system t = .ok v ∧ v.validate? = .ok a) ∧
    (json.code = text.code ∧ id.code = text.code) ∧
    (text.code ≠ 0 → text.out = "" ∧ json.out = "" ∧ id.out = "") ∧
    (text.code = 0 → ∃ headline packageId fingerprint rest plan,
      text.out = unlines (headline :: statementLine "Package id" packageId ::
        statementLine "Plan" fingerprint :: rest) ∧
      id.out = packageId ++ "\n" ∧
      (Json.parse? json.out).bind BuildPlan.ofJson? = some plan ∧
      plan.toJson.fingerprint = fingerprint) := by
  intro text json id
  -- All three views are made of one reading of the variant.
  obtain ⟨textErr, htext⟩ : ∃ err, text = _ := run_resolve_view htext
  obtain ⟨jsonErr, hjson⟩ : ∃ err, json = _ := run_resolve_view hjson
  obtain ⟨idErr, hid⟩ : ∃ err, id = _ := run_packageId_view hid
  rw [htext, hjson, hid, ← exists_validIn_iff]
  cases source.validIn system t with
  | error e =>
    dsimp only
    exact ⟨iff_of_false Nat.one_ne_zero (by rintro ⟨a, ha⟩; cases ha), ⟨rfl, rfl⟩,
      fun _ => ⟨rfl, rfl, rfl⟩, fun h => absurd h Nat.one_ne_zero⟩
  | ok valid =>
    obtain ⟨headline, rest, hlines⟩ := exists_planView_text_eq valid ⟨!source.editable⟩
    dsimp only
    refine ⟨iff_of_true rfl ⟨valid, rfl⟩, ⟨rfl, rfl⟩, fun h => absurd rfl h, fun _ => ?_⟩
    exact ⟨headline, _, _, rest, _, congrArg unlines hlines, unlines_singleton _,
      parse?_planView valid _, rfl⟩

/-- A request document that names a compiler, with its version and an option with quotation marks
given beside it. With a version that is too old nothing is printed; otherwise the report shows the
package id that is printed alone and the fingerprint of the plan that the document reads back as. -/
theorem views_agree_quoted :
    let document : Json := .object [("settings", .object [("compiler", .string "gcc")])]
    let t : FileTree :=
      FileTree.empty.placeAll [(["gcc.json"], .file document.compact.toUTF8.data.toList)]
    let args (version : String) : List String := ["--request=gcc.json", "-s",
      "compiler.version=" ++ version, "-o", "boost:note=\"a\"", "--editable"]
    let output (args : List String) : Output := (run Files.ofTree (some .linux) none args t).1
    (∃ headline packageId rest plan,
      (output ("resolve" :: args "12")).out =
        unlines (headline :: statementLine "Package id" packageId ::
          statementLine "Plan" plan.toJson.fingerprint :: rest) ∧
      (output ("package-id" :: args "12")).out = packageId ++ "\n" ∧
      (Json.parse? (output ("resolve" :: "--format=json" :: args "12")).out).bind
        BuildPlan.ofJson? = some plan) ∧
    (output ("resolve" :: args "4")).out = "" ∧
      (output ("resolve" :: "--format=json" :: args "4")).out = "" ∧
      (output ("package-id" :: args "4")).out = "" := by
  intro document t args output
  let source (version : String) : VariantSource :=
    ⟨some ⟨"gcc.json"⟩, ["boost:note=\"a\""], ["compiler.version=" ++ version], true⟩
  have hargs : ∀ version ∈ ["12", "4"],
      readInvocation ("resolve" :: args version) = .ok ⟨.resolve (source version) .text, false⟩ ∧
      readInvocation ("resolve" :: "--format=json" :: args version) =
        .ok ⟨.resolve (source version) .json, false⟩ ∧
      readInvocation ("package-id" :: args version) =
        .ok ⟨.packageId (source version), false⟩ := by decide +kernel
  have hcodes : (output ("resolve" :: args "12")).code = 0 ∧
      (output ("resolve" :: args "4")).code ≠ 0 := by decide +kernel
  obtain ⟨htext, hjson, hid⟩ := hargs "12" (by decide)
  obtain ⟨-, -, -, hprinted⟩ := views_agree (t := t) htext hjson hid none none none
  obtain ⟨htext', hjson', hid'⟩ := hargs "4" (by decide)
  obtain ⟨-, -, hfailed, -⟩ := views_agree (t := t) htext' hjson' hid' none none none
  obtain ⟨headline, packageId, fingerprint, rest, plan, hreport, hprint, hread, rfl⟩ :=
    hprinted hcodes.1
  exact ⟨⟨headline, packageId, rest, plan, hreport, hprint, hread⟩, hfailed hcodes.2⟩

end VariantPlan.CommandLine
