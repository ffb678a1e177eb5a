import VariantPlan.Proofs.Cache.Session
import VariantPlan.Proofs.CommandLine.Source
import VariantPlan.Proofs.Json.ReadBack
import VariantPlan.Proofs.Tree.Contents

/-!
# Matrices and single requests

Two commands lead from a request to a plan. One builds a single variant and resolves it; the other
builds the variants of a list and resolves them through one cache, which answers a variant that
occurs again, or failed before, with what it kept.

Main results: `buildMatrix_of_forall_ok` and `buildMatrix_of_error` (building a list),
`map_planOf_resolveMatrix` (the cache answers each variant with its own plan),
`run_resolve` and `run_matrix` (the two commands), and `matrix_agrees_with_resolve`.
-/

namespace VariantPlan

/-! ## Building -/

/-- The variant of a request, on a system if none is chosen. -/
def Request.variantOn (r : Request) (system : Option System) : Except ConfigError Variant := do
  let b ← r.toBuilder
  (system.elim b b.withDefaultSystem).build

theorem PlanCache.Faithful.planOf_answer {c : PlanCache} (h : c.Faithful) (key : PlanKey) :
    planOf (c.answer key) = (key.variant.resolvePlan key.host).value := by
  cases hkept : c.get? key with
  | some a =>
    rw [answer_of_cached hkept]
    exact h.answers key a hkept
  | none =>
    rw [PlanCache.answer, value_resolve_of_new hkept]
    exact planOf_store ..

/-- Whatever was asked before, a matrix is answered with what resolving each of its variants
gives. -/
theorem PlanCache.Faithful.map_planOf_resolveMatrix {c : PlanCache} (h : c.Faithful) (host : Host)
    (vs : List Variant) :
    (c.resolveMatrix host vs).value.2.map planOf = vs.map fun v => (v.resolvePlan host).value := by
  induction vs generalizing c with
  | nil => rfl
  | cons v vs ih =>
    show planOf (c.answer ⟨v, host⟩) ::
      ((c.after ⟨v, host⟩).resolveMatrix host vs).value.2.map planOf = _
    rw [h.planOf_answer, ih (h.after ⟨v, host⟩), List.map_cons]

namespace CommandLine

section Building

variable {system : Option System} {requests : List Request}

theorem buildVariant_nil (r : Request) :
    buildVariant system r [] [] = (r.variantOn system).mapError .config := by
  unfold buildVariant Request.variantOn
  cases r.toBuilder <;> rfl

theorem buildMatrix_cons (index : Nat) (r : Request) :
    buildMatrix system index (r :: requests) =
      match r.variantOn system with
      | .error e => .error (.requestOfMatrix index e)
      | .ok v => (buildMatrix system (index + 1) requests).map (v :: ·) := by
  have hcons : buildMatrix system index (r :: requests) =
      ((r.variantOn system).mapError (.requestOfMatrix index)).bind fun v =>
        (buildMatrix system (index + 1) requests).bind fun vs => .ok (v :: vs) := rfl
  rw [hcons]
  cases r.variantOn system with
  | error e => rfl
  | ok v => cases buildMatrix system (index + 1) requests <;> rfl

theorem buildMatrix_of_forall_ok (index : Nat)
    (h : ∀ r ∈ requests, ∃ v, r.variantOn system = .ok v) :
    ∃ vs, buildMatrix system index requests = .ok vs ∧
      requests.map (·.variantOn system) = vs.map .ok := by
  induction requests generalizing index with
  | nil => exact ⟨[], rfl, rfl⟩
  | cons r requests ih =>
    rw [List.forall_mem_cons] at h
    obtain ⟨⟨v, hv⟩, hrest⟩ := h
    obtain ⟨vs, hvs, hmap⟩ := ih (index + 1) hrest
    refine ⟨v :: vs, ?_, ?_⟩
    · rw [buildMatrix_cons, hv, hvs]
      rfl
    · rw [List.map_cons, List.map_cons, hv, hmap]

/-- Where some request cannot be built, the first of them is named. -/
theorem buildMatrix_of_error (index : Nat)
    (h : ¬∀ r ∈ requests, ∃ v, r.variantOn system = .ok v) :
    ∃ i r e, requests[i]? = some r ∧ r.variantOn system = .error e ∧
      (∀ r' ∈ requests.take i, ∃ v, r'.variantOn system = .ok v) ∧
      buildMatrix system index requests = .error (.requestOfMatrix (index + i) e) := by
  induction requests generalizing index with
  | nil => exact absurd (List.forall_mem_nil _) h
  | cons r requests ih =>
    cases hr : r.variantOn system with
    | error e =>
      refine ⟨0, r, e, rfl, hr, List.forall_mem_nil _, ?_⟩
      rw [buildMatrix_cons, hr]
      rfl
    | ok v =>
      have hrest : ¬∀ r ∈ requests, ∃ v, r.variantOn system = .ok v :=
        fun hall => h (List.forall_mem_cons.2 ⟨⟨v, hr⟩, hall⟩)
      obtain ⟨i, r', e, hget, he, hbefore, hbuild⟩ := ih (index + 1) hrest
      refine ⟨i + 1, r', e, hget, he, ?_, ?_⟩
      · rw [List.take_succ_cons]
        exact List.forall_mem_cons.2 ⟨⟨v, hr⟩, hbefore⟩
      · rw [buildMatrix_cons, hr, hbuild, Nat.add_right_comm, Nat.add_assoc]
        rfl

end Building

/-! ## Resolving -/

theorem value_resolveVariant_json (host : Host) (v : Variant) :
    match (v.resolvePlan host).value with
    | .ok plan => (resolveVariant host .json v).value = .printed [plan.toJson.indented]
    | .error e => ∃ cause, e = .config cause ∧
        (resolveVariant host .json v).value = .failed (.invalid cause) := by
  have hvalidated : v.validate.value = v.validate? := rfl
  rw [Variant.value_resolvePlan, resolveVariant, Logged.value_bind, hvalidated]
  cases v.validate? with
  | error e => exact ⟨e, rfl, rfl⟩
  | ok valid => rfl

/-- Whether a value is an object with a member of a name. -/
def hasMember (name : String) : Json → Bool
  | .object members => members.any (·.1 == name)
  | _ => false

/-- The entries of a matrix, by what resolving each variant gives. -/
def entriesOf (answers : List (Except PlanError BuildPlan)) : List Json :=
  answers.mapIdx matrixEntry

theorem length_filter_entriesOf (answers : List (Except PlanError BuildPlan)) :
    ((entriesOf answers).filter (hasMember "error")).length =
      (answers.filter fun a => !a.toBool).length := by
  have hentry (i : Nat) (a : Except PlanError BuildPlan) :
      hasMember "error" (matrixEntry i a) = !a.toBool := by
    cases a with
    | error e => rfl
    | ok plan => simp [hasMember, matrixEntry, Except.toBool]
  calc ((entriesOf answers).filter (hasMember "error")).length
      = answers.zipIdx.countP fun p => !p.1.toBool := by
        rw [entriesOf, List.mapIdx_eq_zipIdx_map, ← List.countP_eq_length_filter, List.countP_map]
        exact List.countP_congr fun p _ => by rw [Function.comp_apply, hentry]
    _ = (answers.zipIdx.map Prod.fst).countP fun a => !a.toBool := by
        rw [List.countP_map]
        rfl
    _ = (answers.filter fun a => !a.toBool).length := by
        rw [List.zipIdx_map_fst, List.countP_eq_length_filter]

theorem value_resolveVariants_json (host : Host) (vs : List Variant)
    {answers : List (Except PlanError BuildPlan)}
    (h : vs.map (fun v => (v.resolvePlan host).value) = answers) {failed : Nat}
    (hfailed : ((entriesOf answers).filter (hasMember "error")).length = failed) :
    (resolveVariants host .json vs).value =
      ⟨[(Json.list (entriesOf answers)).indented], [],
        if failed = 0 then none else some (.variants failed answers.length)⟩ := by
  have hanswers : (PlanCache.empty.resolveMatrix host vs).value.2.map planOfAnswer = answers :=
    ((PlanCache.faithful_emptyFrom 0).map_planOf_resolveMatrix host vs).trans h
  rw [length_filter_entriesOf] at hfailed
  unfold resolveVariants
  rw [Logged.value_bind]
  dsimp only
  rw [Logged.value_bind, hanswers, hfailed]
  rfl

/-- The output for a matrix: its entries, and how many variants failed if any did. -/
theorem ofResult_resolveVariants_json (filter : LogFilter) (host : Host) (vs : List Variant)
    {answers : List (Except PlanError BuildPlan)}
    (h : vs.map (fun v => (v.resolvePlan host).value) = answers) {failed : Nat}
    (hfailed : ((entriesOf answers).filter (hasMember "error")).length = failed) :
    Output.ofResult filter (resolveVariants host .json vs) =
      ⟨if failed = 0 then 0 else 1, (Json.list (entriesOf answers)).indented ++ "\n",
        unlines (logLines filter (resolveVariants host .json vs).events) ++
          if failed = 0 then "" else "Error: " ++ (countText failed ++ " of " ++
            countText answers.length ++ " variants failed to resolve") ++ "\n"⟩ := by
  rw [Output.ofResult, value_resolveVariants_json host vs h hfailed, List.append_nil,
    unlines_singleton]
  dsimp only
  split
  next => rfl
  next =>
    have hcause (failed total : Nat) : (Failure.variants failed total).cause? = none := rfl
    rw [Option.elim_some, Failure.report_of_no_cause (hcause _ _)]
    rfl

/-! ## Runs -/

section Runs

variable {system : Option System} {log : Option String} {args : List String} {t : FileTree}
  {file : Path} {editable verbose : Bool} {text : String} {doc : Json}

theorem documentIn_eq_ok {α : Type} {kind : DocumentKind} {read : Json → Option α} {a : α}
    (htext : t.readText file = .ok text) (hdoc : Json.parse? text = some doc)
    (ha : read doc = some a) : documentIn t kind read file = .ok a := by
  rw [documentIn, htext]
  dsimp only
  rw [hdoc, Option.bind_some, ha]

theorem run_resolve
    (hargs : readInvocation args =
      .ok ⟨.resolve ⟨some file, [], [], editable⟩ .json, verbose⟩)
    (htext : t.readText file = .ok text) (hdoc : Json.parse? text = some doc) {r : Request}
    (hr : Request.ofJson? doc = some r) {v : Variant} (hv : r.variantOn system = .ok v) :
    ∃ events, (run Files.ofTree system log args t).1 = .ofResult (.choose verbose log)
      ⟨(resolveVariant ⟨!editable⟩ .json v).value, events⟩ := by
  have hvariant : VariantSource.variantIn ⟨some file, [], [], editable⟩ system t = .ok v := by
    have hrequest : VariantSource.requestIn ⟨some file, [], [], editable⟩ t = .ok r :=
      documentIn_eq_ok htext hdoc hr
    rw [VariantSource.variantIn, hrequest]
    show buildVariant system r [] [] = .ok v
    rw [buildVariant_nil, hv]
    rfl
  obtain ⟨events, hresolve⟩ := withVariant_ofTree system ⟨some file, [], [], editable⟩
    (resolveVariant ⟨!editable⟩ .json) t
  rw [hvariant] at hresolve
  rw [run_ofTree hargs, show Command.run Files.ofTree system
    (.resolve ⟨some file, [], [], editable⟩ .json) t = _ from hresolve]
  exact ⟨events, rfl⟩

/-- A run of the matrix command resolves the variants of its requests, or fails before it prints. -/
theorem run_matrix
    (hargs : readInvocation args = .ok ⟨.matrix file editable .json, verbose⟩)
    (htext : t.readText file = .ok text) (hdoc : Json.parse? text = some doc)
    {requests : List Request} (hrequests : Json.list? Request.ofJson? doc = some requests) :
    (run Files.ofTree system log args t).1 = .ofResult (.choose verbose log)
      (match buildMatrix system 0 requests with
        | .error e => pure (.failed e)
        | .ok vs => resolveVariants ⟨!editable⟩ .json vs) := by
  -- Reading the document hands its requests on and leaves the tree as it is.
  have hbind (next : Except Failure (List Request) → StateM FileTree (Logged Result)) :
      (readDocument Files.ofTree .matrix (Json.list? Request.ofJson?) file >>= next) t =
        next (.ok requests) t := by
    show next (readDocument Files.ofTree .matrix (Json.list? Request.ofJson?) file t).1
      (readDocument Files.ofTree .matrix (Json.list? Request.ofJson?) file t).2 = _
    rw [readDocument_ofTree, documentIn_eq_ok htext hdoc hrequests]
  have hmatrix : (Command.run Files.ofTree system (.matrix file editable .json) t).1 =
      match buildMatrix system 0 requests with
        | .error e => pure (.failed e)
        | .ok vs => resolveVariants ⟨!editable⟩ .json vs := by
    show (runMatrix Files.ofTree system file ⟨!editable⟩ .json t).1 = _
    rw [runMatrix, hbind]
    dsimp only
    cases buildMatrix system 0 requests <;> rfl
  rw [run_ofTree hargs]
  dsimp only
  rw [hmatrix]

end Runs

/-! ## Agreement -/

/-- The outputs of the resolve command on a request document alone, in whatever file and tree the
document is. -/
inductive ResolvesAlone (system : Option System) (editable : Bool) (doc : Json) : Output → Prop
  | run {args : List String} {t : FileTree} {log : Option String} {file : Path} {text : String}
      {verbose : Bool}
      (hargs : readInvocation args =
        .ok ⟨.resolve ⟨some file, [], [], editable⟩ .json, verbose⟩)
      (htext : t.readText file = .ok text) (hdoc : Json.parse? text = some doc) :
      ResolvesAlone system editable doc (run Files.ofTree system log args t).1

/-- The entry of a document in a matrix holds the plan that resolving the document alone prints, or
an error if that fails. -/
def IsEntryOf (system : Option System) (editable : Bool) (index : Nat) (doc entry : Json) : Prop :=
  (∃ plan, entry = .object [("index", .integer index), ("plan", plan)] ∧
    ∀ out, ResolvesAlone system editable doc out →
      out.code = 0 ∧ out.out = plan.indented ++ "\n") ∨
  ∃ message, entry = .object [("index", .integer index), ("error", .string message)] ∧
    ∀ out, ResolvesAlone system editable doc out → out.code = 1 ∧ out.out = ""

theorem isEntryOf_matrixEntry {system : Option System} {editable : Bool} {doc : Json} {r : Request}
    (hr : Request.ofJson? doc = some r) {v : Variant} (hv : r.variantOn system = .ok v)
    (index : Nat) :
    IsEntryOf system editable index doc
      (matrixEntry index (v.resolvePlan ⟨!editable⟩).value) := by
  have hvalue := value_resolveVariant_json ⟨!editable⟩ v
  cases hplan : (v.resolvePlan ⟨!editable⟩).value with
  | ok plan =>
    rw [hplan] at hvalue
    refine .inl ⟨plan.toJson, rfl, ?_⟩
    rintro _ ⟨hargs, htext, hdoc⟩
    obtain ⟨events, hrun⟩ := run_resolve hargs htext hdoc hr hv
    rw [hrun, hvalue]
    exact ⟨rfl, unlines_singleton _⟩
  | error e =>
    rw [hplan] at hvalue
    obtain ⟨cause, -, hfailed⟩ := hvalue
    refine .inr ⟨e.message, rfl, ?_⟩
    rintro _ ⟨hargs, htext, hdoc⟩
    obtain ⟨events, hrun⟩ := run_resolve hargs htext hdoc hr hv
    rw [hrun, hfailed]
    exact ⟨rfl, rfl⟩

/-- Documents that are all read give their requests, in their places. -/
theorem getElem?_of_mapM {α β : Type} {read : α → Option β} {docs : List α} {values : List β}
    (h : docs.mapM read = some values) :
    values.length = docs.length ∧ ∀ (i : Nat) (doc : α), docs[i]? = some doc →
      ∃ value, values[i]? = some value ∧ read doc = some value := by
  induction docs generalizing values with
  | nil =>
    obtain rfl : [] = values := Option.some.inj h
    exact ⟨rfl, nofun⟩
  | cons doc docs ih =>
    rw [List.mapM_cons] at h
    obtain ⟨value, hvalue, h⟩ := Option.bind_eq_some_iff.1 h
    obtain ⟨rest, hrest, h⟩ := Option.bind_eq_some_iff.1 h
    obtain rfl : value :: rest = values := Option.some.inj h
    obtain ⟨hlength, hget⟩ := ih hrest
    refine ⟨congrArg (· + 1) hlength, fun i doc' hdoc => ?_⟩
    cases i with
    | zero =>
      cases hdoc
      exact ⟨value, rfl, hvalue⟩
    | succ i => exact hget i doc' hdoc

/-- The requests of documents that are all read have variants in the places of the documents. -/
theorem exists_variantOn_of_document {system : Option System} {docs : List Json}
    {requests : List Request} (hrequests : docs.mapM Request.ofJson? = some requests)
    {vs : List Variant} (hvariants : requests.map (·.variantOn system) = vs.map .ok) {i : Nat}
    {doc : Json} (hdoc : docs[i]? = some doc) :
    ∃ r v, Request.ofJson? doc = some r ∧ r.variantOn system = .ok v ∧ vs[i]? = some v := by
  obtain ⟨r, hr, hread⟩ := (getElem?_of_mapM hrequests).2 i doc hdoc
  have hplace := congrArg (·[i]?) hvariants
  simp only [List.getElem?_map, hr, Option.map_some] at hplace
  obtain ⟨v, hv, hbuild⟩ := Option.map_eq_some_iff.1 hplace.symm
  exact ⟨r, v, hread, hbuild.symm, hv⟩

/-- **A matrix agrees with single requests.** Take a file that holds a list of request documents,
and the arguments that resolve it as a matrix.

* If every request can be built, what is printed is a list with an entry for each document, in
  order. An entry holds its own index and the plan that resolving its document alone prints, or an
  error if that fails, whatever the other documents are. The run succeeds if no entry holds an
  error, and reports the numbers of failed and of all variants otherwise.
* If not, nothing is printed, and the error names the first request that cannot be built. -/
theorem matrix_agrees_with_resolve (system : Option System) (log : Option String)
    {args : List String} {t : FileTree} {file : Path} {editable verbose : Bool} {text : String}
    {docs : List Json} {requests : List Request}
    (hargs : readInvocation args = .ok ⟨.matrix file editable .json, verbose⟩)
    (htext : t.readText file = .ok text) (hdocs : Json.parse? text = some (.list docs))
    (hrequests : docs.mapM Request.ofJson? = some requests) :
    ((∀ r ∈ requests, ∃ v, r.variantOn system = .ok v) →
      ∃ (entries : List Json) (failed : Nat) (events : List Event),
        entries.length = docs.length ∧
        (∀ i doc entry, docs[i]? = some doc → entries[i]? = some entry →
          IsEntryOf system editable i doc entry) ∧
        failed = (entries.filter (hasMember "error")).length ∧
        (run Files.ofTree system log args t).1 =
          ⟨if failed = 0 then 0 else 1, (Json.list entries).indented ++ "\n",
            unlines (logLines (.choose verbose log) events) ++
              if failed = 0 then "" else "Error: " ++ (countText failed ++ " of " ++
                countText docs.length ++ " variants failed to resolve") ++ "\n"⟩) ∧
    ((¬∀ r ∈ requests, ∃ v, r.variantOn system = .ok v) →
      ∃ i r e, requests[i]? = some r ∧ r.variantOn system = .error e ∧
        (∀ r' ∈ requests.take i, ∃ v, r'.variantOn system = .ok v) ∧
        (run Files.ofTree system log args t).1 =
          ⟨1, "", "Error: " ++ ("Request " ++ countText i ++ ": " ++ e.message) ++ "\n"⟩) := by
  have hlist : Json.list? Request.ofJson? (.list docs) = some requests := hrequests
  rw [run_matrix hargs htext hdocs hlist]
  constructor
  · -- Every request is built, and each entry tells about its own variant.
    intro hbuilt
    obtain ⟨vs, hvs, hvariants⟩ := buildMatrix_of_forall_ok 0 hbuilt
    have hcount : vs.length = docs.length := by
      have hlengths := congrArg List.length hvariants
      rw [List.length_map, List.length_map] at hlengths
      rw [← hlengths, (getElem?_of_mapM hrequests).1]
    rw [hvs]
    dsimp only
    have houtput := ofResult_resolveVariants_json (.choose verbose log) ⟨!editable⟩ vs rfl rfl
    generalize hanswers : vs.map (fun v => (v.resolvePlan ⟨!editable⟩).value) = answers at houtput
    have hanswered : answers.length = docs.length := by rw [← hanswers, List.length_map, hcount]
    refine ⟨entriesOf answers, _, (resolveVariants ⟨!editable⟩ .json vs).events, ?_, ?_, rfl, ?_⟩
    · rw [entriesOf, List.length_mapIdx, hanswered]
    · intro i doc entry hdoc hentry
      obtain ⟨r, v, hread, hbuild, hv⟩ := exists_variantOn_of_document hrequests hvariants hdoc
      rw [entriesOf, List.getElem?_mapIdx, ← hanswers, List.getElem?_map, hv] at hentry
      obtain rfl := Option.some.inj hentry
      exact isEntryOf_matrixEntry hread hbuild i
    · rw [houtput, hanswered]
  · -- The first request that cannot be built is named before anything is printed.
    intro hunbuilt
    obtain ⟨i, r, e, hr, he, hbefore, hbuild⟩ := buildMatrix_of_error 0 hunbuilt
    refine ⟨i, r, e, hr, he, hbefore, ?_⟩
    rw [hbuild, Nat.zero_add]
    have hreport : (Failure.requestOfMatrix i e).report =
        "Error: " ++ ("Request " ++ countText i ++ ": " ++ e.message) ++ "\n" :=
      Failure.report_of_no_cause rfl
    rw [← hreport]
    exact congrArg (Output.mk 1 "") String.empty_append

/-- A list of two requests, of which the compiler of one is too old. The entry of the other holds
the plan that resolving it alone prints, and the error tells how many failed. -/
theorem matrix_agrees_with_resolve_pair :
    ∃ (good bad plan : Json) (message : String) (events : List Event) (args alone : List String)
      (t : FileTree),
      t.readText ⟨"all.json"⟩ = .ok (Json.list [good, bad]).compact ∧
      t.readText ⟨"good.json"⟩ = .ok good.compact ∧
      (run Files.ofTree (some .linux) none args t).1 =
        ⟨1, (Json.list [.object [("index", .integer 0), ("plan", plan)],
          .object [("index", .integer 1), ("error", .string message)]]).indented ++ "\n",
          unlines (logLines (.choose false none) events) ++
            "Error: 1 of 2 variants failed to resolve\n"⟩ ∧
      (run Files.ofTree (some .linux) none alone t).1.code = 0 ∧
      (run Files.ofTree (some .linux) none alone t).1.out = plan.indented ++ "\n" := by
  let document (version : String) : Json := .object [("settings", .object [
    ("compiler", .string "gcc"), ("compiler.version", .string version)])]
  let requestOf (version : String) : Request := { Request.empty with
    settings := .ofList [("compiler", "gcc"), ("compiler.version", version)] }
  let good := document "12"
  let bad := document "4"
  let bytes (j : Json) : List UInt8 := j.compact.toUTF8.data.toList
  let t : FileTree := FileTree.empty.placeAll [(["all.json"], .file (bytes (.list [good, bad]))),
    (["good.json"], .file (bytes good)), (["bad.json"], .file (bytes bad))]
  let args := ["matrix", "all.json", "--format=json"]
  let alone (file : String) := ["resolve", "--request", file, "--format=json"]
  -- The documents read back from their texts.
  have hwithin (version : String) {depth : Nat} :
      Json.Within Json.Plain (depth + 2) (document version) := by
    refine .object (List.forall_mem_singleton.2 (.object ?_))
    rw [List.forall_mem_cons]
    exact ⟨Json.within_string _, List.forall_mem_singleton.2 (Json.within_string _)⟩
  have hdoc (version : String) :
      Json.parse? (document version).compact = some (document version) :=
    Json.parse?_compact (hwithin version)
  have hdocs : Json.parse? (Json.list [good, bad]).compact = some (.list [good, bad]) := by
    refine Json.parse?_compact (.list ?_)
    rw [List.forall_mem_cons]
    exact ⟨hwithin _, List.forall_mem_singleton.2 (hwithin _)⟩
  have hall : t.readText ⟨"all.json"⟩ = .ok (Json.list [good, bad]).compact := by decide +kernel
  have hgood : t.readText ⟨"good.json"⟩ = .ok good.compact := by decide +kernel
  have hbuilt (r : Request) (hr : r ∈ [requestOf "12", requestOf "4"]) :
      ∃ v, r.variantOn (some .linux) = .ok v := by
    refine exists_of_toBool ?_
    revert r
    decide +kernel
  obtain ⟨entries, failed, events, hlength, hentries, hfailed, houtput⟩ :=
    (matrix_agrees_with_resolve (some .linux) none
      (show readInvocation args = .ok ⟨.matrix ⟨"all.json"⟩ false .json, false⟩ by decide +kernel)
      hall hdocs (show [good, bad].mapM Request.ofJson? = some [requestOf "12", requestOf "4"] by
        decide +kernel)).1 hbuilt
  -- Alone, the one is resolved and the other is refused.
  have hresolves (file : String) {doc : Json} (hdoc : Json.parse? doc.compact = some doc)
      (htext : t.readText ⟨file⟩ = .ok doc.compact)
      (hargs : readInvocation (alone file) =
        .ok ⟨.resolve ⟨some ⟨file⟩, [], [], false⟩ .json, false⟩) :
      ResolvesAlone (some .linux) false doc
        (run Files.ofTree (some .linux) none (alone file) t).1 :=
    .run hargs htext hdoc
  have haccepted := hresolves "good.json" (hdoc "12") hgood (by decide +kernel)
  have hrefused := hresolves "bad.json" (hdoc "4") (by decide +kernel) (by decide +kernel)
  have hcodes : (run Files.ofTree (some .linux) none (alone "good.json") t).1.code = 0 ∧
      (run Files.ofTree (some .linux) none (alone "bad.json") t).1.code = 1 := by decide +kernel
  obtain ⟨first, second, rfl⟩ := List.length_eq_two.1 hlength
  obtain ⟨plan, rfl, hplan⟩ : ∃ plan, first = .object [("index", .integer 0), ("plan", plan)] ∧
      (run Files.ofTree (some .linux) none (alone "good.json") t).1.out =
        plan.indented ++ "\n" := by
    obtain ⟨plan, hfirst, hplan⟩ | ⟨message, -, herror⟩ := hentries 0 good first rfl rfl
    · exact ⟨plan, hfirst, (hplan _ haccepted).2⟩
    · cases hcodes.1.symm.trans (herror _ haccepted).1
  obtain ⟨message, rfl⟩ : ∃ message,
      second = .object [("index", .integer 1), ("error", .string message)] := by
    obtain ⟨plan, -, hplan⟩ | ⟨message, hsecond, -⟩ := hentries 1 bad second rfl rfl
    · cases hcodes.2.symm.trans (hplan _ hrefused).1
    · exact ⟨message, hsecond⟩
  have hone : failed = 1 := hfailed
  have hreport : "Error: " ++ (countText 1 ++ " of " ++ countText [good, bad].length ++
      " variants failed to resolve") ++ "\n" = "Error: 1 of 2 variants failed to resolve\n" := by
    decide +kernel
  rw [hone, if_neg Nat.one_ne_zero, if_neg Nat.one_ne_zero, hreport] at houtput
  exact ⟨good, bad, plan, message, events, args, alone "good.json", t, hall, hgood, houtput,
    hcodes.1, hplan⟩

end CommandLine

end VariantPlan
