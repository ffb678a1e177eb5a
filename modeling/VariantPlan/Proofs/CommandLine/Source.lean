import VariantPlan.CommandLine.Run

/-!
# Documents in a tree

Commands read documents and change nothing by it. What a command reads from a tree is therefore a
function of the tree: the document that a file holds, and the variant that a source describes.

Main results: `readDocument_ofTree`, `assemble_ofTree`, `withVariant_ofTree` and `run_ofTree`.
-/

namespace VariantPlan.CommandLine

theorem exists_of_toBool {ε α : Type} {x : Except ε α} (h : x.toBool = true) : ∃ a, x = .ok a := by
  cases x with
  | error e => cases h
  | ok a => exact ⟨a, rfl⟩

theorem unlines_singleton (line : String) : unlines [line] = line ++ "\n" := by
  simp [unlines]

/-- The document that a file of a tree holds. -/
def documentIn {α : Type} (t : FileTree) (kind : DocumentKind) (read : Json → Option α)
    (file : Path) : Except Failure α :=
  match t.readText file with
  | .error e => .error (.unreadable kind file e)
  | .ok text =>
    match (Json.parse? text).bind read with
    | some a => .ok a
    | none => .error (.malformed kind file)

/-- The request that a source names in a tree, or the empty one. -/
def VariantSource.requestIn (source : VariantSource) (t : FileTree) : Except Failure Request :=
  match source.request with
  | none => .ok .empty
  | some file => documentIn t .request Request.ofJson? file

/-- The variant that a source describes in a tree. -/
def VariantSource.variantIn (source : VariantSource) (system : Option System) (t : FileTree) :
    Except Failure Variant :=
  (source.requestIn t).bind fun r => buildVariant system r source.settings source.options

theorem readDocument_ofTree {α : Type} (t : FileTree) (kind : DocumentKind)
    (read : Json → Option α) (file : Path) :
    readDocument Files.ofTree kind read file t = (documentIn t kind read file, t) := by
  have hbind (next : Except IoError String → StateM FileTree (Except Failure α)) :
      (Files.ofTree.readText file >>= next) t = next (t.readText file) t := rfl
  rw [readDocument, hbind, documentIn]
  cases t.readText file with
  | error e => rfl
  | ok text =>
    dsimp only
    cases (Json.parse? text).bind read <;> rfl

/-- The events of having built a variant, or of having failed. -/
def assembledEvents : Except Failure Variant → List Event
  | .ok v => [assembledEvent v]
  | .error _ => []

/-- A command builds the variant that a source describes and leaves the tree as it is. -/
theorem assemble_ofTree (system : Option System) (source : VariantSource) (t : FileTree) :
    assemble Files.ofTree system source t =
      (⟨source.variantIn system t, assembledEvents (source.variantIn system t)⟩, t) := by
  unfold assemble VariantSource.variantIn VariantSource.requestIn
  cases source.request with
  | none =>
    rw [pure_bind]
    dsimp only
    generalize Except.bind _ (fun r => buildVariant system r source.settings source.options) = built
    cases built <;> rfl
  | some file =>
    have hbind (next : Except Failure Request →
        StateM FileTree (Logged (Except Failure Variant))) :
        (readDocument Files.ofTree .request Request.ofJson? file >>= next) t =
          next (documentIn t .request Request.ofJson? file) t := by
      show next (readDocument Files.ofTree .request Request.ofJson? file t).1
        (readDocument Files.ofTree .request Request.ofJson? file t).2 = _
      rw [readDocument_ofTree]
    refine (hbind _).trans ?_
    dsimp only
    generalize Except.bind _ (fun r => buildVariant system r source.settings source.options) = built
    cases built <;> rfl

theorem assemble_bind_ofTree {α : Type} (system : Option System) (source : VariantSource)
    (next : Logged (Except Failure Variant) → StateM FileTree α) (t : FileTree) :
    (assemble Files.ofTree system source >>= next) t =
      next ⟨source.variantIn system t, assembledEvents (source.variantIn system t)⟩ t := by
  show next (assemble Files.ofTree system source t).1
    (assemble Files.ofTree system source t).2 = _
  rw [assemble_ofTree]

theorem withVariant_ofTree (system : Option System) (source : VariantSource)
    (go : Variant → Logged Result) (t : FileTree) :
    ∃ events, withVariant Files.ofTree system source go t =
      (match source.variantIn system t with
        | .error e => ⟨.failed e, events⟩
        | .ok v => ⟨(go v).value, events⟩, t) := by
  rw [withVariant, assemble_bind_ofTree]
  cases source.variantIn system t with
  | error e => exact ⟨_, rfl⟩
  | ok v => exact ⟨_, rfl⟩

theorem run_ofTree {args : List String} {invocation : Invocation}
    (h : readInvocation args = .ok invocation) (system : Option System) (log : Option String)
    (t : FileTree) :
    run Files.ofTree system log args t =
      (.ofResult (.choose invocation.verbose log)
        (invocation.command.run Files.ofTree system t).1,
        (invocation.command.run Files.ofTree system t).2) := by
  rw [run, h]
  rfl

end VariantPlan.CommandLine
