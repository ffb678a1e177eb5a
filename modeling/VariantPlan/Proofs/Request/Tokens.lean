import Mathlib.Data.List.Basic
import VariantPlan.Proofs.Assignments
import VariantPlan.Proofs.Text.Trimming
import VariantPlan.Variant.Request

/-!
# Requests as tokens

Every entry of a request can be given as a **token**: options and settings as `key=value`, options
of dependencies as `dependency:key=value`, truth values as `True` and `False`. A token is cut at its
first `=` and what is before it at the first `:`, and the blanks around both parts are dropped; so a
request is **tokenizable** if no key is cut or trimmed, no value is trimmed, and no text is taken
for a truth value. Separators inside values do not matter.

The token of an entry makes the assignment that the entry makes, or fails with the same error. A
session depends on the assignments of its steps only, so the tokens of a tokenizable request lead
to the builder of the request, or to its first error.

Main results: `Assignment.splitToken_join` (a token is cut into what it was joined from),
`Request.map_assignment_tokenSteps` and `request_tokens_complete`.
-/

namespace VariantPlan

/-! ## Tokenizable requests -/

/-- A text is neither trimmed nor taken for a truth value. -/
def OptionValue.IsTokenizable : OptionValue → Prop
  | .flag _ => True
  | .text s => Text.IsBare s.toList ∧ Text.lower s ≠ "true" ∧ Text.lower s ≠ "false"

instance : DecidablePred OptionValue.IsTokenizable
  | .flag _ => isTrue trivial
  | .text s => inferInstanceAs (Decidable (Text.IsBare s.toList ∧ _ ∧ _))

/-- A key is there, is not trimmed, and is not cut at its end. -/
def IsTokenKey (key : String) : Prop := key ≠ "" ∧ Text.IsBare key.toList ∧ '=' ∉ key.toList

instance : DecidablePred IsTokenKey := fun key =>
  inferInstanceAs (Decidable (key ≠ "" ∧ Text.IsBare key.toList ∧ '=' ∉ key.toList))

/-- No key of a request is cut or trimmed, and no value is trimmed or taken for another. -/
structure Request.IsTokenizable (r : Request) : Prop where
  option : ∀ e ∈ r.options.toList, IsTokenKey e.1 ∧ ':' ∉ e.1.toList ∧ e.2.IsTokenizable
  setting : ∀ e ∈ r.settings.toList, IsTokenKey e.1 ∧ Text.IsBare e.2.toList
  dependency : ∀ d ∈ r.dependencyOptions.toList, ':' ∉ d.1.toList ∧ '=' ∉ d.1.toList ∧
    ∀ c ∈ d.1.toList.head?, Text.isBlank c = false
  dependencyOption : ∀ d ∈ r.dependencyOptions.toList, ∀ e ∈ d.2.toList,
    '=' ∉ e.1.toList ∧ (∀ c ∈ e.1.toList.getLast?, Text.isBlank c = false) ∧ e.2.IsTokenizable

/-! ## Values -/

namespace OptionValue

variable {v : OptionValue}

theorem ofToken_asText (h : v.IsTokenizable) : ofToken v.asText = v := by
  cases v with
  | flag b => cases b <;> rfl
  | text s =>
    obtain ⟨-, htrue, hfalse⟩ := h
    rw [asText, ofToken, readFlag?, if_neg htrue, if_neg hfalse]

theorem isBare_asText (h : v.IsTokenizable) : Text.IsBare v.asText.toList := by
  cases v with
  | flag b => cases b <;> decide
  | text s => exact h.1

end OptionValue

/-! ## Tokens -/

theorem Text.cutText?_eq_some {sep : Char} {s before after : String}
    (h : s.toList = before.toList ++ sep :: after.toList) (hbefore : sep ∉ before.toList) :
    cutText? sep s = some (before, after) := by
  rw [cutText?, cut?_eq_some_iff.2 ⟨h, hbefore⟩, Option.map_some, String.ofList_toList,
    String.ofList_toList]

namespace Assignment

open Builder (splitToken)

variable {name key value : String} {v : OptionValue}

theorem splitToken_join (hkey : IsTokenKey key) (hvalue : Text.IsBare value.toList) :
    splitToken (key ++ "=" ++ value) = .ok (key, value) := by
  obtain ⟨hne, hbare, hfree⟩ := hkey
  have hcut : Text.cutText? '=' (key ++ "=" ++ value) = some (key, value) :=
    Text.cutText?_eq_some (by simp [String.toList_append]) hfree
  simp only [splitToken, hcut, Text.trimmed_eq_self hbare, Text.trimmed_eq_self hvalue, if_neg hne]

theorem ofSettingToken_join (hkey : IsTokenKey key) (hvalue : Text.IsBare value.toList) :
    ofSettingToken (key ++ "=" ++ value) = ofSetting key value := by
  rw [ofSettingToken, splitToken_join hkey hvalue]
  rfl

theorem ofOptionToken_join (hkey : IsTokenKey key) (hname : ':' ∉ key.toList)
    (hvalue : v.IsTokenizable) : ofOptionToken (key ++ "=" ++ v.asText) = ofOption key v := by
  have hcut : Text.cutText? ':' key = none := by
    rw [Text.cutText?, Text.cut?_eq_none_iff.2 hname, Option.map_none]
  have hsplit := splitToken_join hkey (OptionValue.isBare_asText hvalue)
  simp only [ofOptionToken, hsplit, bind, Except.bind, hcut, OptionValue.ofToken_asText hvalue]

theorem ofOptionToken_join_dependency (hname : ':' ∉ name.toList) (hfree : '=' ∉ name.toList)
    (hhead : ∀ c ∈ name.toList.head?, Text.isBlank c = false) (hkey : '=' ∉ key.toList)
    (hlast : ∀ c ∈ key.toList.getLast?, Text.isBlank c = false) (hvalue : v.IsTokenizable) :
    ofOptionToken (name ++ ":" ++ key ++ "=" ++ v.asText) = .ok (.dependency name key v) := by
  have hjoined : (name ++ ":" ++ key).toList = name.toList ++ ':' :: key.toList := by
    simp [String.toList_append]
  have hcut : Text.cutText? ':' (name ++ ":" ++ key) = some (name, key) :=
    Text.cutText?_eq_some hjoined hname
  have hjoinedKey : IsTokenKey (name ++ ":" ++ key) := by
    refine ⟨fun hempty => ?_, ?_, ?_⟩
    · rw [hempty] at hjoined
      simp at hjoined
    · rw [hjoined]
      exact Text.isBare_append_cons (by decide) hhead hlast
    · rw [hjoined]
      simp [hfree, hkey]
  have hsplit := splitToken_join hjoinedKey (OptionValue.isBare_asText hvalue)
  simp only [ofOptionToken, hsplit, bind, Except.bind, hcut, OptionValue.ofToken_asText hvalue]
  rfl

end Assignment

namespace Request

def optionTokens (r : Request) : List String :=
  r.options.toList.map fun e => e.1 ++ "=" ++ e.2.asText

def settingTokens (r : Request) : List String :=
  r.settings.toList.map fun e => e.1 ++ "=" ++ e.2

def dependencyTokens (r : Request) : List String :=
  r.dependencyOptions.toList.flatMap fun d =>
    d.2.toList.map fun e => d.1 ++ ":" ++ e.1 ++ "=" ++ e.2.asText

/-- The steps that give a request's entries as tokens. -/
def tokenSteps (r : Request) : List BuildStep :=
  r.optionTokens.map .optionToken ++ r.settingTokens.map .settingToken ++
    r.dependencyTokens.map .optionToken

/-! ## Sessions -/

/-- The token of an entry makes the entry's assignment, or fails with its error. -/
theorem map_assignment_tokenSteps {r : Request} (h : r.IsTokenizable) :
    r.tokenSteps.map BuildStep.assignment = r.steps.map BuildStep.assignment := by
  unfold tokenSteps steps optionTokens settingTokens dependencyTokens
  simp only [List.map_append, List.map_map, List.map_flatMap]
  congr 1
  · congr 1
    · refine List.map_congr_left fun e he => ?_
      obtain ⟨hkey, hname, hvalue⟩ := h.option e he
      exact Assignment.ofOptionToken_join hkey hname hvalue
    · refine List.map_congr_left fun e he => ?_
      obtain ⟨hkey, hvalue⟩ := h.setting e he
      exact Assignment.ofSettingToken_join hkey hvalue
  · refine List.flatMap_congr fun d hd => List.map_congr_left fun e he => ?_
    obtain ⟨hname, hfree, hhead⟩ := h.dependency d hd
    obtain ⟨hkey, hlast, hvalue⟩ := h.dependencyOption d hd e he
    exact Assignment.ofOptionToken_join_dependency hname hfree hhead hkey hlast hvalue

end Request

/-- A session depends on the assignments of its steps only. -/
theorem Builder.runAll_congr {steps steps' : List BuildStep}
    (h : steps.map BuildStep.assignment = steps'.map BuildStep.assignment) (b : Builder) :
    b.runAll steps = b.runAll steps' := by
  have hmap (l : List BuildStep) : b.runAll l =
      (l.map BuildStep.assignment).foldlM (fun b a => b.assign <$> a) b := by
    rw [List.foldlM_map, runAll, funext fun b => funext (advance_eq b)]
  rw [hmap, hmap, h]

/-- **Requests and tokens agree.** The tokens of a tokenizable request, in the order of its
entries, take every builder to where the entries take it, or fail with the same error, and the
defaults to the builder that the request leads to. -/
theorem request_tokens_complete (r : Request) (h : r.IsTokenizable) :
    (∀ b : Builder, b.runAll r.tokenSteps = b.runAll r.steps) ∧
      Builder.default.runAll r.tokenSteps = r.toBuilder := by
  have hruns (b : Builder) : b.runAll r.tokenSteps = b.runAll r.steps :=
    Builder.runAll_congr (Request.map_assignment_tokenSteps h) b
  exact ⟨hruns, hruns _⟩

/-- A request with separators in its values, after a blank in a key of a dependency and with a truth
value leads to a builder, and so do its tokens. An option that does not exist is refused in the same
words either way. -/
theorem request_tokens_complete_separators :
    let entries : Request := ⟨.ofList [("python_version", .text "=3:9"), ("shared", .flag false)],
      .ofList [("compiler.toolset", "host=x64:v1")],
      .ofList [("boost", .ofList [(" a:b", .text "x=y: z")])]⟩
    let unknown : Request := ⟨.ofList [("pic", .text "a=b")], .empty, .empty⟩
    entries.tokenSteps = [.optionToken "python_version==3:9", .optionToken "shared=False",
        .settingToken "compiler.toolset=host=x64:v1", .optionToken "boost: a:b=x=y: z"] ∧
      Builder.default.runAll entries.tokenSteps = entries.toBuilder ∧
      (∃ b, entries.toBuilder = .ok b) ∧
      Builder.default.runAll unknown.tokenSteps = .error (.unknownOption "pic") := by
  intro entries unknown
  have hnames : entries.dependencyOptions.toList =
      [("boost", .ofList [(" a:b", .text "x=y: z")])] := by decide +kernel
  have hkeys : (SortedMap.ofList [(" a:b", OptionValue.text "x=y: z")]).toList =
      [(" a:b", .text "x=y: z")] := by decide +kernel
  have hentries : entries.IsTokenizable := by
    refine ⟨by decide +kernel, by decide +kernel, ?_, ?_⟩
    · rw [hnames, List.forall_mem_singleton]
      refine ⟨by decide, by decide, ?_⟩
      rintro c ⟨rfl⟩
      decide
    · rw [hnames, List.forall_mem_singleton, hkeys, List.forall_mem_singleton]
      refine ⟨by decide, ?_, by decide⟩
      rintro c ⟨rfl⟩
      decide
  have hunknown : unknown.IsTokenizable :=
    ⟨by decide +kernel, by decide +kernel, nofun, nofun⟩
  refine ⟨by decide +kernel, (request_tokens_complete entries hentries).2, ?_, ?_⟩
  · have hread : entries.toBuilder.toOption.isSome = true := by decide +kernel
    cases h : entries.toBuilder with
    | ok b => exact ⟨b, rfl⟩
    | error e =>
      rw [h] at hread
      cases hread
  · rw [(request_tokens_complete unknown hunknown).2]
    rfl

end VariantPlan
