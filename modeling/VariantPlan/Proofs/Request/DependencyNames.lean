import VariantPlan.Proofs.Request.Reordering
import VariantPlan.Proofs.Request.Tokens
import VariantPlan.Proofs.Session

/-!
# Names in the tokens of dependencies

A token is cut at its first `=`, and the blanks around both parts are dropped. What is before it
must not be empty then, so a plain key is a **name**: it is there, and has no blanks around it. A
key with a `:` in it is cut once more, and nothing is dropped from the two texts, nor is any of them
asked to be there. All that is known of them is that the first one does not begin with a blank, and
that the second one does not end with one.

Main results: `ofOptionToken_eq_dependency_iff` and `exists_token_iff` (which options of
dependencies tokens stand for), `dependency_token_names` and `unnamed_dependency_written`.
-/

namespace VariantPlan

variable {token name key : String} {before after : List Char} {value : OptionValue} {b : Builder}

/-! ## Names -/

/-- A text is there, and has no blanks around it. -/
def IsName (s : String) : Prop := s ≠ "" ∧ Text.IsBare s.toList

instance : DecidablePred IsName := fun s =>
  inferInstanceAs (Decidable (s ≠ "" ∧ Text.IsBare s.toList))

/-- A text that does not begin with a blank is a name if its last character is no blank. -/
theorem isName_iff_getLast? {s : String} (h : ∀ c ∈ s.toList.head?, Text.isBlank c = false) :
    IsName s ↔ ∃ c ∈ s.toList.getLast?, Text.isBlank c = false := by
  constructor
  · rintro ⟨hne, hbare⟩
    obtain ⟨c, hc⟩ := Option.isSome_iff_exists.1
      (List.getLast?_isSome.2 (mt String.toList_eq_nil_iff.1 hne))
    exact ⟨c, hc, hbare.last c hc⟩
  · rintro ⟨c, hc, hblank⟩
    refine ⟨?_, h, fun d hd => Option.mem_unique hc hd ▸ hblank⟩
    rintro rfl
    cases hc

/-- A text that does not end with a blank is a name if its first character is no blank. -/
theorem isName_iff_head? {s : String} (h : ∀ c ∈ s.toList.getLast?, Text.isBlank c = false) :
    IsName s ↔ ∃ c ∈ s.toList.head?, Text.isBlank c = false := by
  constructor
  · rintro ⟨hne, hbare⟩
    obtain ⟨c, hc⟩ := Option.isSome_iff_exists.1
      (List.isSome_head?.2 (mt String.toList_eq_nil_iff.1 hne))
    exact ⟨c, hc, hbare.head c hc⟩
  · rintro ⟨c, hc, hblank⟩
    refine ⟨?_, fun d hd => Option.mem_unique hc hd ▸ hblank, h⟩
    rintro rfl
    cases hc

/-! ## Where a token is cut -/

/-- What stands before the first `=` of a token, and what stands after it. -/
structure IsCut (token : String) (before after : List Char) : Prop where
  text : token.toList = before ++ '=' :: after
  first : '=' ∉ before

theorem IsCut.cutText?_eq (h : IsCut token before after) :
    Text.cutText? '=' token = some (String.ofList before, String.ofList after) := by
  rw [Text.cutText?, Text.cut?_eq_some_iff.2 ⟨h.text, h.first⟩, Option.map_some]

theorem exists_isCut_or (token : String) :
    '=' ∉ token.toList ∨ ∃ before after, IsCut token before after := by
  cases hcut : Text.cut? '=' token.toList with
  | none => exact .inl (Text.cut?_eq_none_iff.1 hcut)
  | some parts =>
    obtain ⟨htext, hfirst⟩ := Text.cut?_eq_some_iff.1 hcut
    exact .inr ⟨_, _, htext, hfirst⟩

namespace Assignment

open Builder (splitToken)

theorem splitToken_of_not_mem (h : '=' ∉ token.toList) :
    splitToken token = .error (.unknownOption token) := by
  rw [splitToken, Text.cutText?, Text.cut?_eq_none_iff.2 h, Option.map_none]

/-- A token is refused if there are blanks only before its first `=`. -/
theorem splitToken_of_isCut (h : IsCut token before after) :
    splitToken token = if Text.trim before = [] then .error (.unknownOption token)
      else .ok (String.ofList (Text.trim before), String.ofList (Text.trim after)) := by
  have hempty : String.ofList (Text.trim before) = "" ↔ Text.trim before = [] := by
    rw [← String.toList_eq_nil_iff, String.toList_ofList]
  simp only [splitToken, h.cutText?_eq, Text.trimmed, String.toList_ofList, hempty]

theorem isName_of_splitToken {value : String} (h : splitToken token = .ok (key, value)) :
    IsName key := by
  rcases exists_isCut_or token with hnot | ⟨before, after, hcut⟩
  · rw [splitToken_of_not_mem hnot] at h
    cases h
  · rw [splitToken_of_isCut hcut] at h
    split_ifs at h with hempty
    obtain ⟨rfl, -⟩ := Prod.mk.inj (Except.ok.inj h)
    refine ⟨fun heq => hempty ?_, ?_⟩
    · rw [← String.toList_ofList (l := Text.trim before), heq]
      rfl
    · rw [String.toList_ofList]
      exact (Text.isCore_trim before).toIsBare

/-! ## Keys with a colon -/

/-- A key with a `:` in it stands for an option of a dependency, whatever the names are. -/
theorem ofOptionToken_of_mem (h : IsCut token before after) (hcolon : ':' ∈ before) :
    ∃ name key, Text.trim before = name.toList ++ ':' :: key.toList ∧ ':' ∉ name.toList ∧
      ofOptionToken token =
        .ok (.dependency name key (.ofToken (String.ofList (Text.trim after)))) := by
  have hmem : ':' ∈ Text.trim before := ((Text.isCore_trim before).mem_iff (by decide)).2 hcolon
  obtain ⟨cs, ds, hcut⟩ : ∃ cs ds, Text.cut? ':' (Text.trim before) = some (cs, ds) := by
    cases hcut : Text.cut? ':' (Text.trim before) with
    | none => exact absurd hmem (Text.cut?_eq_none_iff.1 hcut)
    | some parts => exact ⟨_, _, rfl⟩
  obtain ⟨htext, hfirst⟩ := Text.cut?_eq_some_iff.1 hcut
  refine ⟨String.ofList cs, String.ofList ds, ?_, ?_, ?_⟩
  · rw [htext, String.toList_ofList, String.toList_ofList]
  · rwa [String.toList_ofList]
  · have hsplit := splitToken_of_isCut h
    rw [if_neg (List.ne_nil_of_mem hmem)] at hsplit
    have hkey : Text.cutText? ':' (String.ofList (Text.trim before)) =
        some (String.ofList cs, String.ofList ds) := by
      rw [Text.cutText?, String.toList_ofList, hcut, Option.map_some]
    simp only [ofOptionToken, hsplit, bind, Except.bind, hkey]
    rfl

theorem ofOptionToken_of_not_mem (h : IsCut token before after) (hcolon : ':' ∉ before) :
    ofOptionToken token = if Text.trim before = [] then .error (.unknownOption token)
      else ofOption (String.ofList (Text.trim before))
        (.ofToken (String.ofList (Text.trim after))) := by
  have hkey : Text.cutText? ':' (String.ofList (Text.trim before)) = none := by
    have hmem : ':' ∉ Text.trim before :=
      mt ((Text.isCore_trim before).mem_iff (by decide)).1 hcolon
    rw [Text.cutText?, String.toList_ofList, Text.cut?_eq_none_iff.2 hmem, Option.map_none]
  rw [ofOptionToken, splitToken_of_isCut h]
  split_ifs with hempty
  · rfl
  · simp only [bind, Except.bind, hkey]

theorem ofOption_ne_dependency {v : OptionValue} :
    ofOption key v ≠ .ok (.dependency name name' value) := by
  intro h
  cases field_of_ofOption h

/-- **The option of a dependency that a token stands for**: the key without the blanks around it is
cut at its first `:`. -/
theorem ofOptionToken_eq_dependency_iff :
    ofOptionToken token = .ok (.dependency name key value) ↔
      ∃ before after, IsCut token before after ∧
        Text.trim before = name.toList ++ ':' :: key.toList ∧ ':' ∉ name.toList ∧
        value = .ofToken (String.ofList (Text.trim after)) := by
  constructor
  · intro h
    rcases exists_isCut_or token with hnot | ⟨before, after, hcut⟩
    · rw [ofOptionToken, splitToken_of_not_mem hnot] at h
      cases h
    · by_cases hcolon : ':' ∈ before
      · obtain ⟨name', key', htext, hfirst, hread⟩ := ofOptionToken_of_mem hcut hcolon
        rw [hread] at h
        cases h
        exact ⟨before, after, hcut, htext, hfirst, rfl⟩
      · rw [ofOptionToken_of_not_mem hcut hcolon] at h
        split_ifs at h
        exact absurd h ofOption_ne_dependency
  · rintro ⟨before, after, hcut, htext, hfirst, rfl⟩
    have hcolon : ':' ∈ before := by
      rw [← (Text.isCore_trim before).mem_iff (by decide), htext]
      simp
    obtain ⟨name', key', htext', hfirst', hread⟩ := ofOptionToken_of_mem hcut hcolon
    -- The first `:` is in one place.
    have hname := Text.cut?_eq_some_iff.2 ⟨htext, hfirst⟩
    rw [Text.cut?_eq_some_iff.2 ⟨htext', hfirst'⟩, Option.some.injEq, Prod.mk.injEq,
      String.toList_inj, String.toList_inj] at hname
    obtain ⟨rfl, rfl⟩ := hname
    exact hread

/-- What is known of the two texts: the blanks around both of them are dropped. -/
theorem ends_of_ofOptionToken (h : ofOptionToken token = .ok (.dependency name key value)) :
    (∀ c ∈ name.toList.head?, Text.isBlank c = false) ∧
      ∀ c ∈ key.toList.getLast?, Text.isBlank c = false := by
  obtain ⟨before, after, -, htext, -, -⟩ := ofOptionToken_eq_dependency_iff.1 h
  have hbare : Text.IsBare (Text.trim before) := (Text.isCore_trim before).toIsBare
  rw [htext] at hbare
  exact hbare.of_append_cons

/-- **Which names tokens can have.** The empty text is among them, for the dependency as well as for
its option, and so are texts with blanks at their inner ends. -/
theorem exists_token_iff :
    (∃ token value, ofOptionToken token = .ok (.dependency name key value)) ↔
      ':' ∉ name.toList ∧ '=' ∉ name.toList ∧ '=' ∉ key.toList ∧
        (∀ c ∈ name.toList.head?, Text.isBlank c = false) ∧
        ∀ c ∈ key.toList.getLast?, Text.isBlank c = false := by
  constructor
  · rintro ⟨token, value, h⟩
    obtain ⟨hhead, hlast⟩ := ends_of_ofOptionToken h
    obtain ⟨before, after, hcut, htext, hfirst, -⟩ := ofOptionToken_eq_dependency_iff.1 h
    have hfree : '=' ∉ Text.trim before :=
      mt ((Text.isCore_trim before).mem_iff (by decide)).1 hcut.first
    rw [htext, List.mem_append, List.mem_cons, not_or, not_or] at hfree
    exact ⟨hfirst, hfree.1, hfree.2.2, hhead, hlast⟩
  · rintro ⟨hname, hfree, hkey, hhead, hlast⟩
    have hvalue : (OptionValue.flag true).IsTokenizable := trivial
    exact ⟨_, _, ofOptionToken_join_dependency hname hfree hhead hkey hlast hvalue⟩

end Assignment

/-! ## What a token writes -/

/-- An option of a dependency is written to its own slot and nowhere else. -/
structure Builder.Writes (b b' : Builder) (name key : String) (value : OptionValue) : Prop where
  written : Slot.read b' (.option name key) = some value
  kept : ∀ slot, slot ≠ .option name key → Slot.read b' slot = Slot.read b slot
  system : b'.system = b.system

theorem Builder.writes_assign (b : Builder) (name key : String) (value : OptionValue) :
    b.Writes (b.assign (.dependency name key value)) name key value := by
  refine ⟨?_, fun slot hslot => ?_, rfl⟩
  · rw [read_assign, Slot.written?, if_pos ⟨rfl, rfl⟩]
    rfl
  · rw [read_assign]
    cases slot with
    | option name' key' =>
      rw [Slot.written?, if_neg fun h : name' = name ∧ key' = key => hslot (h.1 ▸ h.2 ▸ rfl)]
      rfl
    | _ => rfl

/-- **What the tokens of dependencies name.** Take any builder and any token.

* A token with a `:` before its first `=` is accepted, whatever stands around it. It writes an
  option of a dependency and changes nothing else; their names are what stands before and after the
  first `:` of the key, whose blanks are dropped as a whole.
* Both names are there and have no blanks around them if something else than a blank stands right
  before that `:` and right after it, and only then.
* No other token writes an option of a dependency.
* The key of a token as a whole is there and has no blanks around it, so a plain key is a name.
* A token that is refused leaves the builder as it is. -/
theorem dependency_token_names (b : Builder) (token : String) :
    (∀ before after, IsCut token before after → ':' ∈ before →
      ∃ name key b', Text.trim before = name.toList ++ ':' :: key.toList ∧ ':' ∉ name.toList ∧
        b.step (.optionToken token) = (.ok (), b') ∧
        b.Writes b' name key (.ofToken (String.ofList (Text.trim after))) ∧
        (IsName name ∧ IsName key ↔
          (∃ c ∈ name.toList.getLast?, Text.isBlank c = false) ∧
            ∃ c ∈ key.toList.head?, Text.isBlank c = false)) ∧
    (∀ name key value, Assignment.ofOptionToken token = .ok (.dependency name key value) →
      ∃ before after, IsCut token before after ∧ ':' ∈ before) ∧
    (∀ key value, Builder.splitToken token = .ok (key, value) → IsName key) ∧
    ∀ e b', b.step (.optionToken token) = (.error e, b') →
      b' = b ∧ ∀ steps, b.run (.optionToken token :: steps) = b.run steps := by
  refine ⟨fun before after hcut hcolon => ?_, fun name key value h => ?_,
    fun key value => Assignment.isName_of_splitToken, fun e b' h => ?_⟩
  · obtain ⟨name, key, htext, hfirst, hread⟩ := Assignment.ofOptionToken_of_mem hcut hcolon
    obtain ⟨hhead, hlast⟩ := Assignment.ends_of_ofOptionToken hread
    refine ⟨name, key, _, htext, hfirst, ?_, b.writes_assign name key _,
      and_congr (isName_iff_getLast? hhead) (isName_iff_head? hlast)⟩
    exact Builder.step_of_ok hread
  · -- A `:` in the trimmed key is one of the key, as a `:` is no blank.
    obtain ⟨before, after, hcut, htext, -, -⟩ := Assignment.ofOptionToken_eq_dependency_iff.1 h
    refine ⟨before, after, hcut, ?_⟩
    rw [← (Text.isCore_trim before).mem_iff (by decide), htext]
    simp
  · cases hread : (BuildStep.optionToken token).assignment with
    | error e' =>
      rw [Builder.step_of_error hread] at h
      cases h
      exact ⟨rfl, fun steps => Builder.run_cons_of_error hread⟩
    | ok a =>
      rw [Builder.step_of_ok hread] at h
      cases h

/-- Blanks around a token are dropped, and both names are there. -/
theorem dependency_token_names_padded :
    ∃ b' : Builder, Builder.default.step (.optionToken " boost:shared = True") = (.ok (), b') ∧
      Builder.default.Writes b' "boost" "shared" (.flag true) ∧ IsName "boost" ∧
      IsName "shared" := by
  have hcut : IsCut " boost:shared = True" " boost:shared ".toList " True".toList :=
    ⟨by decide, by decide⟩
  obtain ⟨name, key, b', htext, hfirst, hstep, hwrites, hnames⟩ :=
    (dependency_token_names .default _).1 _ _ hcut (by decide)
  have hname : Text.cut? ':' (Text.trim " boost:shared ".toList) =
      some ("boost".toList, "shared".toList) := by decide
  rw [Text.cut?_eq_some_iff.2 ⟨htext, hfirst⟩, Option.some.injEq, Prod.mk.injEq, String.toList_inj,
    String.toList_inj] at hname
  obtain ⟨rfl, rfl⟩ := hname
  have hvalue : OptionValue.ofToken (String.ofList (Text.trim " True".toList)) = .flag true := by
    decide
  obtain ⟨hdependency, hoption⟩ :=
    hnames.2 ⟨⟨'t', by decide, by decide⟩, ⟨'s', by decide, by decide⟩⟩
  exact ⟨b', hstep, hvalue ▸ hwrites, hdependency, hoption⟩

/-- **Texts that are no names.** A token with nothing before its `:` writes an option of a
dependency whose name is empty. Blanks around the `:` become parts of both names. -/
theorem unnamed_dependency_written :
    (∃ b' : Builder, Builder.default.step (.optionToken ":header_only=True") = (.ok (), b') ∧
      Builder.default.Writes b' "" "header_only" (.flag true) ∧ ¬IsName "") ∧
    ∃ b' : Builder, Builder.default.step (.optionToken "boost : shared=True") = (.ok (), b') ∧
      Builder.default.Writes b' "boost " " shared" (.flag true) ∧ ¬IsName "boost " ∧
      ¬IsName " shared" := by
  have hstep {token name key : String}
      (h : Assignment.ofOptionToken token = .ok (.dependency name key (.flag true))) :
      Builder.default.step (.optionToken token) =
        (.ok (), Builder.default.assign (.dependency name key (.flag true))) :=
    Builder.step_of_ok h
  exact ⟨⟨_, hstep (by decide), Builder.writes_assign _ _ _ _, by decide⟩,
    _, hstep (by decide), Builder.writes_assign _ _ _ _, by decide, by decide⟩

end VariantPlan
