import Mathlib.Logic.Relation
import VariantPlan.Document.Identity
import VariantPlan.Plan.Cache
import VariantPlan.Proofs.Family
import VariantPlan.Proofs.Session
import VariantPlan.Proofs.Text.Trimming

/-!
# Spellings of a family

A family may be spelled in many ways. One **change** of its spelling changes the case of ASCII
letters, puts blanks around the text, puts other blanks between two words, or puts a hyphen in their
place. Two texts are spellings of one family if such changes, made or taken back, lead from the one
to the other.

Normalizing is described letter by letter: blanks at the start are dropped, and any other character
is lowered and followed by a hyphen if blanks and another word come next. So a text is taken apart
behind every character that is no blank (`familyChars_append`), and no change has an effect on the
normal form. Conversely a text is changed step by step into its normal form: the blanks around it
are taken away, then blanks between two words become a hyphen as long as there are any, and what is
left has capitals to be lowered only.

Main results: `Compiler.normalizeFamily_eq_iff` (the normal form tells families apart and nothing
else), `Builder.build_run_eq_of_respelled` (the spelling makes no difference in a session) and
`family_spellings`.
-/

namespace VariantPlan

namespace Compiler

open Text

/-! ## Respelling -/

/-- Blanks between two words. -/
structure IsGap (front gap back : List Char) : Prop where
  nonempty : gap ≠ []
  blank : ∀ c ∈ gap, isBlank c = true
  behindWord : ∃ c ∈ front.getLast?, isBlank c = false
  beforeWord : ∃ c ∈ back.head?, isBlank c = false

/-- One change in how a family is spelled. -/
inductive Respells : List Char → List Char → Prop where
  /-- Change the case of ASCII letters. -/
  | letters {cs ds : List Char} (h : cs.map Char.toLower = ds.map Char.toLower) : Respells cs ds
  /-- Put blanks around the text. -/
  | blanksAround {before after : List Char} (hbefore : ∀ c ∈ before, isBlank c = true)
    (cs : List Char) (hafter : ∀ c ∈ after, isBlank c = true) :
    Respells cs (before ++ cs ++ after)
  /-- Put other blanks between two words. -/
  | blanksBetween {front gap gap' back : List Char} (h : IsGap front gap back)
    (h' : IsGap front gap' back) : Respells (front ++ gap ++ back) (front ++ gap' ++ back)
  /-- Put a hyphen in the place of the blanks between two words. -/
  | hyphen {front gap back : List Char} (h : IsGap front gap back) :
    Respells (front ++ gap ++ back) (front ++ '-' :: back)

/-- Changes in how a family is spelled, made or taken back one after another. -/
def Respelled (s t : String) : Prop := Relation.EqvGen Respells s.toList t.toList

/-! ## Families letter by letter -/

/-- The characters of a family in normal form. -/
def familyChars (cs : List Char) : List Char :=
  ['-'].intercalate ((words cs).map (·.map Char.toLower))

theorem normalizeFamily_eq (s : String) :
    normalizeFamily s = String.ofList (familyChars s.toList) := rfl

/-- What stands for the blanks that a text starts with behind a word: a hyphen if there are any and
another word follows. -/
def hyphenBefore (cs : List Char) : List Char :=
  if cs.head?.any isBlank && !(words cs).isEmpty then ['-'] else []

variable {c : Char} {cs ds front gap back before after core : List Char}

theorem familyChars_cons_of_blank (h : isBlank c = true) (cs : List Char) :
    familyChars (c :: cs) = familyChars cs := by
  rw [familyChars, words_cons_of_blank h, familyChars]

theorem familyChars_cons_of_not_blank (h : isBlank c = false) (cs : List Char) :
    familyChars (c :: cs) = c.toLower :: (hyphenBefore cs ++ familyChars cs) := by
  unfold hyphenBefore familyChars
  rw [words_cons_of_not_blank h]
  cases cs with
  | nil => rfl
  | cons d cs =>
    cases hwords : words (d :: cs) with
    | nil => simp [words_eq_nil_iff.1 hwords d]
    | cons w ws => cases hd : isBlank d <;> cases ws <;> simp [hd]

theorem hyphenBefore_of_not_blank (h : ∀ c ∈ cs.head?, isBlank c = false) :
    hyphenBefore cs = [] := by
  cases cs with
  | nil => rfl
  | cons c cs => simp [hyphenBefore, h c rfl]

theorem familyChars_append_of_blank (h : ∀ c ∈ before, isBlank c = true) (cs : List Char) :
    familyChars (before ++ cs) = familyChars cs := by
  induction before with
  | nil => rfl
  | cons c before ih =>
    rw [List.forall_mem_cons] at h
    rw [List.cons_append, familyChars_cons_of_blank h.1, ih h.2]

theorem familyChars_of_blank (h : ∀ c ∈ cs, isBlank c = true) : familyChars cs = [] := by
  rw [familyChars, words_eq_nil_iff.2 h]
  rfl

/-- A text is taken apart behind any character that is no blank. -/
theorem familyChars_append (h : ∃ c ∈ front.getLast?, isBlank c = false) (cs : List Char) :
    familyChars (front ++ cs) = familyChars front ++ (hyphenBefore cs ++ familyChars cs) := by
  induction front with
  | nil => simp at h
  | cons c front ih =>
    cases front with
    | nil =>
      obtain ⟨d, hd, hblank⟩ := h
      obtain rfl : c = d := by simpa using hd
      rw [List.singleton_append, familyChars_cons_of_not_blank hblank,
        familyChars_cons_of_not_blank hblank]
      rfl
    | cons d front =>
      have hlast : ∃ c ∈ (d :: front).getLast?, isBlank c = false := by
        simpa using h
      cases hc : isBlank c with
      | true => rw [List.cons_append, familyChars_cons_of_blank hc, familyChars_cons_of_blank hc,
          ih hlast]
      | false =>
        -- A word comes after the character on either side, so the hyphen is set or not alike.
        have hwords : ∀ rest, (words (d :: front ++ rest)).isEmpty = false := by
          intro rest
          obtain ⟨e, he, hblank⟩ := hlast
          rw [List.isEmpty_eq_false_iff, ne_eq, words_eq_nil_iff]
          intro hall
          rw [hall e (List.mem_append_left _ (List.mem_of_getLast? he))] at hblank
          cases hblank
        have hhyphen : hyphenBefore (d :: front ++ cs) = hyphenBefore (d :: front) := by
          have hself := hwords []
          rw [List.append_nil] at hself
          rw [hyphenBefore, hyphenBefore, hwords cs, hself]
          rfl
        rw [List.cons_append, familyChars_cons_of_not_blank hc, hhyphen, ih hlast,
          familyChars_cons_of_not_blank hc, List.cons_append, List.append_assoc]

theorem familyChars_of_isCore (h : IsCore core cs) : familyChars cs = familyChars core := by
  obtain ⟨before, after, rfl, hbefore, hafter⟩ := h.padded
  rw [familyChars_append_of_blank hbefore]
  cases hlast : core.getLast? with
  | none =>
    rw [List.getLast?_eq_none_iff.1 hlast, List.nil_append, familyChars_of_blank hafter,
      familyChars_of_blank (List.forall_mem_nil _)]
  | some last =>
    have hhyphen : hyphenBefore after = [] := by
      rw [hyphenBefore, words_eq_nil_iff.2 hafter, List.isEmpty_nil, Bool.not_true,
        Bool.and_false, if_neg Bool.false_ne_true]
    rw [familyChars_append ⟨last, hlast, h.last last hlast⟩, hhyphen,
      familyChars_of_blank hafter, List.append_nil, List.append_nil]

theorem hyphenBefore_map_toLower (cs : List Char) :
    hyphenBefore (cs.map Char.toLower) = hyphenBefore cs := by
  have hwords : (words (cs.map Char.toLower)).isEmpty = (words cs).isEmpty := by
    rw [Bool.eq_iff_iff, List.isEmpty_iff, List.isEmpty_iff, words_eq_nil_iff, words_eq_nil_iff,
      List.forall_mem_map]
    simp only [isBlank_toLower]
  rw [hyphenBefore, hwords, List.head?_map, hyphenBefore]
  cases cs.head? <;> simp [isBlank_toLower]

theorem familyChars_map_toLower (cs : List Char) :
    familyChars (cs.map Char.toLower) = familyChars cs := by
  induction cs with
  | nil => rfl
  | cons c cs ih =>
    rw [List.map_cons]
    cases hc : isBlank c with
    | true => rw [familyChars_cons_of_blank ((isBlank_toLower c).trans hc),
        familyChars_cons_of_blank hc, ih]
    | false => rw [familyChars_cons_of_not_blank ((isBlank_toLower c).trans hc),
        familyChars_cons_of_not_blank hc, toLower_toLower, hyphenBefore_map_toLower, ih]

/-- Blanks between two words count as one hyphen. -/
theorem IsGap.familyChars_eq (h : IsGap front gap back) :
    familyChars (front ++ gap ++ back) = familyChars front ++ '-' :: familyChars back := by
  obtain ⟨c, hc, hblank⟩ := h.beforeWord
  have hhyphen : hyphenBefore (gap ++ back) = ['-'] := by
    obtain ⟨d, gap, rfl⟩ := List.exists_cons_of_ne_nil h.nonempty
    have hwords : words (d :: gap ++ back) ≠ [] := by
      intro hnil
      rw [words_eq_nil_iff.1 hnil c (List.mem_append_right _ (List.mem_of_head? hc))] at hblank
      cases hblank
    rw [hyphenBefore, List.cons_append, List.head?_cons, Option.any_some,
      h.blank d List.mem_cons_self, ← List.cons_append, List.isEmpty_eq_false_iff.2 hwords]
    rfl
  rw [List.append_assoc, familyChars_append h.behindWord, hhyphen,
    familyChars_append_of_blank h.blank]
  rfl

theorem IsGap.familyChars_hyphen (h : IsGap front gap back) :
    familyChars (front ++ '-' :: back) = familyChars front ++ '-' :: familyChars back := by
  have hhyphen : isBlank '-' = false := by decide
  have hback : hyphenBefore back = [] := hyphenBefore_of_not_blank fun c hc => by
    obtain ⟨d, hd, hblank⟩ := h.beforeWord
    obtain rfl : d = c := Option.some.inj (hd.symm.trans hc)
    exact hblank
  rw [familyChars_append h.behindWord, familyChars_cons_of_not_blank hhyphen, hback,
    hyphenBefore_of_not_blank (by simpa using hhyphen)]
  rfl

/-- A change in the spelling changes no normal form. -/
theorem Respells.familyChars_eq (h : Respells cs ds) : familyChars cs = familyChars ds := by
  cases h with
  | letters h => rw [← familyChars_map_toLower cs, h, familyChars_map_toLower]
  | @blanksAround before after hbefore _ hafter =>
    have hcore := isCore_trim cs
    obtain ⟨before', after', hcs, hbefore', hafter'⟩ := hcore.padded
    have hpadded : IsCore (trim cs) (before ++ cs ++ after) := by
      refine ⟨hcore.toIsBare, before ++ before', after' ++ after, ?_, ?_, ?_⟩
      · conv_lhs => rw [hcs]
        simp only [List.append_assoc]
      · exact List.forall_mem_append.2 ⟨hbefore, hbefore'⟩
      · exact List.forall_mem_append.2 ⟨hafter', hafter⟩
    rw [familyChars_of_isCore hcore, familyChars_of_isCore hpadded]
  | blanksBetween h h' => rw [h.familyChars_eq, h'.familyChars_eq]
  | hyphen h => rw [h.familyChars_eq, h.familyChars_hyphen]

/-! ## Normal forms -/

/-- The first blanks inside a text are between two words if no blanks are around it. -/
theorem exists_isGap (h : IsBare cs) (hblank : ∃ c ∈ cs, isBlank c = true) :
    ∃ front gap back, cs = front ++ gap ++ back ∧ IsGap front gap back := by
  obtain ⟨front, b, rest, rfl, hb, hfront⟩ := exists_first hblank
  -- No blank is at the start, so a word comes before the first one.
  have hlast : ∃ c ∈ front.getLast?, isBlank c = false := by
    cases hfrontlast : front.getLast? with
    | none =>
      rw [List.getLast?_eq_none_iff.1 hfrontlast] at h
      rw [h.head b rfl] at hb
      cases hb
    | some c => exact ⟨c, rfl, hfront c (List.mem_of_getLast? hfrontlast)⟩
  -- No blank is at the end either, so another word comes after it.
  have hword : ∃ c ∈ rest, (! isBlank c) = true := by
    by_contra hnone
    have hall : ∀ c ∈ b :: rest, isBlank c = true :=
      List.forall_mem_cons.2 ⟨hb, fun c hc => by simpa using fun hword => hnone ⟨c, hc, hword⟩⟩
    have hend : (b :: rest).getLast (List.cons_ne_nil _ _) ∈ (front ++ b :: rest).getLast? := by
      rw [List.getLast?_append, List.getLast?_eq_some_getLast (List.cons_ne_nil b rest)]
      rfl
    have hnot := h.last _ hend
    rw [hall _ (List.getLast_mem _)] at hnot
    cases hnot
  obtain ⟨blanks, d, back, rfl, hd, hblanks⟩ := exists_first hword
  refine ⟨front, b :: blanks, d :: back, by simp, List.cons_ne_nil _ _, ?_, hlast, d, rfl, ?_⟩
  · exact List.forall_mem_cons.2 ⟨hb, fun c hc => by simpa using hblanks c hc⟩
  · simpa using hd

theorem familyChars_of_not_blank (h : ∀ c ∈ cs, isBlank c = false) :
    familyChars cs = cs.map Char.toLower := by
  by_cases hne : cs = []
  · rw [hne]
    rfl
  · rw [familyChars, words_eq_singleton hne h, List.map_singleton, List.intercalate_singleton]

/-- With a hyphen between two words there are still no blanks around a text. -/
theorem IsGap.isBare_hyphen (hgap : IsGap front gap back) (h : IsBare (front ++ gap ++ back)) :
    IsBare (front ++ '-' :: back) := by
  obtain ⟨b, blanks, rfl⟩ := List.exists_cons_of_ne_nil hgap.nonempty
  rw [List.append_assoc, List.cons_append] at h
  obtain ⟨hhead, hlast⟩ := h.of_append_cons
  refine isBare_append_cons (by decide) hhead fun c hc => hlast c ?_
  rw [List.getLast?_append, Option.mem_def.1 hc]
  rfl

/-- A text without blanks around it is respelled into its normal form. -/
theorem eqvGen_familyChars_of_isBare (h : IsBare cs) :
    Relation.EqvGen Respells cs (familyChars cs) := by
  -- Every hyphen that takes the place of blanks leaves fewer of them.
  induction hn : cs.countP isBlank using Nat.strong_induction_on generalizing cs with
  | h n ih =>
    by_cases hblank : ∃ c ∈ cs, isBlank c = true
    · obtain ⟨front, gap, back, rfl, hgap⟩ := exists_isGap h hblank
      have hfewer : (front ++ '-' :: back).countP isBlank < n := by
        have hhyphen : ¬isBlank '-' = true := by decide
        have hpos : 0 < gap.countP isBlank := by
          obtain ⟨c, hc⟩ := List.exists_mem_of_ne_nil gap hgap.nonempty
          exact List.countP_pos_iff.2 ⟨c, hc, hgap.blank c hc⟩
        rw [List.countP_append, List.countP_append] at hn
        rw [List.countP_append, List.countP_cons_of_neg hhyphen]
        omega
      have hrest := ih _ hfewer (hgap.isBare_hyphen h) rfl
      rw [hgap.familyChars_hyphen, ← hgap.familyChars_eq] at hrest
      exact .trans _ _ _ (.rel _ _ (.hyphen hgap)) hrest
    · have hall : ∀ c ∈ cs, isBlank c = false := fun c hc =>
        Bool.eq_false_iff.2 fun h => hblank ⟨c, hc, h⟩
      refine .rel _ _ (.letters ?_)
      rw [familyChars_of_not_blank hall, List.map_map]
      exact List.map_congr_left fun c _ => (toLower_toLower c).symm

theorem eqvGen_familyChars (cs : List Char) : Relation.EqvGen Respells cs (familyChars cs) := by
  have hcore := isCore_trim cs
  obtain ⟨before, after, hcs, hbefore, hafter⟩ := hcore.padded
  have hpad : Respells (trim cs) cs := by
    conv_rhs => rw [hcs, ← List.append_assoc]
    exact .blanksAround hbefore _ hafter
  rw [familyChars_of_isCore hcore]
  exact .trans _ _ _ (.symm _ _ (.rel _ _ hpad)) (eqvGen_familyChars_of_isBare hcore.toIsBare)

theorem familyChars_eq_of_eqvGen (h : Relation.EqvGen Respells cs ds) :
    familyChars cs = familyChars ds := by
  induction h with
  | rel _ _ h => exact h.familyChars_eq
  | refl => rfl
  | symm _ _ _ ih => exact ih.symm
  | trans _ _ _ _ _ ih ih' => exact ih.trans ih'

/-- **Two families have one normal form if and only if one is the other in another spelling.** -/
theorem normalizeFamily_eq_iff {s t : String} :
    normalizeFamily s = normalizeFamily t ↔ Respelled s t := by
  rw [normalizeFamily_eq, normalizeFamily_eq, String.ofList_inj]
  refine ⟨fun h => ?_, familyChars_eq_of_eqvGen⟩
  have hs := eqvGen_familyChars s.toList
  rw [h] at hs
  exact .trans _ _ _ hs (.symm _ _ (eqvGen_familyChars t.toList))

instance (s t : String) : Decidable (Respelled s t) := decidable_of_iff _ normalizeFamily_eq_iff

/-- Two spellings of a family make the same compiler, or the same failure. -/
theorem ofTexts_eq_of_respelled {s t : String} (h : Respelled s t) (version : String)
    (standard : Option String) : ofTexts s version standard = ofTexts t version standard := by
  rw [ofTexts, normalizeFamily_eq_iff.2 h, ofTexts]

end Compiler

/-! ## Sessions -/

namespace Builder

/-- The builder with its family in normal form. -/
def withNormalFamily (b : Builder) : Builder :=
  { b with compilerFamily := b.compilerFamily.map Compiler.normalizeFamily }

theorem build_withNormalFamily (b : Builder) : b.withNormalFamily.build = b.build := by
  have hcompiler : b.withNormalFamily.compiler = b.compiler := by
    unfold compiler withNormalFamily
    cases b.compilerFamily with
    | none => rfl
    | some family =>
      cases b.compilerVersion with
      | none => rfl
      | some version =>
        refine Compiler.ofTexts_eq_of_respelled ?_ version b.standard
        exact Compiler.normalizeFamily_eq_iff.1 (Compiler.normalizeFamily_idem family)
  unfold build
  rw [hcompiler]
  rfl

/-- An assignment needs no more of a builder than its family in normal form, if only the normal
form of the next family matters. -/
theorem withNormalFamily_assign (b : Builder) (a : Assignment) :
    (b.assign a).withNormalFamily = (b.withNormalFamily.assign a).withNormalFamily := by
  have hidem : (b.compilerFamily.map Compiler.normalizeFamily).map Compiler.normalizeFamily =
      b.compilerFamily.map Compiler.normalizeFamily := by
    rw [Option.map_map]
    exact congrArg (b.compilerFamily.map ·) (funext Compiler.normalizeFamily_idem)
  cases a <;>
    simp only [assign, withDependencyOption, withDefaultSystem, withNormalFamily, hidem]

theorem withNormalFamily_run {b b' : Builder} (h : b.withNormalFamily = b'.withNormalFamily)
    (steps : List BuildStep) :
    (b.run steps).withNormalFamily = (b'.run steps).withNormalFamily := by
  rw [run_eq_foldl_assign, run_eq_foldl_assign]
  induction acceptedAssignments steps generalizing b b' with
  | nil => exact h
  | cons a l ih =>
    refine ih ?_
    rw [withNormalFamily_assign, h, ← withNormalFamily_assign]

/-- Sessions in which one family is spelled differently build the same. -/
theorem build_run_eq_of_respelled {s t : String} (h : Compiler.Respelled s t) (b : Builder)
    (rest : List BuildStep) :
    (b.run (.setting "compiler" s :: rest)).build =
      (b.run (.setting "compiler" t :: rest)).build := by
  have hset : (b.assign (.compilerFamily s)).withNormalFamily =
      (b.assign (.compilerFamily t)).withNormalFamily := by
    simp only [assign, withNormalFamily, Option.map_some, Compiler.normalizeFamily_eq_iff.2 h]
  rw [← build_withNormalFamily, ← build_withNormalFamily (b.run (.setting "compiler" t :: rest))]
  exact congrArg build (withNormalFamily_run hset rest)

end Builder

/-- **A family is known by its normal form.** The normal form holds no blank and no ASCII capital
and is its own normal form. Two texts have one normal form if and only if they are spellings of one
family. Such texts make the same compiler, or fail alike. Wherever in a session the one is set in
the place of the other, the session builds the same variant, or fails alike: the class of the
compiler, the verdict on its version, the key that a plan is cached under and the package id are the
same. -/
theorem family_spellings :
    (∀ s : String, ∀ c ∈ (Compiler.normalizeFamily s).toList,
      Text.isBlank c = false ∧ c.isUpper = false) ∧
    (∀ s : String, Compiler.normalizeFamily (Compiler.normalizeFamily s) =
      Compiler.normalizeFamily s) ∧
    (∀ s t : String, Compiler.normalizeFamily s = Compiler.normalizeFamily t ↔
      Compiler.Respelled s t) ∧
    (∀ s t : String, Compiler.Respelled s t →
      (∀ (version : String) (standard : Option String),
        Compiler.ofTexts s version standard = Compiler.ofTexts t version standard) ∧
      ∀ (b : Builder) (rest : List BuildStep),
        (b.run (.setting "compiler" s :: rest)).build =
          (b.run (.setting "compiler" t :: rest)).build ∧
        ∀ u v : Variant, (b.run (.setting "compiler" s :: rest)).build = .ok u →
          (b.run (.setting "compiler" t :: rest)).build = .ok v →
          u.compiler.isMsvcClass = v.compiler.isMsvcClass ∧ u.versionFault? = v.versionFault? ∧
          (∀ host : Host, PlanKey.mk u host = PlanKey.mk v host) ∧
          u.validate?.map ValidVariant.packageId = v.validate?.map ValidVariant.packageId) := by
  refine ⟨?_, Compiler.normalizeFamily_idem, fun s t => Compiler.normalizeFamily_eq_iff, ?_⟩
  · intro s c hc
    obtain ⟨hblank, hlower⟩ := Compiler.isFamilyChar_of_mem hc
    exact ⟨hblank, Text.isUpper_eq_false_of_toLower_eq hlower⟩
  · intro s t h
    refine ⟨Compiler.ofTexts_eq_of_respelled h, fun b rest => ?_⟩
    have hbuild := Builder.build_run_eq_of_respelled h b rest
    refine ⟨hbuild, fun u v hu hv => ?_⟩
    obtain rfl : u = v := Except.ok.inj (hu.symm.trans (hbuild.trans hv))
    exact ⟨rfl, rfl, fun _ => rfl, rfl⟩

/-- A no-break space at the start, a tab between the words and capitals are a spelling of a family
of the MSVC class. A blank in the place of a letter is none. -/
theorem family_spellings_studio :
    let session (family : String) : List BuildStep :=
      [.setting "compiler" family, .setting "compiler.version" "16", .settingToken "os=Linux"]
    Compiler.Respelled "\u00a0Visual \t STUDIO\n" "visual-studio" ∧
      ¬Compiler.Respelled "visual-stud o" "visual-studio" ∧
      ∃ (u v : Variant) (a : ValidVariant),
        (Builder.default.run (session "\u00a0Visual \t STUDIO\n")).build = .ok u ∧
        (Builder.default.run (session "visual-studio")).build = .ok v ∧ v.validate? = .ok a ∧
        u.compiler.isMsvcClass = true ∧ u.versionFault? = none ∧
        PlanKey.mk u .cached = PlanKey.mk v .cached ∧
        u.validate?.map ValidVariant.packageId = .ok a.packageId := by
  intro session
  let v : Variant := { Variant.sample with
    compiler := ⟨"visual-studio", .release 16 0 0, none⟩ }
  let a : ValidVariant := ⟨v, by decide, rfl⟩
  have hspelled : Compiler.Respelled "\u00a0Visual \t STUDIO\n" "visual-studio" := by
    decide +kernel
  have hother : ¬Compiler.Respelled "visual-stud o" "visual-studio" := by decide +kernel
  have hv : (Builder.default.run (session "visual-studio")).build = .ok v := by rfl
  have hvalid : v.validate? = .ok a := Variant.validate?_toVariant a
  obtain ⟨hbuild, hsame⟩ := (family_spellings.2.2.2 _ _ hspelled).2 .default
    [.setting "compiler.version" "16", .settingToken "os=Linux"]
  obtain ⟨u, hu⟩ : ∃ u, (Builder.default.run (session "\u00a0Visual \t STUDIO\n")).build = .ok u :=
    ⟨v, hbuild.trans hv⟩
  obtain ⟨hclass, hfault, hkey, hid⟩ := hsame u v hu hv
  refine ⟨hspelled, hother, u, v, a, hu, hv, hvalid, hclass.trans (by decide),
    hfault.trans (by decide), hkey .cached, ?_⟩
  rw [hid, hvalid]
  rfl

end VariantPlan
