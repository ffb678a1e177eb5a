import Mathlib.Data.List.Forall2
import VariantPlan.Proofs.Basic
import VariantPlan.Proofs.Family
import VariantPlan.Proofs.Text.Numerals
import VariantPlan.Proofs.Text.Trimming

/-!
# The grammar of compiler versions

A reported version is cut at the dots of its core, the text without the blanks around it. One to
three **parts** that are all numerals of 64 bits **give** the version's numbers, of which missing
ones are zero. Any other text has a **fault**: too many parts, or else the first part from the left
that is no such numeral.

A version that was read is written with three numbers and reads back, and versions compare as their
numbers do, the first one first.

Main results: `isSplit_iff` (a text has its parts), `readVersion_eq_ok_iff` and
`readVersion_eq_error_iff` (what is read, and what is refused for which fault),
`precedence_eq_compare_numbers`, and `version_grammar`.
-/

namespace VariantPlan

/-! ## Numbers of versions -/

namespace Version

/-- The three numbers of a version. -/
def numbers (v : Version) : List Nat := [v.major.toNat, v.minor.toNat, v.patch.toNat]

theorem eq_release {v : Version} (hpre : v.pre = []) (hbuild : v.build = []) :
    v = .release v.major v.minor v.patch := by
  cases v
  cases hpre
  cases hbuild
  rfl

theorem eq_of_numbers_eq {v w : Version} (h : v.numbers = w.numbers)
    (hv : v.pre = [] ∧ v.build = []) (hw : w.pre = [] ∧ w.build = []) : v = w := by
  simp only [numbers, List.cons.injEq, UInt64.toNat_inj] at h
  rw [eq_release hv.1 hv.2, eq_release hw.1 hw.2, h.1, h.2.1, h.2.2.1]

theorem precedence_eq_compare_numbers {v w : Version} (hv : v.pre = []) (hw : w.pre = []) :
    precedence v w = List.compareLex compare v.numbers w.numbers := by
  have hlist : List.compareLex compare v.numbers w.numbers =
      (compare v.major.toNat w.major.toNat).then
        ((compare v.minor.toNat w.minor.toNat).then (compare v.patch.toNat w.patch.toNat)) := by
    simp only [numbers, List.compareLex_cons_cons, List.compareLex_nil_nil]
    cases compare v.major.toNat w.major.toNat <;> cases compare v.minor.toNat w.minor.toNat <;>
      cases compare v.patch.toNat w.patch.toNat <;> rfl
  rw [hlist, precedence, hv, hw]
  show (compare v.major w.major).then ((compare v.minor w.minor).then
    ((compare v.patch w.patch).then .eq)) = _
  rw [Ordering.then_eq, compare_eq_compare_toNat, compare_eq_compare_toNat,
    compare_eq_compare_toNat]

end Version

namespace Compiler

variable {raw : String} {part : List Char} {parts before after : List (List Char)}
  {numbers : List Nat}

/-! ## Parts -/

/-- The parts of a reported text stand between the dots of its core. -/
structure IsSplit (raw : String) (parts : List (List Char)) : Prop where
  ne_nil : parts ≠ []
  dotless : ∀ part ∈ parts, '.' ∉ part
  core : Text.IsCore (['.'].intercalate parts) raw.toList

theorem isSplit_iff : IsSplit raw parts ↔ parts = (Text.trim raw.toList).splitOn '.' := by
  constructor
  · intro h
    rw [h.core.trim_eq, List.splitOn_intercalate '.' h.dotless h.ne_nil]
  · rintro rfl
    refine ⟨List.splitOn_ne_nil _ _, fun part hpart hdot => ?_, ?_⟩
    · rw [List.splitOn_eq_splitOnP] at hpart
      simpa using Text.eq_false_of_mem_splitOnP hpart hdot
    · rw [List.intercalate_splitOn]
      exact Text.isCore_trim _

instance : Decidable (IsSplit raw parts) := decidable_of_iff _ isSplit_iff.symm

/-! ## Numbers of parts -/

/-- A part is a numeral of 64 bits. -/
def IsWord (part : List Char) (n : Nat) : Prop := Text.IsNumeral part n ∧ n < UInt64.size

theorem read?_wordBound_eq_some_iff {n : Nat} :
    Text.read? Text.wordBound part = some n ↔ IsWord part n :=
  Text.read?_eq_some_iff

instance {n : Nat} : Decidable (IsWord part n) := decidable_of_iff _ read?_wordBound_eq_some_iff

theorem exists_isWord_iff : (∃ n, IsWord part n) ↔ Text.read? Text.wordBound part ≠ none := by
  simp only [← read?_wordBound_eq_some_iff, Option.ne_none_iff_exists', eq_comm]

instance : Decidable (∃ n, IsWord part n) := decidable_of_iff _ exists_isWord_iff.symm

theorem readPart_of_isWord {n : Nat} (h : IsWord part n) :
    readPart raw part = .ok (.ofNat n) := by
  rw [readPart, read?_wordBound_eq_some_iff.2 h]

theorem readPart_of_not_isWord (h : ¬∃ n, IsWord part n) :
    readPart raw part =
      .error (.invalidVersion "compiler.version" raw (.notANumber (String.ofList part))) := by
  rw [exists_isWord_iff, Ne, not_not] at h
  rw [readPart, h]

theorem mapM_readPart_of_forall₂ (h : List.Forall₂ IsWord parts numbers) :
    parts.mapM (readPart raw) = .ok (numbers.map .ofNat) := by
  induction h with
  | nil => rfl
  | cons hpart _ ih =>
    rw [List.mapM_cons, readPart_of_isWord hpart, ih]
    rfl

theorem mapM_readPart_of_not_isWord (hbefore : ∀ p ∈ before, ∃ n, IsWord p n)
    (hpart : ¬∃ n, IsWord part n) :
    (before ++ part :: after).mapM (readPart raw) =
      .error (.invalidVersion "compiler.version" raw (.notANumber (String.ofList part))) := by
  induction before with
  | nil =>
    rw [List.nil_append, List.mapM_cons, readPart_of_not_isWord hpart]
    rfl
  | cons p before ih =>
    rw [List.forall_mem_cons] at hbefore
    obtain ⟨⟨n, hn⟩, hbefore⟩ := hbefore
    rw [List.cons_append, List.mapM_cons, readPart_of_isWord hn, ih hbefore]
    rfl

/-- All parts are numerals, or there is a first one from the left that is none. -/
theorem exists_numbers_or_first (parts : List (List Char)) :
    (∃ numbers, List.Forall₂ IsWord parts numbers) ∨
      ∃ before part after, parts = before ++ part :: after ∧ (∀ p ∈ before, ∃ n, IsWord p n) ∧
        ¬∃ n, IsWord part n := by
  induction parts with
  | nil => exact .inl ⟨[], .nil⟩
  | cons p parts ih =>
    by_cases hp : ∃ n, IsWord p n
    · rcases ih with ⟨numbers, hnumbers⟩ | ⟨before, part, after, rfl, hbefore, hpart⟩
      · obtain ⟨n, hn⟩ := hp
        exact .inl ⟨n :: numbers, .cons hn hnumbers⟩
      · exact .inr ⟨p :: before, part, after, rfl, List.forall_mem_cons.2 ⟨hp, hbefore⟩, hpart⟩
    · exact .inr ⟨[], p, parts, rfl, List.forall_mem_nil _, hp⟩

/-! ## Reading -/

/-- A reported text gives its numbers, one to three. -/
def Gives (raw : String) (numbers : List Nat) : Prop :=
  ∃ parts, IsSplit raw parts ∧ parts.length ≤ 3 ∧ List.Forall₂ IsWord parts numbers

/-- What is wrong with the parts of a text. -/
inductive HasFault (parts : List (List Char)) : VersionFault → Prop where
  | tooMany (hcount : 3 < parts.length) : HasFault parts .tooManyParts
  | notANumber {before after : List (List Char)} {part : List Char} (hcount : parts.length ≤ 3)
    (hparts : parts = before ++ part :: after) (hbefore : ∀ p ∈ before, ∃ n, IsWord p n)
    (hpart : ¬∃ n, IsWord part n) : HasFault parts (.notANumber (String.ofList part))

/-- Numbers with zeros for those that are missing of three. -/
def zeroFilled (numbers : List Nat) : List Nat := numbers ++ List.replicate (3 - numbers.length) 0

theorem readVersion_of_fault {fault : VersionFault} (hsplit : IsSplit raw parts)
    (h : HasFault parts fault) :
    readVersion raw = .error (.invalidVersion "compiler.version" raw fault) := by
  unfold readVersion
  rw [← isSplit_iff.1 hsplit]
  cases h with
  | tooMany hcount => exact if_pos hcount
  | notANumber hcount hparts hbefore hpart =>
    subst hparts
    simp only [if_neg (Nat.not_lt.2 hcount), mapM_readPart_of_not_isWord hbefore hpart]
    rfl

theorem zeroFilled_eq (hone : numbers ≠ []) (hthree : numbers.length ≤ 3) :
    zeroFilled numbers = [numbers.getD 0 0, numbers.getD 1 0, numbers.getD 2 0] := by
  match numbers with
  | [a] | [a, b] | [a, b, c] => rfl
  | a :: b :: c :: d :: rest =>
    simp only [List.length_cons] at hthree
    omega

theorem readVersion_of_gives (h : Gives raw numbers) :
    ∃ v, readVersion raw = .ok v ∧ v.numbers = zeroFilled numbers ∧ v.pre = [] ∧ v.build = [] := by
  obtain ⟨parts, hsplit, hcount, hnumbers⟩ := h
  have hlength := hnumbers.length_eq
  have hne : numbers ≠ [] := by
    rintro rfl
    exact hsplit.ne_nil (List.length_eq_zero_iff.1 hlength)
  -- A number that is missing is zero, and zero is a word too.
  have hword (i : Nat) : ((numbers.map UInt64.ofNat).getD i 0).toNat = numbers.getD i 0 := by
    rw [List.getD_eq_getElem?_getD, List.getD_eq_getElem?_getD, List.getElem?_map]
    cases hi : numbers[i]? with
    | none => rfl
    | some n =>
      obtain ⟨part, hpart⟩ : ∃ part, IsWord part n := by
        obtain ⟨hlt, rfl⟩ := List.getElem?_eq_some_iff.1 hi
        exact ⟨_, (List.forall₂_iff_get.1 hnumbers).2 i (hlength ▸ hlt) hlt⟩
      exact UInt64.toNat_ofNat_of_lt hpart.2
  refine ⟨.release ((numbers.map .ofNat).getD 0 0) ((numbers.map .ofNat).getD 1 0)
    ((numbers.map .ofNat).getD 2 0), ?_, ?_, rfl, rfl⟩
  · unfold readVersion
    rw [← isSplit_iff.1 hsplit]
    simp only [if_neg (Nat.not_lt.2 hcount), mapM_readPart_of_forall₂ hnumbers]
    rfl
  · rw [zeroFilled_eq hne (hlength ▸ hcount), ← hword, ← hword, ← hword]
    rfl

theorem gives_or_hasFault (raw : String) :
    (∃ numbers, Gives raw numbers) ∨ ∃ parts fault, IsSplit raw parts ∧ HasFault parts fault := by
  have hsplit : IsSplit raw _ := isSplit_iff.2 rfl
  rcases Nat.lt_or_ge 3 ((Text.trim raw.toList).splitOn '.').length with hcount | hcount
  · exact .inr ⟨_, _, hsplit, .tooMany hcount⟩
  · rcases exists_numbers_or_first ((Text.trim raw.toList).splitOn '.') with
      ⟨numbers, hnumbers⟩ | ⟨before, part, after, hparts, hbefore, hpart⟩
    · exact .inl ⟨numbers, _, hsplit, hcount, hnumbers⟩
    · exact .inr ⟨_, _, hsplit, .notANumber hcount hparts hbefore hpart⟩

theorem readVersion_eq_ok_iff {v : Version} : readVersion raw = .ok v ↔
    ∃ numbers, Gives raw numbers ∧ v.numbers = zeroFilled numbers ∧ v.pre = [] ∧ v.build = [] := by
  constructor
  · intro h
    rcases gives_or_hasFault raw with ⟨numbers, hgives⟩ | ⟨parts, fault, hsplit, hfault⟩
    · obtain ⟨w, hw, hnumbers⟩ := readVersion_of_gives hgives
      rw [hw] at h
      cases h
      exact ⟨numbers, hgives, hnumbers⟩
    · rw [readVersion_of_fault hsplit hfault] at h
      cases h
  · rintro ⟨numbers, hgives, hnumbers, hlabels⟩
    obtain ⟨w, hw, hwnumbers, hwlabels⟩ := readVersion_of_gives hgives
    rw [hw, Version.eq_of_numbers_eq (hwnumbers.trans hnumbers.symm) hwlabels hlabels]

theorem exists_readVersion_eq_ok_iff :
    (∃ v, readVersion raw = .ok v) ↔ ∃ numbers, Gives raw numbers := by
  constructor
  · rintro ⟨v, hv⟩
    obtain ⟨numbers, hgives, -⟩ := readVersion_eq_ok_iff.1 hv
    exact ⟨numbers, hgives⟩
  · rintro ⟨numbers, hgives⟩
    obtain ⟨v, hv, -⟩ := readVersion_of_gives hgives
    exact ⟨v, hv⟩

theorem readVersion_eq_error_iff {e : ConfigError} : readVersion raw = .error e ↔
    ∃ parts fault, IsSplit raw parts ∧ HasFault parts fault ∧
      e = .invalidVersion "compiler.version" raw fault := by
  constructor
  · intro h
    rcases gives_or_hasFault raw with ⟨numbers, hgives⟩ | ⟨parts, fault, hsplit, hfault⟩
    · obtain ⟨v, hv, -⟩ := readVersion_of_gives hgives
      rw [hv] at h
      cases h
    · rw [readVersion_of_fault hsplit hfault] at h
      cases h
      exact ⟨parts, fault, hsplit, hfault, rfl⟩
  · rintro ⟨parts, fault, hsplit, hfault, rfl⟩
    exact readVersion_of_fault hsplit hfault

/-! ## Reading back -/

theorem isWord_digits (n : UInt64) : IsWord (Text.digits n.toNat) n.toNat :=
  ⟨.unsigned (Text.readDigits?_eq_some_iff.1 (Text.readDigits?_digits _)), n.toNat_lt⟩

/-- The written form of a version without labels gives its three numbers. -/
theorem gives_text_release (major minor patch : UInt64) :
    Gives (Version.release major minor patch).text [major.toNat, minor.toNat, patch.toNat] := by
  have hcore : Text.trim (Version.release major minor patch).text.toList =
      (Version.release major minor patch).coreText := by
    rw [Version.text, String.toList_ofList, VersionConstraint.chars_release]
    refine Text.trim_eq_self fun c hc => Bool.eq_false_iff.2 fun hblank => ?_
    by_cases hdot : c = '.'
    · subst hdot
      exact absurd hblank (by decide)
    · refine Version.not_mem_coreText (Bool.eq_false_iff.2 fun hdigit => ?_) hdot _ hc
      rw [Text.not_isBlank_of_isDigit hdigit] at hblank
      cases hblank
  refine ⟨_, isSplit_iff.2 rfl, ?_, ?_⟩
  · rw [hcore, Version.splitOn_coreText]
    exact Nat.le_refl 3
  · rw [hcore, Version.splitOn_coreText]
    exact .cons (isWord_digits major) (.cons (isWord_digits minor)
      (.cons (isWord_digits patch) .nil))

theorem readVersion_text {v : Version} (h : readVersion raw = .ok v) :
    readVersion v.text = .ok v := by
  obtain ⟨-, -, -, hpre, hbuild⟩ := readVersion_eq_ok_iff.1 h
  obtain hrelease := Version.eq_release hpre hbuild
  rw [hrelease]
  exact readVersion_eq_ok_iff.2 ⟨_, gives_text_release v.major v.minor v.patch, rfl, rfl, rfl⟩

end Compiler

/-- **The grammar of compiler versions.** A text has its parts, and it is read if and only if they
are one to three numerals of 64 bits: as the version with these numbers, zeros for missing ones, and
no labels. Otherwise it is refused, in its own words, for having too many parts, or else for the
first part from the left that is no such numeral. What was read reads back from its written form,
and versions that were read compare lexicographically by their numbers, zeros for missing ones. -/
theorem version_grammar (raw : String) :
    (∃! parts, Compiler.IsSplit raw parts) ∧
    (∀ v, Compiler.readVersion raw = .ok v ↔ ∃ numbers, Compiler.Gives raw numbers ∧
      v.numbers = Compiler.zeroFilled numbers ∧ v.pre = [] ∧ v.build = []) ∧
    ((∃ v, Compiler.readVersion raw = .ok v) ↔ ∃ numbers, Compiler.Gives raw numbers) ∧
    (∀ e, Compiler.readVersion raw = .error e ↔ ∃ parts fault, Compiler.IsSplit raw parts ∧
      Compiler.HasFault parts fault ∧ e = .invalidVersion "compiler.version" raw fault) ∧
    (∀ v, Compiler.readVersion raw = .ok v → Compiler.readVersion v.text = .ok v) ∧
    ∀ raw' v v' numbers numbers', Compiler.readVersion raw = .ok v →
      Compiler.readVersion raw' = .ok v' → Compiler.Gives raw numbers →
      Compiler.Gives raw' numbers' →
      v.precedence v' = List.compareLex compare (Compiler.zeroFilled numbers)
        (Compiler.zeroFilled numbers') := by
  refine ⟨⟨_, Compiler.isSplit_iff.2 rfl, fun parts h => Compiler.isSplit_iff.1 h⟩,
    fun v => Compiler.readVersion_eq_ok_iff, Compiler.exists_readVersion_eq_ok_iff,
    fun e => Compiler.readVersion_eq_error_iff, fun v => Compiler.readVersion_text, ?_⟩
  intro raw' v v' numbers numbers' hv hv' hgives hgives'
  obtain ⟨w, hw, hnumbers, hpre, -⟩ := Compiler.readVersion_of_gives hgives
  obtain ⟨w', hw', hnumbers', hpre', -⟩ := Compiler.readVersion_of_gives hgives'
  obtain rfl : w = v := Except.ok.inj (hw.symm.trans hv)
  obtain rfl : w' = v' := Except.ok.inj (hw'.symm.trans hv')
  rw [Version.precedence_eq_compare_numbers hpre hpre', hnumbers, hnumbers']

/-- A sign, a leading zero and blanks around a text do not count, and a missing number is zero. Four
parts are too many, whatever they are; of three parts the first from the left that is no number is
named, and a number beyond 64 bits is none. -/
theorem version_grammar_signed :
    Compiler.readVersion "\u00a0 +013.1\n" = .ok (.release 13 1 0) ∧
      Compiler.readVersion (Version.release 13 1 0).text = .ok (.release 13 1 0) ∧
      (Version.release 9 0 0).precedence (.release 13 1 0) = .lt ∧
      Compiler.readVersion "1.x.2.y" =
        .error (.invalidVersion "compiler.version" "1.x.2.y" .tooManyParts) ∧
      Compiler.readVersion " 9.-1.x" =
        .error (.invalidVersion "compiler.version" " 9.-1.x" (.notANumber "-1")) ∧
      Compiler.readVersion "18446744073709551616" = .error (.invalidVersion "compiler.version"
        "18446744073709551616" (.notANumber "18446744073709551616")) := by
  have hsigned : Compiler.Gives "\u00a0 +013.1\n" [13, 1] :=
    ⟨[['+', '0', '1', '3'], ['1']], by decide +kernel, by decide,
      .cons (by decide) (.cons (by decide) .nil)⟩
  have hnine : Compiler.Gives "9" [9] :=
    ⟨[['9']], by decide +kernel, by decide, .cons (by decide) .nil⟩
  have hread : Compiler.readVersion "\u00a0 +013.1\n" = .ok (.release 13 1 0) :=
    ((version_grammar _).2.1 _).2 ⟨_, hsigned, rfl, rfl, rfl⟩
  have hreadNine : Compiler.readVersion "9" = .ok (.release 9 0 0) :=
    ((version_grammar _).2.1 _).2 ⟨_, hnine, rfl, rfl, rfl⟩
  have hnegative : Compiler.HasFault [['9'], ['-', '1'], ['x']] (.notANumber "-1") :=
    .notANumber (by decide) (show _ = [['9']] ++ ['-', '1'] :: [['x']] from rfl) (by decide)
      (by decide)
  have hwide : Compiler.HasFault ["18446744073709551616".toList]
      (.notANumber "18446744073709551616") :=
    .notANumber (by decide) (show _ = [] ++ "18446744073709551616".toList :: [] from rfl)
      (by decide) (by decide +kernel)
  refine ⟨hread, (version_grammar _).2.2.2.2.1 _ hread,
    (version_grammar _).2.2.2.2.2 _ _ _ _ _ hreadNine hread hnine hsigned, ?_, ?_, ?_⟩
  · exact ((version_grammar _).2.2.2.1 _).2
      ⟨[['1'], ['x'], ['2'], ['y']], _, by decide +kernel, .tooMany (by decide), rfl⟩
  · exact ((version_grammar _).2.2.2.1 _).2 ⟨_, _, by decide +kernel, hnegative, rfl⟩
  · exact ((version_grammar _).2.2.2.1 _).2 ⟨_, _, by decide +kernel, hwide, rfl⟩

end VariantPlan
