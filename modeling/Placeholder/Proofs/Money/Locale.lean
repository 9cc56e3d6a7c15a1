import Mathlib.Data.List.Find
import Placeholder.Proofs.Money.Format
import Placeholder.Proofs.Text
import Placeholder.Proofs.Text.Letters

/-! # Looking locales and currencies up

A text asks for a locale by a language and, behind the first dash, a region. What is found depends
on the text with its outer blanks cut off, its letters made small and its dashes made one
(`find?_congr`), so that the steps by which one spelling turns into another do not change it
(`Respelled.folded_eq`).

The table is searched twice: for language and region, and then for the language alone
(`find?_eq`). It lists each region once (`all_unique`), so the first search has one answer.
-/

namespace Placeholder

open Text

namespace Locale

/-! ## What a text asks for -/

/-- The two characters that may stand between a language and a region. -/
def isDash (c : Char) : Bool := c == '-' || c == '_'

/-- The text up to its first dash, without blanks at its ends. -/
def languageOf (text : String) : List Char := (trimList text.toList).takeWhile (!isDash ·)

/-- Everything behind the first dash, if there is one. -/
def regionOf? (text : String) : Option (List Char) :=
  ((trimList text.toList).dropWhile (!isDash ·)).tail?

/-- Both dashes as one. -/
def underscored (c : Char) : Char := if isDash c then '_' else c

/-- A character up to its case, the dashes being one. -/
def fold (c : Char) : Char := (underscored c).toLower

/-- The text asks for the language of this locale. -/
def HasLanguage (l : Locale) (text : String) : Prop :=
  (languageOf text).map Char.toLower = l.language.toList.map Char.toLower

/-- The text asks for the region of this locale. -/
def HasRegion (l : Locale) (text : String) : Prop :=
  (regionOf? text).map (List.map fold) = some (l.region.toList.map fold)

instance (l : Locale) (text : String) : Decidable (HasLanguage l text) :=
  inferInstanceAs (Decidable (_ = _))

instance (l : Locale) (text : String) : Decidable (HasRegion l text) :=
  inferInstanceAs (Decidable (_ = _))

/-- A text turns into another one by steps of case, dashes and outer blanks. -/
inductive Respelled : List Char → List Char → Prop where
  | refl (cs : List Char) : Respelled cs cs
  | letter (front back : List Char) {c d : Char} (h : c.toLower = d.toLower) :
      Respelled (front ++ c :: back) (front ++ d :: back)
  | dash (front back : List Char) : Respelled (front ++ '-' :: back) (front ++ '_' :: back)
  | blankBefore (cs : List Char) {b : Char} (h : isBlank b = true) : Respelled cs (b :: cs)
  | blankAfter (cs : List Char) {b : Char} (h : isBlank b = true) : Respelled cs (cs ++ [b])
  | symm {cs ds : List Char} (h : Respelled cs ds) : Respelled ds cs
  | trans {cs ds es : List Char} (h : Respelled cs ds) (h' : Respelled ds es) : Respelled cs es

/-! ## Folded characters -/

theorem isDash_iff (c : Char) : isDash c = true ↔ c.toNat = 45 ∨ c.toNat = 95 := by
  rw [isDash, Bool.or_eq_true, beq_iff_eq, beq_iff_eq, ← Char.toNat_inj, ← Char.toNat_inj]
  exact Iff.rfl

theorem isDash_underscore : isDash '_' = true := rfl

/-- No letter is a dash in its other case. -/
theorem isDash_toLower (c : Char) : isDash c.toLower = isDash c := by
  rw [Bool.eq_iff_iff, isDash_iff, isDash_iff, toNat_toLower]
  split <;> omega

theorem underscored_of_isDash {c : Char} (h : isDash c = true) : underscored c = '_' := if_pos h

theorem underscored_of_not_isDash {c : Char} (h : isDash c = false) : underscored c = c :=
  if_neg (Bool.eq_false_iff.mp h)

theorem fold_of_isDash {c : Char} (h : isDash c = true) : fold c = '_' := by
  rw [fold, underscored_of_isDash h]
  rfl

theorem fold_of_not_isDash {c : Char} (h : isDash c = false) : fold c = c.toLower := by
  rw [fold, underscored_of_not_isDash h]

theorem fold_of_toLower_eq {c d : Char} (h : c.toLower = d.toLower) : fold c = fold d := by
  have hsame : isDash c = isDash d := by rw [← isDash_toLower c, ← isDash_toLower d, h]
  cases hdash : isDash d with
  | true => rw [fold_of_isDash (hsame.trans hdash), fold_of_isDash hdash]
  | false => rw [fold_of_not_isDash (hsame.trans hdash), fold_of_not_isDash hdash, h]

theorem isDash_fold (c : Char) : isDash (fold c) = isDash c := by
  cases hdash : isDash c with
  | true => rw [fold_of_isDash hdash, isDash_underscore]
  | false => rw [fold_of_not_isDash hdash, isDash_toLower, hdash]

theorem not_isDash_comp_fold : (!isDash ·) ∘ fold = (!isDash ·) := by
  funext c
  exact congrArg not (isDash_fold c)

theorem isBlank_fold (c : Char) : isBlank (fold c) = isBlank c := by
  cases hdash : isDash c with
  | true =>
      rw [fold_of_isDash hdash]
      rcases (isDash_iff c).mp hdash with h | h
      · rw [← Char.ofNat_toNat c, h]
        rfl
      · rw [← Char.ofNat_toNat c, h]
  | false => rw [fold_of_not_isDash hdash, isBlank_toLower]

/-- The part of a text that a lookup depends on. -/
def folded (cs : List Char) : List Char := (trimList cs).map fold

theorem folded_eq (cs : List Char) : folded cs = trimList (cs.map fold) :=
  (trimList_map isBlank_fold cs).symm

/-- No step of spelling changes what a lookup depends on. -/
theorem Respelled.folded_eq {cs ds : List Char} (h : Respelled cs ds) : folded cs = folded ds := by
  induction h with
  | refl cs => rfl
  | letter front back h =>
      rw [Locale.folded_eq, Locale.folded_eq, List.map_append, List.map_append, List.map_cons,
        List.map_cons, fold_of_toLower_eq h]
  | dash front back =>
      rw [Locale.folded_eq, Locale.folded_eq, List.map_append, List.map_append]
      rfl
  | blankBefore cs h =>
      -- blanks at the ends are gone before anything is folded
      have hfront : ∀ c ∈ [_], isBlank c = true := List.forall_mem_singleton.mpr h
      have htrim := trimList_append hfront (List.forall_mem_nil _) cs
      rw [List.append_nil] at htrim
      exact congrArg (List.map fold) htrim.symm
  | blankAfter cs h =>
      have hback : ∀ c ∈ [_], isBlank c = true := List.forall_mem_singleton.mpr h
      exact congrArg (List.map fold) (trimList_append (List.forall_mem_nil _) hback cs).symm
  | symm h ih => exact ih.symm
  | trans h h' ih ih' => exact ih.trans ih'

theorem isDash_of_mem_languageOf {text : String} {c : Char} (h : c ∈ languageOf text) :
    isDash c = false := by
  have hnot := List.mem_takeWhile_imp (p := (!isDash ·)) h
  exact (Bool.not_eq_eq_eq_not.mp hnot).trans Bool.not_true

theorem takeWhile_folded (text : String) :
    (folded text.toList).takeWhile (!isDash ·) = (languageOf text).map Char.toLower := by
  rw [folded, List.takeWhile_map, not_isDash_comp_fold]
  apply List.map_congr_left
  intro c hc
  exact fold_of_not_isDash (isDash_of_mem_languageOf hc)

theorem dropWhile_folded (text : String) :
    ((folded text.toList).dropWhile (!isDash ·)).tail? = (regionOf? text).map (List.map fold) := by
  rw [folded, List.dropWhile_map, not_isDash_comp_fold, regionOf?]
  cases (trimList text.toList).dropWhile (!isDash ·) with
  | nil => rfl
  | cons c cs => rfl

/-! ## The request -/

theorem underscored_eq (c : Char) : underscored c = if c = '-' then '_' else c := by
  by_cases h : c = '-'
  · rw [h]
    rfl
  · by_cases h' : c = '_'
    · rw [h']
      rfl
    · simp [underscored, isDash, h, h']

theorem underscored_bne (c : Char) : (underscored c != '_') = !isDash c := by
  cases hdash : isDash c with
  | true =>
      rw [underscored_of_isDash hdash]
      rfl
  | false =>
      rw [underscored_of_not_isDash hdash]
      apply bne_iff_ne.mpr
      rintro rfl
      cases hdash

theorem map_underscored_languageOf (text : String) :
    (languageOf text).map underscored = languageOf text := by
  have hsame : (languageOf text).map underscored = (languageOf text).map fun c => c := by
    apply List.map_congr_left
    intro c hc
    exact underscored_of_not_isDash (isDash_of_mem_languageOf hc)
  rw [hsame, List.map_id']

theorem request_eq (text : String) :
    request text = (String.ofList ((languageOf text).map Char.toLower),
      (regionOf? text).map fun region =>
        String.ofList ((region.map underscored).map Char.toUpper)) := by
  have hcs : (fun c => if c = '-' then '_' else c) = underscored :=
    funext fun c => (underscored_eq c).symm
  have hdash : (· != '_') ∘ underscored = (!isDash ·) := funext underscored_bne
  have hlanguage := map_underscored_languageOf text
  unfold request
  dsimp only
  rw [hcs, splitFirst?_eq, List.takeWhile_map, List.dropWhile_map, hdash, ← languageOf, hlanguage,
    regionOf?]
  cases hrest : (trimList text.toList).dropWhile (!isDash ·) with
  | nil =>
      -- without a dash all of the text is the language
      have hwhole : languageOf text = trimList text.toList := by
        have happend :=
          List.takeWhile_append_dropWhile (p := (!isDash ·)) (l := trimList text.toList)
        rw [hrest, List.append_nil] at happend
        exact happend
      rw [← hwhole, hlanguage]
      rfl
  | cons c cs => rfl

/-! ## The table -/

theorem language_small : ∀ l ∈ all, l.language.toList.map Char.toLower = l.language.toList := by
  decide +kernel

theorem region_capital :
    ∀ l ∈ all, (l.region.toList.map underscored).map Char.toUpper = l.region.toList := by
  decide +kernel

/-- No two locales are the same up to case and dashes. -/
theorem all_unique : ∀ l ∈ all, ∀ l' ∈ all,
    l.language.toList.map Char.toLower = l'.language.toList.map Char.toLower →
      l.region.toList.map fold = l'.region.toList.map fold → l = l' := by
  decide +kernel

theorem find?_id : ∀ l ∈ all, find? l.id = some l := by decide +kernel

variable {l : Locale} (hl : l ∈ all)

include hl

theorem language_beq (text : String) :
    (l.language == String.ofList ((languageOf text).map Char.toLower)) =
      decide (HasLanguage l text) := by
  rw [Bool.eq_iff_iff, beq_iff_eq, decide_eq_true_iff, HasLanguage, language_small l hl,
    ← String.toList_inj, String.toList_ofList]
  exact eq_comm

/-- The table has capitals where a text may have small letters: it makes no difference. -/
theorem region_beq {text : String} {region : List Char} (h : regionOf? text = some region) :
    (l.region == String.ofList ((region.map underscored).map Char.toUpper)) =
      decide (HasRegion l text) := by
  have hfold : fold = Char.toLower ∘ underscored := rfl
  rw [Bool.eq_iff_iff, beq_iff_eq, decide_eq_true_iff, HasRegion, h, Option.map_some,
    Option.some_inj, hfold, ← List.map_map, ← List.map_map, map_toLower_eq_iff,
    region_capital l hl, ← String.toList_inj, String.toList_ofList]
  exact eq_comm

omit hl

/-- A lookup asks for language and region first, and then for the language. -/
theorem find?_eq (text : String) :
    find? text = (all.find? fun l => HasLanguage l text ∧ HasRegion l text).or
      (all.find? fun l => HasLanguage l text) := by
  -- what the two searches compare is what the text asks for, entry by entry
  have hsecond : (all.find? fun l => l.language ==
      String.ofList ((languageOf text).map Char.toLower)) = all.find? fun l => HasLanguage l text :=
    List.find?_congr fun l hl => language_beq hl text
  unfold find?
  rw [request_eq]
  dsimp only
  rw [hsecond]
  congr 1
  cases hregion : regionOf? text with
  | none =>
      symm
      apply List.find?_eq_none.mpr
      intro l hl h
      have hnone := (of_decide_eq_true h).2
      rw [HasRegion, hregion] at hnone
      cases hnone
  | some region =>
      apply List.find?_congr
      intro l hl
      rw [language_beq hl, region_beq hl hregion, Bool.decide_and]

theorem find?_congr {text other : String} (h : folded text.toList = folded other.toList) :
    find? text = find? other := by
  have hlanguage (l : Locale) : HasLanguage l text ↔ HasLanguage l other := by
    rw [HasLanguage, HasLanguage, ← takeWhile_folded, ← takeWhile_folded, h]
  have hregion (l : Locale) : HasRegion l text ↔ HasRegion l other := by
    rw [HasRegion, HasRegion, ← dropWhile_folded, ← dropWhile_folded, h]
  simp only [find?_eq, hlanguage, hregion]

theorem find?_isSome_iff (text : String) :
    (find? text).isSome ↔ ∃ l ∈ all, HasLanguage l text := by
  rw [find?_eq, Option.isSome_or, Bool.or_eq_true, List.find?_isSome, List.find?_isSome]
  constructor
  · rintro (⟨l, hl, h⟩ | ⟨l, hl, h⟩)
    · exact ⟨l, hl, (of_decide_eq_true h).1⟩
    · exact ⟨l, hl, of_decide_eq_true h⟩
  · rintro ⟨l, hl, h⟩
    exact .inr ⟨l, hl, decide_eq_true h⟩

theorem find?_of_region {text : String} {l : Locale} (hl : l ∈ all) (hlanguage : HasLanguage l text)
    (hregion : HasRegion l text) : find? text = some l := by
  have hfound : (all.find? fun l => HasLanguage l text ∧ HasRegion l text).isSome = true := by
    rw [List.find?_isSome]
    exact ⟨l, hl, decide_eq_true ⟨hlanguage, hregion⟩⟩
  -- the first search has an answer, and it can be no other entry
  obtain ⟨l', hl'⟩ := Option.isSome_iff_exists.mp hfound
  have hholds := List.find?_some hl'
  obtain ⟨hlanguage', hregion'⟩ := of_decide_eq_true hholds
  have hsame : l = l' := by
    apply all_unique l hl l' (List.mem_of_find?_eq_some hl')
    · exact hlanguage.symm.trans hlanguage'
    · exact Option.some_inj.mp (hregion.symm.trans hregion')
  rw [find?_eq, hl', hsame, Option.some_or]

theorem find?_of_no_region {text : String}
    (h : ∀ l ∈ all, HasLanguage l text → ¬ HasRegion l text) :
    find? text = all.find? fun l => HasLanguage l text := by
  have hnone : (all.find? fun l => HasLanguage l text ∧ HasRegion l text) = none := by
    rw [List.find?_eq_none]
    intro l hl hfound
    obtain ⟨hlanguage, hregion⟩ := of_decide_eq_true hfound
    exact h l hl hlanguage hregion
  rw [find?_eq, hnone, Option.none_or]

end Locale

namespace Currency

theorem isCode_eq (text : String) :
    isCode text = ((text.toList.map Char.toUpper).length == 3 &&
      (text.toList.map Char.toUpper).all Char.isAlpha) := by
  have halpha : Char.isAlpha ∘ Char.toUpper = Char.isAlpha := funext isAlpha_toUpper
  rw [isCode, List.length_map, List.all_map, halpha]

/-- The case of a code does not matter. -/
theorem ofCode?_congr {code code' : String}
    (h : code.toList.map Char.toLower = code'.toList.map Char.toLower) :
    ofCode? code = ofCode? code' := by
  have hcapitals := map_toLower_eq_iff.mp h
  rw [ofCode?, ofCode?, isCode_eq, isCode_eq, hcapitals]

end Currency

/-- An amount of money depends on what the names of its locale and its currency stand for. -/
theorem Money.format_congr {locale locale' code code' : String} (x : Binary64)
    (hlocale : Locale.find? locale = Locale.find? locale')
    (hcode : Currency.ofCode? code = Currency.ofCode? code') :
    (∃ written, format x locale code = .ok written ∧ format x locale' code' = .ok written) ∨
      ∃ e e', format x locale code = .error e ∧ format x locale' code' = .error e' ∧
        e.SameKind e' := by
  unfold format
  rw [← hlocale, ← hcode]
  cases Locale.find? locale with
  | none =>
      right
      exact ⟨_, _, rfl, rfl, rfl⟩
  | some rules =>
      cases Currency.ofCode? code with
      | none =>
          right
          exact ⟨_, _, rfl, rfl, rfl⟩
      | some currency =>
          dsimp only
          cases Number.format x.abs currency.decimals rules.point rules.separator with
          | error e =>
              right
              exact ⟨e, e, rfl, rfl, rfl⟩
          | ok amount =>
              left
              exact ⟨_, rfl, rfl⟩

namespace Locale

/-- **Every locale is found under every spelling.** A text finds a locale exactly if the text up to
its first dash is, in some case, a language of the table. What it finds is the locale of this
language whose region is the rest, up to case and dashes, and the first locale of the language if
there is none. A locale is found under its own name. Steps of case, dashes and outer blanks change
nothing of this, nor, with any case of the currency code, whether an amount is written, how it is
written and for what kind of reason it is not. -/
theorem every_spelling_is_found (text : String) :
    ((find? text).isSome ↔ ∃ l ∈ all, HasLanguage l text) ∧
      (∀ l ∈ all, HasLanguage l text → HasRegion l text → find? text = some l) ∧
      ((∀ l ∈ all, HasLanguage l text → ¬ HasRegion l text) →
        find? text = all.find? fun l => HasLanguage l text) ∧
      (∀ l, find? text = some l → find? l.id = some l) ∧
      ∀ other, Respelled text.toList other.toList →
        find? text = find? other ∧
          ∀ (x : Binary64) (code code' : String),
            code.toList.map Char.toLower = code'.toList.map Char.toLower →
              (∃ written, Money.format x text code = .ok written ∧
                Money.format x other code' = .ok written) ∨
              ∃ e e', Money.format x text code = .error e ∧
                Money.format x other code' = .error e' ∧ e.SameKind e' := by
  refine ⟨find?_isSome_iff text, fun l => find?_of_region, find?_of_no_region, ?_, ?_⟩
  · intro l hfound
    exact find?_id l (mem_of_find? hfound)
  · intro other hrespelled
    have hsame := find?_congr hrespelled.folded_eq
    refine ⟨hsame, ?_⟩
    intro x code code' hcase
    exact Money.format_congr x hsame (Currency.ofCode?_congr hcase)

/-- Swiss spellings, and a region that is not listed. -/
theorem every_spelling_is_found_swiss :
    let swiss : Locale := ⟨"de", "CH", ".", "’", .beforeSpaced⟩
    let american : Locale := ⟨"en", "US", ".", ",", .before⟩
    let x : Binary64 := .finite true ⟨6755399441055744, -52⟩
    find? " De-CH" = some swiss ∧ find? swiss.id = some swiss ∧ find? "en_NZ" = some american ∧
      find? " De-CH" = find? "de_CH" ∧ Money.format x "de_CH" "EUR" = .ok "-€\u00a01.50" := by
  intro swiss american x
  obtain ⟨-, hregion, -, hname, hrespelled⟩ := every_spelling_is_found " De-CH"
  obtain ⟨-, -, hlanguage, -, -⟩ := every_spelling_is_found "en_NZ"
  have hswiss : find? " De-CH" = some swiss :=
    hregion swiss (by decide +kernel) (by decide +kernel) (by decide +kernel)
  have hsteps : Respelled " De-CH".toList "de_CH".toList := by
    change Respelled [' ', 'D', 'e', '-', 'C', 'H'] ['d', 'e', '_', 'C', 'H']
    have hblank : Respelled [' ', 'D', 'e', '-', 'C', 'H'] ['D', 'e', '-', 'C', 'H'] :=
      .symm (.blankBefore _ rfl)
    have hletter : Respelled ['D', 'e', '-', 'C', 'H'] ['d', 'e', '-', 'C', 'H'] :=
      .letter [] _ rfl
    exact hblank.trans (hletter.trans (.dash ['d', 'e'] ['C', 'H']))
  have hwritten : Money.format x " De-CH" "eur" = .ok "-€\u00a01.50" := by decide +kernel
  obtain ⟨hsame, hmoney⟩ := hrespelled "de_CH" hsteps
  refine ⟨hswiss, hname swiss hswiss, ?_, hsame, ?_⟩
  · rw [hlanguage (by decide +kernel)]
    decide +kernel
  · rcases hmoney x "eur" "EUR" (by decide +kernel) with ⟨written, heur, hEUR⟩ | ⟨e, e', heur, -⟩
    · rw [hEUR, ← heur, hwritten]
    · rw [hwritten] at heur
      cases heur

end Locale

end Placeholder
