import Placeholder.Proofs.Tag.Grammar
import Placeholder.Proofs.Text

/-! # Readings and derivations

The readers of a tag against its grammar. Every reader drops the blanks behind
what it reads, and a derivation may put any blanks there, so the two meet only
where the text goes on with something that is no blank.

* `mem_readings`: the readings of a text are the derivations of its beginnings.
* `readings_pairwise`: they are tried from the preferred one on.
* `read?_eq_some_iff` and `read?_eq_none_iff`: the tag that is read is the
  preferred derivation, and none is read only if there is no derivation.
-/

namespace Placeholder.Tag

open Placeholder.Text

/-! ## Character classes -/

theorem isNameChar_iff {c : Char} :
    isNameChar c = true ↔ c ≠ ':' ∧ c ≠ '|' ∧ c ≠ '\x7d' ∧ isBlank c = false := by
  simp [isNameChar, and_assoc]

theorem isBareChar_iff {c : Char} :
    isBareChar c = true ↔ c ≠ '|' ∧ c ≠ '\x7d' ∧ isBlank c = false := by
  simp [isBareChar, and_assoc]

theorem isNameChar_of_isBlank {c : Char} (h : isBlank c = true) : isNameChar c = false := by
  simp [isNameChar, h]

theorem isBareChar_of_isBlank {c : Char} (h : isBlank c = true) : isBareChar c = false := by
  simp [isBareChar, h]

/-- What follows a call is a bar or a closing brace. -/
def Ends (rest : List Char) : Prop := ∃ c tail, rest = c :: tail ∧ (c = '|' ∨ c = '\x7d')

theorem ends_bar (tail : List Char) : Ends ('|' :: tail) := ⟨'|', tail, rfl, .inl rfl⟩

theorem ends_brace (tail : List Char) : Ends ('\x7d' :: tail) := ⟨'\x7d', tail, rfl, .inr rfl⟩

/-- Neither of the two is a character of a name or of a suffix, or blank. -/
theorem Ends.stops {p : Char → Bool} {rest : List Char} (h : Ends rest) (hbar : p '|' = false)
    (hbrace : p '\x7d' = false) : Stops p rest := by
  rcases h with ⟨c, tail, rfl, rfl | rfl⟩
  · exact Stops.cons hbar tail
  · exact Stops.cons hbrace tail

/-! ## Blanks -/

theorem dropBlank_split (cs : List Char) : ∃ w, Blanks w ∧ cs = w ++ dropBlank cs :=
  ⟨cs.takeWhile isBlank, fun _ hc => List.mem_takeWhile_imp hc,
    List.takeWhile_append_dropWhile.symm⟩

theorem dropBlank_append {w rest : List Char} (hw : Blanks w) (hrest : Stops isBlank rest) :
    dropBlank (w ++ rest) = rest :=
  dropWhile_append_stops hw hrest

/-! ## Names -/

theorem readName?_sound {cs name rest : List Char} (h : readName? cs = some (name, rest)) :
    ∃ w, Blanks w ∧ IsName name ∧ cs = name ++ w ++ rest := by
  unfold readName? at h
  split at h
  · cases h
  · next hne =>
      obtain ⟨rfl, rfl⟩ := by simpa using h
      have hchars : ∀ c ∈ cs.takeWhile isNameChar, isNameChar c = true := by
        intro c hc
        exact List.mem_takeWhile_imp hc
      rcases dropBlank_split (cs.dropWhile isNameChar) with ⟨w, hw, hsplit⟩
      refine ⟨w, hw, ⟨hne, ?_⟩, ?_⟩
      · intro c hc
        exact isNameChar_iff.mp (hchars c hc)
      · rw [List.append_assoc, ← hsplit, List.takeWhile_append_dropWhile]

theorem readName?_complete {name w rest : List Char} (hname : IsName name) (hw : Blanks w)
    (hblank : Stops isBlank rest) (hstop : Stops isNameChar rest) :
    readName? (name ++ w ++ rest) = some (name, rest) := by
  have hchars : ∀ c ∈ name, isNameChar c = true := by
    intro c hc
    exact isNameChar_iff.mpr (hname.chars c hc)
  -- the name also ends at a blank, so the run stops whether there are blanks or not
  have hbehind : Stops isNameChar (w ++ rest) := by
    apply Stops.append
    · intro c hc
      exact isNameChar_of_isBlank (hw c hc)
    · exact hstop
  rw [List.append_assoc, readName?, takeWhile_append_stops hchars hbehind,
    dropWhile_append_stops hchars hbehind, dropBlank_append hw hblank]
  cases name with
  | nil => exact absurd rfl hname.ne_nil
  | cons c name => rfl

/-- A name begins with a character that is no blank, so the blanks in front of it
are told from it. -/
theorem IsName.stops_blank {name : List Char} (h : IsName name) (rest : List Char) :
    Stops isBlank (name ++ rest) := by
  cases name with
  | nil => exact absurd rfl h.ne_nil
  | cons c name => exact Stops.cons (h.chars c List.mem_cons_self).2.2.2 _

/-! ## Suffixes -/

theorem readQuoted?_sound {cs rest : List Char} {suffix : Suffix}
    (h : readQuoted? cs = some (suffix, rest)) :
    ∃ text w, SuffixDerives suffix text ∧ Blanks w ∧ cs = text ++ w ++ rest := by
  unfold readQuoted? at h
  split at h
  · next tail =>
      split at h
      · cases h
      · next q behind hdrop =>
          obtain ⟨rfl, rfl⟩ := by simpa using h
          rcases dropBlank_split behind with ⟨w, hw, hsplit⟩
          -- the run of other characters can only have stopped at a quote
          have hq : q = '\x22' := by
            have hhead := List.head?_dropWhile_not isQuotedChar tail
            simpa [hdrop, isQuotedChar] using hhead
          have hbody : ∀ c ∈ tail.takeWhile isQuotedChar, c ≠ '\x22' := by
            intro c hc
            simpa [isQuotedChar] using List.mem_takeWhile_imp hc
          refine ⟨_, w, .quoted hbody, hw, ?_⟩
          calc '\x22' :: tail
              = '\x22' :: (tail.takeWhile isQuotedChar ++ tail.dropWhile isQuotedChar) := by
                rw [List.takeWhile_append_dropWhile]
            _ = '\x22' :: (tail.takeWhile isQuotedChar ++ '\x22' :: (w ++ dropBlank behind)) := by
                rw [hdrop, hq, ← hsplit]
            _ = _ := by simp
  · cases h

theorem readBare?_sound {cs rest : List Char} {suffix : Suffix}
    (h : readBare? cs = some (suffix, rest)) :
    ∃ text w, SuffixDerives suffix text ∧ Blanks w ∧ cs = text ++ w ++ rest := by
  unfold readBare? at h
  split at h
  · cases h
  · next hne =>
      obtain ⟨rfl, rfl⟩ := by simpa using h
      have hrun : ∀ c ∈ cs.takeWhile isBareChar, c ≠ '|' ∧ c ≠ '\x7d' ∧ isBlank c = false := by
        intro c hc
        exact isBareChar_iff.mp (List.mem_takeWhile_imp hc)
      rcases dropBlank_split (cs.dropWhile isBareChar) with ⟨w, hw, hsplit⟩
      refine ⟨_, w, .bare hne hrun, hw, ?_⟩
      rw [List.append_assoc, ← hsplit, List.takeWhile_append_dropWhile]

theorem mem_suffixReadings {cs rest : List Char} {suffix : Suffix} :
    (suffix, rest) ∈ suffixReadings cs ↔
      readQuoted? cs = some (suffix, rest) ∨ readBare? cs = some (suffix, rest) := by
  simp [suffixReadings]

theorem suffixReadings_sound {cs rest : List Char} {suffix : Suffix}
    (h : (suffix, rest) ∈ suffixReadings cs) :
    ∃ text w, SuffixDerives suffix text ∧ Blanks w ∧ cs = text ++ w ++ rest := by
  rcases mem_suffixReadings.mp h with hquoted | hbare
  · exact readQuoted?_sound hquoted
  · exact readBare?_sound hbare

theorem suffixReadings_complete {text w rest : List Char} {suffix : Suffix}
    (hsuffix : SuffixDerives suffix text) (hw : Blanks w) (hrest : Ends rest) :
    (suffix, rest) ∈ suffixReadings (text ++ w ++ rest) := by
  rw [mem_suffixReadings]
  -- each kind of suffix ends where its reader stops: at a quote, or at a blank, a bar or a brace
  cases hsuffix with
  | @quoted body hbody =>
      left
      have hchars : ∀ c ∈ body, isQuotedChar c = true := by
        intro c hc
        simpa [isQuotedChar] using hbody c hc
      have hstop : Stops isQuotedChar ('\x22' :: (w ++ rest)) := Stops.cons rfl _
      have hshape : '\x22' :: body ++ ['\x22'] ++ w ++ rest =
          '\x22' :: (body ++ '\x22' :: (w ++ rest)) := by simp
      rw [hshape, readQuoted?, dropWhile_append_stops hchars hstop,
        takeWhile_append_stops hchars hstop]
      exact congrArg some (Prod.ext rfl (dropBlank_append hw (hrest.stops rfl rfl)))
  | @bare run hne hrun =>
      right
      have hchars : ∀ c ∈ text, isBareChar c = true := by
        intro c hc
        exact isBareChar_iff.mpr (hrun c hc)
      have hbehind : Stops isBareChar (w ++ rest) := by
        apply Stops.append
        · intro c hc
          exact isBareChar_of_isBlank (hw c hc)
        · exact hrest.stops rfl rfl
      rw [List.append_assoc, readBare?, takeWhile_append_stops hchars hbehind,
        dropWhile_append_stops hchars hbehind, dropBlank_append hw (hrest.stops rfl rfl)]
      cases text with
      | nil => exact absurd rfl hne
      | cons c text => rfl

/-- A suffix begins with a character that is no blank. -/
theorem SuffixDerives.stops_blank {suffix : Suffix} {text : List Char}
    (h : SuffixDerives suffix text) (rest : List Char) : Stops isBlank (text ++ rest) := by
  cases h with
  | quoted _ => exact Stops.cons rfl _
  | bare hne hrun =>
      cases text with
      | nil => exact absurd rfl hne
      | cons c text => exact Stops.cons (hrun c List.mem_cons_self).2.2 _

/-! ## Calls -/

theorem callReadings_sound {cs rest : List Char} {call : CallForm}
    (h : (call, rest) ∈ callReadings cs) :
    ∃ text, CallDerives call text ∧ cs = text ++ rest := by
  rcases dropBlank_split cs with ⟨w₁, hw₁, hcs⟩
  unfold callReadings at h
  split at h
  · cases h
  · next name tail hname =>
      rcases List.mem_map.mp h with ⟨⟨suffix, behind⟩, hmem, heq⟩
      cases heq
      rcases readName?_sound hname with ⟨w₂, hw₂, hn, hname⟩
      rcases dropBlank_split tail with ⟨w₃, hw₃, htail⟩
      rcases suffixReadings_sound hmem with ⟨text, w₄, hsuffix, hw₄, hbehind⟩
      refine ⟨_, .suffixed hw₁ hn hw₂ hw₃ hsuffix hw₄, ?_⟩
      rw [hcs, hname, htail, hbehind]
      simp
  · next name behind _ hname =>
      obtain ⟨rfl, rfl⟩ := by simpa using h
      rcases readName?_sound hname with ⟨w₂, hw₂, hn, hname⟩
      refine ⟨_, .plain hw₁ hn hw₂, ?_⟩
      rw [hcs, hname]
      simp

/-- Without a colon a call has one reading: the name ends at the bar or the brace,
behind the blanks. -/
theorem callReadings_plain {w₁ name w₂ rest : List Char} (hw₁ : Blanks w₁) (hn : IsName name)
    (hw₂ : Blanks w₂) (hrest : Ends rest) :
    callReadings (w₁ ++ name ++ w₂ ++ rest) = [(⟨name, none⟩, rest)] := by
  have hread : readName? (dropBlank (w₁ ++ name ++ w₂ ++ rest)) = some (name, rest) := by
    rw [List.append_assoc w₁, List.append_assoc w₁, dropBlank_append hw₁]
    · exact readName?_complete hn hw₂ (hrest.stops rfl rfl) (hrest.stops rfl rfl)
    · rw [List.append_assoc]
      exact hn.stops_blank _
  rcases hrest with ⟨c, tail, rfl, hc⟩
  rw [callReadings, hread]
  rcases hc with rfl | rfl <;> rfl

/-- The name of a call ends at a colon, and the readings are those of the suffix. -/
theorem callReadings_suffixed {w₁ name w₂ w₃ behind : List Char} (hw₁ : Blanks w₁)
    (hn : IsName name) (hw₂ : Blanks w₂) (hw₃ : Blanks w₃) (hbehind : Stops isBlank behind) :
    callReadings (w₁ ++ name ++ w₂ ++ ':' :: (w₃ ++ behind)) =
      (suffixReadings behind).map fun (suffix, rest) => (⟨name, some suffix⟩, rest) := by
  have hread : readName? (dropBlank (w₁ ++ name ++ w₂ ++ ':' :: (w₃ ++ behind))) =
      some (name, ':' :: (w₃ ++ behind)) := by
    rw [List.append_assoc w₁, List.append_assoc w₁, dropBlank_append hw₁]
    · exact readName?_complete hn hw₂ (Stops.cons rfl _) (Stops.cons rfl _)
    · rw [List.append_assoc]
      exact hn.stops_blank _
  rw [callReadings, hread]
  exact congrArg (fun cs => (suffixReadings cs).map fun (suffix, rest) =>
    (CallForm.mk name (some suffix), rest)) (dropBlank_append hw₃ hbehind)

theorem callReadings_complete {text rest : List Char} {call : CallForm}
    (h : CallDerives call text) (hrest : Ends rest) :
    (call, rest) ∈ callReadings (text ++ rest) := by
  cases h with
  | plain hw₁ hn hw₂ =>
      rw [callReadings_plain hw₁ hn hw₂ hrest]
      exact List.mem_singleton.mpr rfl
  | @suffixed w₁ name w₂ w₃ text w₄ suffix hw₁ hn hw₂ hw₃ hsuffix hw₄ =>
      have hshape : w₁ ++ name ++ w₂ ++ ':' :: (w₃ ++ text ++ w₄) ++ rest =
          w₁ ++ name ++ w₂ ++ ':' :: (w₃ ++ (text ++ (w₄ ++ rest))) := by simp
      rw [hshape, callReadings_suffixed hw₁ hn hw₂ hw₃ (hsuffix.stops_blank _),
        ← List.append_assoc]
      exact List.mem_map.mpr ⟨_, suffixReadings_complete hsuffix hw₄ hrest, rfl⟩

/-! ## Processors and tags -/

theorem processorReadings_sound {cs rest : List Char} {processor : Option CallForm}
    (h : (processor, rest) ∈ processorReadings cs) :
    ∃ text, ProcessorDerives processor text ∧ cs = text ++ rest := by
  unfold processorReadings at h
  split at h
  · rcases List.mem_map.mp h with ⟨⟨call, behind⟩, hmem, heq⟩
    cases heq
    rcases callReadings_sound hmem with ⟨text, hcall, rfl⟩
    exact ⟨_, .present hcall, rfl⟩
  · obtain ⟨rfl, rfl⟩ := by simpa using h
    exact ⟨[], .absent, rfl⟩

theorem processorReadings_complete {text rest : List Char} {processor : Option CallForm}
    (h : ProcessorDerives processor text) :
    (processor, '\x7d' :: rest) ∈ processorReadings (text ++ '\x7d' :: rest) := by
  cases h with
  | absent => exact List.mem_singleton.mpr rfl
  | present hcall =>
      exact List.mem_map.mpr ⟨_, callReadings_complete hcall (ends_brace rest), rfl⟩

theorem readClose?_eq_some {cs rest : List Char} :
    readClose? cs = some rest ↔ cs = '\x7d' :: '\x7d' :: rest := by
  unfold readClose?
  split
  · simp
  · next hne => simpa using fun h => hne rest h

/-- All readings of the tag that begins here, with what follows each of them, in
the order in which they are tried. -/
def readings : List Char → List (Form × List Char)
  | '\x7b' :: '\x7b' :: cs =>
      (callReadings cs).flatMap fun (head, cs) =>
        (processorReadings cs).flatMap fun (processor, cs) =>
          (readClose? cs).toList.map fun rest => (⟨head, processor⟩, rest)
  | _ => []

/-- The tag that is read is the first of the readings. -/
theorem read?_eq_head? (cs : List Char) : read? cs = (readings cs).head? := by
  unfold read?
  split
  · simp only [readings, List.head?_flatMap, List.head?_map, Option.head?_toList]
  · next hne =>
      rw [readings]
      · rfl
      · exact hne

theorem mem_readings {cs rest : List Char} {form : Form} :
    (form, rest) ∈ readings cs ↔ ∃ raw, Derives form raw ∧ cs = raw ++ rest := by
  constructor
  · intro h
    unfold readings at h
    split at h
    · next inside =>
        rcases List.mem_flatMap.mp h with ⟨⟨head, r₁⟩, hhead, h⟩
        rcases List.mem_flatMap.mp h with ⟨⟨processor, r₂⟩, hprocessor, h⟩
        rcases List.mem_map.mp h with ⟨r₃, hclose, heq⟩
        cases heq
        rcases callReadings_sound hhead with ⟨text₁, hderives₁, rfl⟩
        rcases processorReadings_sound hprocessor with ⟨text₂, hderives₂, rfl⟩
        obtain rfl := readClose?_eq_some.mp (Option.mem_toList.mp hclose)
        exact ⟨_, .tag hderives₁ hderives₂, by simp⟩
    · cases h
  · rintro ⟨raw, hraw, rfl⟩
    obtain @⟨head, processor, text₁, text₂, hhead, hprocessor⟩ := hraw
    have hshape : '\x7b' :: '\x7b' :: (text₁ ++ text₂ ++ ['\x7d', '\x7d']) ++ rest =
        '\x7b' :: '\x7b' :: (text₁ ++ (text₂ ++ '\x7d' :: '\x7d' :: rest)) := by simp
    -- the call ends at a bar or at the braces, whether or not there is a processor
    have hends : Ends (text₂ ++ '\x7d' :: '\x7d' :: rest) := by
      cases hprocessor with
      | absent => exact ends_brace _
      | present _ => exact ends_bar _
    rw [hshape, readings]
    refine List.mem_flatMap.mpr ⟨_, callReadings_complete hhead hends, ?_⟩
    refine List.mem_flatMap.mpr ⟨_, processorReadings_complete hprocessor, ?_⟩
    exact List.mem_singleton.mpr rfl

/-! ## The order of the readings -/

theorem readQuoted?_isQuoted {cs rest : List Char} {suffix : Suffix}
    (h : readQuoted? cs = some (suffix, rest)) : suffix.isQuoted = true := by
  unfold readQuoted? at h
  split at h
  · split at h <;> cases h
    rfl
  · cases h

theorem readBare?_isQuoted {cs rest : List Char} {suffix : Suffix}
    (h : readBare? cs = some (suffix, rest)) : suffix.isQuoted = false := by
  unfold readBare? at h
  split at h <;> cases h
  rfl

/-- Of two readings of a suffix the quoted one comes first. -/
theorem suffixReadings_pairwise (cs : List Char) :
    (suffixReadings cs).Pairwise fun a b => a.1.isQuoted = true ∧ b.1.isQuoted = false := by
  refine List.pairwise_append.mpr ⟨Option.pairwise_toList, Option.pairwise_toList, ?_⟩
  intro a ha b hb
  constructor
  · exact readQuoted?_isQuoted (Option.mem_toList.mp ha)
  · exact readBare?_isQuoted (Option.mem_toList.mp hb)

theorem callReadings_pairwise (cs : List Char) :
    (callReadings cs).Pairwise fun a b => a.1.isQuoted = true ∧ b.1.isQuoted = false := by
  unfold callReadings
  split
  · exact List.Pairwise.nil
  · exact List.pairwise_map.mpr (suffixReadings_pairwise _)
  · exact List.pairwise_singleton _ _

theorem processorReadings_pairwise (cs : List Char) :
    (processorReadings cs).Pairwise fun a b =>
      a.1.any CallForm.isQuoted = true ∧ b.1.any CallForm.isQuoted = false := by
  unfold processorReadings
  split
  · exact List.pairwise_map.mpr (callReadings_pairwise _)
  · exact List.pairwise_singleton _ _

/-- The readings are tried from the preferred one on: the choice for the first
suffix goes before the choice for the second one. -/
theorem readings_pairwise (cs : List Char) :
    (readings cs).Pairwise fun a b => a.1.Before b.1 := by
  unfold readings
  split
  · refine List.pairwise_flatMap.mpr ⟨?_, ?_⟩
    · -- one reading of the first call: the order is that of the processors
      rintro ⟨head, tail⟩ -
      refine List.pairwise_flatMap.mpr ⟨?_, ?_⟩
      · rintro ⟨processor, close⟩ -
        exact List.pairwise_map.mpr Option.pairwise_toList
      · refine (processorReadings_pairwise tail).imp ?_
        rintro ⟨p, close⟩ ⟨q, close'⟩ ⟨hp, hq⟩ a ha b hb
        rcases List.mem_map.mp ha with ⟨r, -, rfl⟩
        rcases List.mem_map.mp hb with ⟨r', -, rfl⟩
        exact .inr ⟨rfl, hp, hq⟩
    · -- two readings of the first call: it decides alone
      refine (callReadings_pairwise _).imp ?_
      rintro ⟨f, tail⟩ ⟨g, tail'⟩ ⟨hf, hg⟩ a ha b hb
      rcases List.mem_flatMap.mp ha with ⟨⟨p, close⟩, -, ha⟩
      rcases List.mem_flatMap.mp hb with ⟨⟨q, close'⟩, -, hb⟩
      rcases List.mem_map.mp ha with ⟨r, -, rfl⟩
      rcases List.mem_map.mp hb with ⟨r', -, rfl⟩
      exact .inl ⟨hf, hg⟩
  · exact List.Pairwise.nil

/-- In a list that is ordered from the best on, a member that nothing is better than
comes first. -/
theorem head?_of_pairwise {α : Type} {better : α → α → Prop} {l : List α} {x : α}
    (h : l.Pairwise better) (hx : x ∈ l) (hbest : ∀ y ∈ l, ¬ better y x) : l.head? = some x := by
  cases h with
  | nil => cases hx
  | @cons y l hy hl =>
      rcases List.mem_cons.mp hx with rfl | hlater
      · rfl
      · exact absurd (hy x hlater) (hbest y List.mem_cons_self)

/-! ## The tag that is read -/

/-- The tag that is read is a derivation, and no derivation that begins at the same
place is better. -/
theorem read?_eq_some_iff {cs rest : List Char} {form : Form} :
    read? cs = some (form, rest) ↔ ∃ raw, Derives form raw ∧ cs = raw ++ rest ∧
      ∀ other text, text <+: cs → Derives other text → form.Preferred other := by
  have hpairwise := readings_pairwise cs
  rw [read?_eq_head?]
  constructor
  · intro h
    rcases List.head?_eq_some_iff.mp h with ⟨tail, hlist⟩
    rcases mem_readings.mp (List.mem_of_mem_head? h) with ⟨raw, hraw, hsplit⟩
    refine ⟨raw, hraw, hsplit, ?_⟩
    rintro other text ⟨behind, rfl⟩ hother
    have hmem : (other, behind) ∈ readings (text ++ behind) :=
      mem_readings.mpr ⟨text, hother, rfl⟩
    rw [hlist] at hmem hpairwise
    rcases List.mem_cons.mp hmem with heq | hmem
    · cases heq
      exact Form.Preferred.refl _
    · exact (List.rel_of_pairwise_cons hpairwise hmem).preferred
  · rintro ⟨raw, hraw, rfl, hbest⟩
    have hmem : (form, rest) ∈ readings (raw ++ rest) := mem_readings.mpr ⟨raw, hraw, rfl⟩
    apply head?_of_pairwise hpairwise hmem
    -- a reading in front of this one would be strictly better
    rintro ⟨other, behind⟩ hother hbefore
    rcases mem_readings.mp hother with ⟨text, hderives, hsplit⟩
    exact hbefore.not_preferred (hbest other text ⟨behind, hsplit.symm⟩ hderives)

/-- Nothing is read only where nothing is derivable. -/
theorem read?_eq_none_iff {cs : List Char} :
    read? cs = none ↔ ∀ form text, text <+: cs → ¬ Derives form text := by
  rw [read?_eq_head?, List.head?_eq_none_iff, List.eq_nil_iff_forall_not_mem]
  constructor
  · rintro h form text ⟨rest, rfl⟩ hderives
    exact h (form, rest) (mem_readings.mpr ⟨text, hderives, rfl⟩)
  · rintro h ⟨form, rest⟩ hmem
    rcases mem_readings.mp hmem with ⟨text, hderives, rfl⟩
    exact h form text (List.prefix_append text rest) hderives

/-- What follows a tag does not matter for it: cut off behind the tag, the text
still reads as that tag. The text that is cut off may hold the quote that a better
derivation needs, but never makes a worse one complete. -/
theorem read?_cut {raw rest : List Char} {form : Form}
    (h : read? (raw ++ rest) = some (form, rest)) : read? raw = some (form, []) := by
  rcases read?_eq_some_iff.mp h with ⟨text, hderives, hsplit, hbest⟩
  obtain rfl := List.append_cancel_right hsplit
  refine read?_eq_some_iff.mpr ⟨raw, hderives, (List.append_nil raw).symm, ?_⟩
  intro other text hbegins hother
  exact hbest other text (hbegins.trans (List.prefix_append raw rest)) hother

/-! ## Tags with one reading -/

/-- A suffix is clear when it begins with a quote only if it is a quoted one. -/
def Suffix.Clear : Suffix → Prop
  | .quoted _ => True
  | .bare run => run.head? ≠ some '\x22'

/-- The suffix of a call is clear, if it has one. -/
def CallForm.Clear (f : CallForm) : Prop := ∀ suffix ∈ f.suffix, suffix.Clear

/-- A clear suffix is read as it is meant. -/
theorem suffixReadings_head? {text w rest : List Char} {suffix : Suffix}
    (hsuffix : SuffixDerives suffix text) (hclear : suffix.Clear) (hw : Blanks w)
    (hrest : Ends rest) : (suffixReadings (text ++ w ++ rest)).head? = some (suffix, rest) := by
  apply head?_of_pairwise (suffixReadings_pairwise _) (suffixReadings_complete hsuffix hw hrest)
  rintro ⟨other, behind⟩ hother ⟨hquoted, hbare⟩
  cases hsuffix with
  | quoted => cases hbare
  | bare hne _ =>
      rcases mem_suffixReadings.mp hother with hread | hread
      · -- a quoted reading begins with a quote
        cases text with
        | nil => exact hne rfl
        | cons c run =>
            unfold readQuoted? at hread
            split at hread
            · next heq =>
                cases heq
                exact hclear rfl
            · cases hread
      · rw [readBare?_isQuoted hread] at hquoted
        cases hquoted

theorem callReadings_head? {text rest : List Char} {call : CallForm}
    (h : CallDerives call text) (hclear : call.Clear) (hrest : Ends rest) :
    (callReadings (text ++ rest)).head? = some (call, rest) := by
  cases h with
  | plain hw₁ hn hw₂ =>
      rw [callReadings_plain hw₁ hn hw₂ hrest]
      rfl
  | @suffixed w₁ name w₂ w₃ text w₄ suffix hw₁ hn hw₂ hw₃ hsuffix hw₄ =>
      have hshape : w₁ ++ name ++ w₂ ++ ':' :: (w₃ ++ text ++ w₄) ++ rest =
          w₁ ++ name ++ w₂ ++ ':' :: (w₃ ++ (text ++ (w₄ ++ rest))) := by simp
      have hread := suffixReadings_head? hsuffix (hclear suffix rfl) hw₄ hrest
      rw [List.append_assoc] at hread
      rw [hshape, callReadings_suffixed hw₁ hn hw₂ hw₃ (hsuffix.stops_blank _), List.head?_map,
        hread]
      rfl

theorem processorReadings_head? {text : List Char} {processor : Option CallForm}
    (h : ProcessorDerives processor text) (hclear : ∀ call ∈ processor, call.Clear)
    (rest : List Char) :
    (processorReadings (text ++ '\x7d' :: rest)).head? = some (processor, '\x7d' :: rest) := by
  cases h with
  | absent => rfl
  | @present call text hcall =>
      rw [List.cons_append, processorReadings, List.head?_map,
        callReadings_head? hcall (hclear call rfl) (ends_brace rest)]
      rfl

theorem findSome?_of_head? {α β : Type} {l : List α} {f : α → Option β} {x : α} {y : β}
    (h : l.head? = some x) (hx : f x = some y) : l.findSome? f = some y := by
  rcases List.head?_eq_some_iff.mp h with ⟨tail, rfl⟩
  rw [List.findSome?_cons, hx]

/-- A tag whose suffixes are clear is read as it is meant, whatever follows it. -/
theorem read?_of_clear {raw : List Char} {form : Form} (h : Derives form raw)
    (hhead : form.head.Clear) (hprocessor : ∀ call ∈ form.processor, call.Clear)
    (rest : List Char) : read? (raw ++ rest) = some (form, rest) := by
  cases h with
  | @tag head processor text₁ text₂ hderives₁ hderives₂ =>
      have hshape : '\x7b' :: '\x7b' :: (text₁ ++ text₂ ++ ['\x7d', '\x7d']) ++ rest =
          '\x7b' :: '\x7b' :: (text₁ ++ (text₂ ++ '\x7d' :: '\x7d' :: rest)) := by simp
      have hends : Ends (text₂ ++ '\x7d' :: '\x7d' :: rest) := by
        cases hderives₂ with
        | absent => exact ends_brace _
        | present _ => exact ends_bar _
      rw [hshape, read?]
      apply findSome?_of_head? (callReadings_head? hderives₁ hhead hends)
      exact findSome?_of_head? (processorReadings_head? hderives₂ hprocessor _) rfl

end Placeholder.Tag
