import Placeholder.Proofs.Tag.Arguments
import Placeholder.Proofs.Template.Scan

/-! # Suffixes and arguments

The arguments of a call are split from the text of its suffix, and joined with commas they are that
text again. A quoted suffix loses its quotes and the blanks at the ends. A bare one should be split as it
stands, but what takes the quotes off knows neither of the two alternatives: it looks at the first
and the last character. So `"a","b"`, which is one bare suffix because there are quotes inside,
loses its outer quotes as well and becomes `a"` and `"b`.

`SuffixArguments` holds the three cases, by the text of the suffix, and `suffixes_are_split` says that
they hold of both calls of every tag.
-/

namespace Placeholder

namespace Tag

open Text

/-- The arguments that belong to the text of a suffix. -/
structure SuffixArguments (text : List Char) (args : Arguments) : Prop where
  /-- One quoted text stands for its trimmed content, or for no arguments if that is empty. -/
  quoted : ∀ body, text = '\x22' :: body ++ ['\x22'] → '\x22' ∉ body →
    (args = none ↔ trimList body = []) ∧ (trimList body ≠ [] → SplitFrom (trimList body) args)
  /-- A text that is not between quotes is split as it stands. -/
  verbatim : (∀ body, text ≠ '\x22' :: body ++ ['\x22']) → SplitFrom text args
  /-- Of a text between quotes that has more quotes the outer ones are lost. -/
  stripped : ∀ body, text = '\x22' :: body ++ ['\x22'] → '\x22' ∈ body → SplitFrom body args

theorem content_of_quoted {text body : List Char} (h : text = '\x22' :: body ++ ['\x22']) :
    (unquoted? text).getD text = body := by
  rw [unquoted?_eq_some_iff.mpr h]
  rfl

theorem content_of_not_quoted {text : List Char} (h : ∀ body, text ≠ '\x22' :: body ++ ['\x22']) :
    (unquoted? text).getD text = text := by
  have hnone : unquoted? text = none := by
    apply Option.eq_none_iff_forall_ne_some.mpr
    intro body hbody
    exact h body (unquoted?_eq_some_iff.mp hbody)
  rw [hnone]
  rfl

/-- A suffix that is not a quoted text is a bare one: it has no blanks and is not empty. -/
theorem SuffixDerives.bare_chars {suffix : Suffix} (h : SuffixDerives suffix suffix.text)
    (hbare : ∀ body, '\x22' ∉ body → suffix.text ≠ '\x22' :: body ++ ['\x22']) :
    suffix.text ≠ [] ∧ ∀ c ∈ suffix.text, isBlank c = false := by
  cases suffix with
  | quoted body =>
      cases h with
      | quoted hbody => exact absurd rfl (hbare body fun hmem => hbody _ hmem rfl)
  | bare run =>
      cases h with
      | bare hne hrun => exact ⟨hne, fun c hc => (hrun c hc).2.2⟩

theorem SuffixDerives.suffixArguments {suffix : Suffix} (h : SuffixDerives suffix suffix.text) :
    SuffixArguments suffix.text (argumentsOf suffix.text) where
  quoted := by
    intro body htext _
    have hcontent := content_of_quoted htext
    exact ⟨argumentsOf_eq_none_iff hcontent, splitFrom_argumentsOf hcontent⟩
  verbatim := by
    intro hplain
    rcases h.bare_chars fun body _ => hplain body with ⟨hne, hchars⟩
    -- a bare suffix ends at the first blank, so there is nothing to trim
    have htrim := trimList_of_not_blank hchars
    have hsplit := splitFrom_argumentsOf (content_of_not_quoted hplain)
    rw [htrim] at hsplit
    exact hsplit hne
  stripped := by
    intro body htext hquote
    -- the quoted alternative would have ended at the quote inside
    have hbare : ∀ other, '\x22' ∉ other → suffix.text ≠ '\x22' :: other ++ ['\x22'] := by
      intro other hother hsame
      obtain rfl : body = other := by simpa [htext] using hsame
      exact hother hquote
    have hchars : ∀ c ∈ body, isBlank c = false := by
      intro c hc
      apply (h.bare_chars hbare).2
      rw [htext]
      exact List.mem_append_left _ (List.mem_cons_of_mem _ hc)
    have hsplit := splitFrom_argumentsOf (content_of_quoted htext)
    rw [trimList_of_not_blank hchars] at hsplit
    exact hsplit (List.ne_nil_of_mem hquote)

theorem CallDerives.suffixArguments {call : CallForm} {text : List Char}
    (h : CallDerives call text) :
    ∀ suffix ∈ call.suffix, SuffixArguments suffix.text call.call.args := by
  intro suffix hmem
  have hargs : call.call.args = argumentsOf suffix.text := by
    rw [CallForm.call, Option.mem_def.mp hmem]
    rfl
  rw [hargs]
  exact (h.suffix suffix hmem).suffixArguments

end Tag

namespace Template

open Text
open Tag (SuffixArguments read?)

/-- **Suffixes are split at their commas.** For the suffix of a tag and for the one of its processor:
arguments are absent only for a quoted text with nothing but blanks in it. Otherwise none of them has a
comma and joined they are the suffix, without its quotes and blanks if it is one quoted text, and
without its first and last character if these are quotes although it is a bare one. -/
theorem suffixes_are_split {t : String} {g : Tag} (hg : g ∈ tags t) :
    ∃ form, read? g.raw.toList = some (form, []) ∧ g = tagOf form g.raw.toList g.start ∧
      (∀ suffix ∈ form.head.suffix, SuffixArguments suffix.text g.args) ∧
      ∀ call ∈ form.processor, ∀ suffix ∈ call.suffix,
        ∃ processor, g.processor = some processor ∧
          SuffixArguments suffix.text processor.args := by
  rcases exists_read?_raw hg with ⟨form, hread, htag⟩
  rcases Tag.read?_eq_some_iff.mp hread with ⟨raw, hderives, -⟩
  refine ⟨form, hread, htag, ?_⟩
  have hargs : g.args = form.head.call.args := congrArg Tag.args htag
  have hprocessor : g.processor = form.processor.map Tag.CallForm.call :=
    congrArg Tag.processor htag
  rw [hargs, hprocessor]
  cases hderives with
  | tag hhead hpart =>
      refine ⟨hhead.suffixArguments, ?_⟩
      cases hpart with
      | absent => exact fun _ hmem => nomatch hmem
      | @present call _ hcall =>
          intro _ hmem suffix hsuffix
          cases hmem
          exact ⟨call.call, rfl, hcall.suffixArguments suffix hsuffix⟩

/-- The suffix of this tag is a bare one between quotes, that of its processor a quoted one. -/
theorem suffixes_are_split_of_both :
    tags "\x7b\x7bx:\"a\",\"b\" | p:\" c,d \"\x7d\x7d" =
      [⟨"\x7b\x7bx:\"a\",\"b\" | p:\" c,d \"\x7d\x7d", 0, 25, "x", some ["a\"", "\"b"],
        some ⟨"p", some ["c", "d"]⟩⟩] ∧
    SplitFrom ['a', '\x22', ',', '\x22', 'b'] (some ["a\"", "\"b"]) ∧
    SplitFrom ['c', ',', 'd'] (some ["c", "d"]) := by
  have htags : tags "\x7b\x7bx:\"a\",\"b\" | p:\" c,d \"\x7d\x7d" =
      [⟨"\x7b\x7bx:\"a\",\"b\" | p:\" c,d \"\x7d\x7d", 0, 25, "x", some ["a\"", "\"b"],
        some ⟨"p", some ["c", "d"]⟩⟩] := by
    decide +kernel
  have hread : read? "\x7b\x7bx:\"a\",\"b\" | p:\" c,d \"\x7d\x7d".toList =
      some (⟨⟨['x'], some (.bare ['\x22', 'a', '\x22', ',', '\x22', 'b', '\x22'])⟩,
        some ⟨['p'], some (.quoted [' ', 'c', ',', 'd', ' '])⟩⟩, []) := by
    decide +kernel
  rcases suffixes_are_split (htags ▸ List.mem_cons_self) with
    ⟨form, hform, -, hhead, hprocessor⟩
  cases hform.symm.trans hread
  rcases hprocessor _ rfl _ rfl with ⟨processor, hsome, hargs⟩
  cases hsome
  have hbare : SplitFrom ['a', '\x22', ',', '\x22', 'b'] (some ["a\"", "\"b"]) :=
    (hhead _ rfl).stripped _ rfl (by decide)
  have hquoted : SplitFrom ['c', ',', 'd'] (some ["c", "d"]) :=
    (hargs.quoted _ rfl (by decide)).2 (by decide)
  exact ⟨htags, hbare, hquoted⟩

/-- A suffix that is not one quoted text is not always split as it stands. -/
theorem bare_suffix_loses_quotes :
    ¬ ∀ t, ∀ g ∈ tags t, ∀ form, read? g.raw.toList = some (form, []) →
      ∀ suffix ∈ form.head.suffix,
        (∀ body, '\x22' ∉ body → suffix.text ≠ '\x22' :: body ++ ['\x22']) →
          SplitFrom suffix.text g.args := by
  intro h
  have htags : tags "\x7b\x7bx:\"a\",\"b\"\x7d\x7d" =
      [⟨"\x7b\x7bx:\"a\",\"b\"\x7d\x7d", 0, 13, "x", some ["a\"", "\"b"], none⟩] := by
    decide +kernel
  have hread : read? "\x7b\x7bx:\"a\",\"b\"\x7d\x7d".toList =
      some (⟨⟨['x'], some (.bare ['\x22', 'a', '\x22', ',', '\x22', 'b', '\x22'])⟩, none⟩, []) := by
    decide +kernel
  have hbare : ∀ body, '\x22' ∉ body →
      (Tag.Suffix.bare ['\x22', 'a', '\x22', ',', '\x22', 'b', '\x22']).text ≠
        '\x22' :: body ++ ['\x22'] := by
    intro body hbody hsame
    obtain rfl : ['a', '\x22', ',', '\x22', 'b'] = body :=
      List.append_cancel_right (List.cons_eq_cons.mp hsame).2
    exact hbody (by decide)
  rcases h _ _ (htags ▸ List.mem_cons_self) _ hread _ rfl hbare with ⟨items, hitems, -, hjoined⟩
  cases hitems
  exact absurd hjoined (by decide)

end Template

end Placeholder
