import Placeholder.Tag.Reader

/-! # The grammar of tags

What a tag looks like, said without a reader. `Derives form raw` holds when `raw`
is a text of the written form `form`:

  `{{` ws* name ws* [`:` ws* suffix ws*] [`|` ws* name ws* [`:` ws* suffix ws*]] `}}`

The grammar is ambiguous. A suffix that begins with a quote may be a quoted one or
a bare one, and the two may end in different places: of `{{x:"a}}b"}}` the first
six characters behind the colon are a quoted suffix, and the first two are a bare
one. `Form.Preferred` is the order that decides between such derivations.
-/

namespace Placeholder.Tag

open Placeholder.Text

/-! ## Terminals -/

/-- White space between the parts of a tag, possibly none. -/
def Blanks (w : List Char) : Prop := ∀ c ∈ w, isBlank c = true

/-- A name has at least one character, and none of them is a colon, a bar, a
closing brace or blank. -/
structure IsName (cs : List Char) : Prop where
  ne_nil : cs ≠ []
  chars : ∀ c ∈ cs, c ≠ ':' ∧ c ≠ '|' ∧ c ≠ '\x7d' ∧ isBlank c = false

/-! ## Rules -/

/-- A suffix is a pair of quotes around anything without a quote, or a run of
characters other than bars, closing braces and blanks. -/
inductive SuffixDerives : Suffix → List Char → Prop
  | quoted {body : List Char} (body_chars : ∀ c ∈ body, c ≠ '\x22') :
      SuffixDerives (.quoted body) ('\x22' :: body ++ ['\x22'])
  | bare {run : List Char} (ne_nil : run ≠ [])
      (run_chars : ∀ c ∈ run, c ≠ '|' ∧ c ≠ '\x7d' ∧ isBlank c = false) :
      SuffixDerives (.bare run) run

/-- `ws* name ws* [":" ws* suffix ws*]` -/
inductive CallDerives : CallForm → List Char → Prop
  | plain {w₁ name w₂ : List Char} (h₁ : Blanks w₁) (hname : IsName name)
      (h₂ : Blanks w₂) : CallDerives ⟨name, none⟩ (w₁ ++ name ++ w₂)
  | suffixed {w₁ name w₂ w₃ text w₄ : List Char} {suffix : Suffix} (h₁ : Blanks w₁)
      (hname : IsName name) (h₂ : Blanks w₂) (h₃ : Blanks w₃)
      (hsuffix : SuffixDerives suffix text) (h₄ : Blanks w₄) :
      CallDerives ⟨name, some suffix⟩ (w₁ ++ name ++ w₂ ++ ':' :: (w₃ ++ text ++ w₄))

/-- `["|" call]` -/
inductive ProcessorDerives : Option CallForm → List Char → Prop
  | absent : ProcessorDerives none []
  | present {call : CallForm} {text : List Char} (hcall : CallDerives call text) :
      ProcessorDerives (some call) ('|' :: text)

/-- Two opening braces, a call, possibly a processor, two closing braces. -/
inductive Derives : Form → List Char → Prop
  | tag {head : CallForm} {processor : Option CallForm} {text₁ text₂ : List Char}
      (hhead : CallDerives head text₁) (hprocessor : ProcessorDerives processor text₂) :
      Derives ⟨head, processor⟩ ('\x7b' :: '\x7b' :: (text₁ ++ text₂ ++ ['\x7d', '\x7d']))

/-- The text of a tag stands between two pairs of braces, and there is something
between them. -/
theorem Derives.braces {form : Form} {raw : List Char} (h : Derives form raw) :
    ∃ inside, inside ≠ [] ∧ raw = ['\x7b', '\x7b'] ++ inside ++ ['\x7d', '\x7d'] := by
  cases h with
  | @tag head processor text₁ text₂ hhead hprocessor =>
      refine ⟨text₁ ++ text₂, ?_, by simp⟩
      cases hhead with
      | plain h₁ hname h₂ => simp [hname.ne_nil]
      | suffixed h₁ hname h₂ h₃ hsuffix h₄ => simp [hname.ne_nil]

/-- A suffix is derived as it is written. -/
theorem SuffixDerives.self {suffix : Suffix} {text : List Char} (h : SuffixDerives suffix text) :
    SuffixDerives suffix suffix.text := by
  cases h with
  | quoted hbody => exact .quoted hbody
  | bare hne hrun => exact .bare hne hrun

theorem CallDerives.suffix {call : CallForm} {text : List Char} (h : CallDerives call text) :
    ∀ suffix ∈ call.suffix, SuffixDerives suffix suffix.text := by
  cases h with
  | plain => exact fun _ hmem => nomatch hmem
  | suffixed _ _ _ _ hsuffix _ =>
      intro suffix hmem
      cases hmem
      exact hsuffix.self

/-! ## Choosing between derivations -/

/-- Whether a suffix is the quoted alternative. -/
def Suffix.isQuoted : Suffix → Bool
  | .quoted _ => true
  | .bare _ => false

/-- Whether a call has a suffix and takes the quoted alternative for it. -/
def CallForm.isQuoted (f : CallForm) : Bool := f.suffix.any Suffix.isQuoted

/-- Whether the processor of a form takes the quoted alternative. -/
def Form.processorQuoted (f : Form) : Bool := f.processor.any CallForm.isQuoted

/-- `form` is at least as good as `other`: it takes the quoted alternative for the
first suffix if `other` does, and where both choose alike there, it takes the
quoted alternative for the second one if `other` does. -/
def Form.Preferred (form other : Form) : Prop :=
  (other.head.isQuoted = true → form.head.isQuoted = true) ∧
    (other.head.isQuoted = form.head.isQuoted →
      other.processorQuoted = true → form.processorQuoted = true)

/-- `f` is strictly better than `g`. -/
def Form.Before (f g : Form) : Prop :=
  (f.head.isQuoted = true ∧ g.head.isQuoted = false) ∨
    (f.head.isQuoted = g.head.isQuoted ∧ f.processorQuoted = true ∧ g.processorQuoted = false)

theorem Form.Preferred.refl (f : Form) : f.Preferred f := ⟨id, fun _ => id⟩

theorem Form.Before.preferred {f g : Form} (h : f.Before g) : f.Preferred g := by
  rcases h with ⟨hf, hg⟩ | ⟨heq, hf, -⟩
  · constructor
    · intro _
      exact hf
    · intro hsame _
      rw [hf, hg] at hsame
      cases hsame
  · constructor
    · intro hg
      exact heq.trans hg
    · intro _ _
      exact hf

theorem Form.Before.not_preferred {f g : Form} (h : f.Before g) : ¬ g.Preferred f := by
  rintro ⟨hhead, hproc⟩
  rcases h with ⟨hf, hg⟩ | ⟨heq, hf, hg⟩
  · rw [hhead hf] at hg
    cases hg
  · rw [hproc heq hf] at hg
    cases hg

end Placeholder.Tag
