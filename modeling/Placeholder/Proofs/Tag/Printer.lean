import Placeholder.Proofs.Tag.Arguments
import Placeholder.Proofs.Tag.Readings

/-! # Writing tags

A tag with everything that can be chosen when it is written down: the blanks between
its parts, and for each argument list one of the two spellings. `Spelling.Allows` says
which texts a spelling leaves as they are: quotes can be put around anything without a
quote that neither begins nor ends with a blank, and without quotes a text may hold no
bar, closing brace or blank and may not begin with a quote.

Reading a tag undoes writing it (`Written.read?_text`). The written form is one
derivation of the grammar among several, so this rests on the order in which the
readings are tried: of a suffix in quotes the quoted reading is the first, and a suffix
without quotes has no other.
-/

namespace Placeholder.Tag

open Placeholder.Text

/-- Blanks between two parts of a tag, possibly none. -/
abbrev Gap := { w : List Char // Blanks w }

/-! ## Arguments -/

/-- The ways to write the text of an argument list. -/
inductive Spelling where
  | quoted
  | bare
deriving DecidableEq, Repr

namespace Spelling

/-- The texts that can be read back from a spelling. -/
def Allows : Spelling → List Char → Prop
  | .quoted, cs => '\x22' ∉ cs ∧
      (∀ c ∈ cs.head?, isBlank c = false) ∧ ∀ c ∈ cs.getLast?, isBlank c = false
  | .bare, cs => (∀ c ∈ cs, c ≠ '|' ∧ c ≠ '\x7d' ∧ isBlank c = false) ∧ cs.head? ≠ some '\x22'

/-- A text in a spelling. -/
def suffix : Spelling → List Char → Suffix
  | .quoted, cs => .quoted cs
  | .bare, cs => .bare cs

variable {s : Spelling} {cs : List Char}

theorem Allows.derives (h : s.Allows cs) (hne : cs ≠ []) :
    SuffixDerives (s.suffix cs) (s.suffix cs).text := by
  cases s with
  | quoted =>
      apply SuffixDerives.quoted
      intro c hc heq
      exact h.1 (heq ▸ hc)
  | bare => exact .bare hne h.1

theorem Allows.clear (h : s.Allows cs) : (s.suffix cs).Clear := by
  cases s with
  | quoted => trivial
  | bare => exact h.2

/-- The text is what is left of the suffix without its quotes. -/
theorem Allows.unquoted (h : s.Allows cs) :
    (unquoted? (s.suffix cs).text).getD (s.suffix cs).text = cs := by
  cases s with
  | quoted => exact congrArg (Option.getD · _) (unquoted?_quoted cs)
  | bare => exact congrArg (Option.getD · cs) (unquoted?_of_head?_ne h.2)

/-- Neither spelling allows blanks at the ends. -/
theorem Allows.ends (h : s.Allows cs) : Stops isBlank cs ∧ Stops isBlank cs.reverse := by
  cases s with
  | quoted =>
      refine ⟨h.2.1, ?_⟩
      intro c hc
      rw [List.head?_reverse] at hc
      exact h.2.2 c hc
  | bare =>
      constructor
      · intro c hc
        exact (h.1 c (List.mem_of_mem_head? hc)).2.2
      · intro c hc
        exact (h.1 c (List.mem_reverse.mp (List.mem_of_mem_head? hc))).2.2

end Spelling

/-- An argument list as it is written behind a colon. -/
structure WrittenArguments where
  front : Gap
  items : List String
  spelling : Spelling
  back : Gap
  items_ne_nil : items ≠ []
  no_comma : ∀ item ∈ items, ',' ∉ item.toList
  joined_ne_nil : joined items ≠ []
  allowed : spelling.Allows (joined items)

namespace WrittenArguments

/-- The arguments with commas between them, in their spelling. -/
def suffix (a : WrittenArguments) : Suffix := a.spelling.suffix (joined a.items)

/-- The colon, and the suffix between its blanks. -/
def text (a : WrittenArguments) : List Char :=
  ':' :: (a.front.val ++ a.suffix.text ++ a.back.val)

theorem argumentsOf_suffix (a : WrittenArguments) : argumentsOf a.suffix.text = some a.items :=
  argumentsOf_of_joined a.items_ne_nil a.no_comma a.joined_ne_nil a.allowed.unquoted
    a.allowed.ends.1 a.allowed.ends.2

end WrittenArguments

/-! ## Calls -/

/-- A name with possible arguments as it is written. -/
structure WrittenCall where
  front : Gap
  name : String
  back : Gap
  args : Option WrittenArguments
  isName : IsName name.toList

namespace WrittenCall

/-- The name between its blanks, and the arguments. -/
def text (w : WrittenCall) : List Char :=
  w.front.val ++ w.name.toList ++ w.back.val ++ w.args.elim [] WrittenArguments.text

/-- The derivation that is meant. -/
def form (w : WrittenCall) : CallForm := ⟨w.name.toList, w.args.map WrittenArguments.suffix⟩

/-- The call that is meant. -/
def call (w : WrittenCall) : Call := ⟨w.name, w.args.map WrittenArguments.items⟩

theorem derives (w : WrittenCall) : CallDerives w.form w.text := by
  obtain ⟨front, name, back, args, isName⟩ := w
  cases args with
  | none =>
      have htext : (WrittenCall.mk front name back none isName).text =
          front.val ++ name.toList ++ back.val := List.append_nil _
      rw [htext]
      exact .plain front.property isName back.property
  | some a =>
      exact .suffixed front.property isName back.property a.front.property
        (a.allowed.derives a.joined_ne_nil) a.back.property

theorem clear (w : WrittenCall) : w.form.Clear := by
  intro suffix hsuffix
  rcases Option.map_eq_some_iff.mp hsuffix with ⟨a, -, rfl⟩
  exact a.allowed.clear

theorem form_call (w : WrittenCall) : w.form.call = w.call := by
  have hargs : (w.args.map WrittenArguments.suffix).bind (fun s => argumentsOf s.text) =
      w.args.map WrittenArguments.items := by
    cases w.args with
    | none => rfl
    | some a => exact a.argumentsOf_suffix
  rw [CallForm.call, form, call, hargs, String.ofList_toList]

end WrittenCall

/-! ## Tags -/

/-- A tag as it is written. -/
structure Written where
  head : WrittenCall
  processor : Option WrittenCall

namespace Written

/-- The text of the tag. -/
def text (w : Written) : List Char :=
  ['\x7b', '\x7b'] ++ w.head.text ++ w.processor.elim [] (fun call => '|' :: call.text) ++
    ['\x7d', '\x7d']

/-- The derivation that is meant. -/
def form (w : Written) : Form := ⟨w.head.form, w.processor.map WrittenCall.form⟩

/-- The tag that is meant, where its text begins at a byte offset. -/
def tag (w : Written) (start : Nat) : Tag where
  raw := String.ofList w.text
  start := start
  stop := start + byteLength w.text
  name := w.head.name
  args := w.head.args.map WrittenArguments.items
  processor := w.processor.map WrittenCall.call

theorem derives (w : Written) : Derives w.form w.text := by
  have hprocessor : ProcessorDerives (w.processor.map WrittenCall.form)
      (w.processor.elim [] fun call => '|' :: call.text) := by
    cases w.processor with
    | none => exact .absent
    | some call => exact .present call.derives
  have htext : w.text = '\x7b' :: '\x7b' :: (w.head.text ++
      (w.processor.elim [] fun call => '|' :: call.text) ++ ['\x7d', '\x7d']) := by
    simp [text]
  rw [htext]
  exact .tag w.head.derives hprocessor

/-- Of a written tag the derivation that is meant is read, whatever follows. -/
theorem read?_text (w : Written) (rest : List Char) :
    read? (w.text ++ rest) = some (w.form, rest) := by
  -- nothing is asked of what follows: the readings that reach beyond the tag come later
  apply read?_of_clear w.derives w.head.clear
  intro call hcall
  rcases Option.map_eq_some_iff.mp hcall with ⟨written, -, rfl⟩
  exact written.clear

end Written

end Placeholder.Tag
