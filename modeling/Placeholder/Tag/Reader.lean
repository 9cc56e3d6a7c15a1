import Placeholder.Tag

/-! # Reading a tag

The written form of a tag is

* two opening braces, blanks, a name, blanks;
* possibly `:`, blanks, a suffix, blanks;
* possibly `|`, blanks, a processor name, blanks, and again possibly `:` with a
  suffix;
* two closing braces.

A suffix that begins with a quote can be read in two ways: as a quoted text up
to the next quote, which may hold anything else, or as a run of characters other
than `|`, `}` and blanks. The readings are tried in this order, the first one
that lets the tag be completed counts, and the choice for the first suffix goes
before the choice for the second.

Each reader takes the characters from some place on and returns what it read
with the characters behind it. `read?_shorter` is the fact on which every scan
of a template rests: a tag is never empty.
-/

namespace Placeholder.Tag

open Placeholder.Text

/-! ## Character classes -/

/-- A character of a name. -/
def isNameChar (c : Char) : Bool := !(c == ':' || c == '|' || c == '\x7d' || isBlank c)

/-- A character of a bare suffix. -/
def isBareChar (c : Char) : Bool := !(c == '|' || c == '\x7d' || isBlank c)

/-- A character that a quoted suffix may hold between its quotes. -/
def isQuotedChar (c : Char) : Bool := c != '\x22'

/-! ## Written forms -/

/-- The two written forms of a suffix. -/
inductive Suffix where
  | quoted (body : List Char)
  | bare (run : List Char)
deriving DecidableEq, Repr

/-- The suffix as it is written, quotes included. -/
def Suffix.text : Suffix → List Char
  | .quoted body => '\x22' :: body ++ ['\x22']
  | .bare run => run

/-- The written form of a name with an optional suffix. -/
structure CallForm where
  name : List Char
  suffix : Option Suffix
deriving DecidableEq, Repr

/-- The call that a written form stands for. -/
def CallForm.call (f : CallForm) : Call where
  name := String.ofList f.name
  args := f.suffix.bind fun s => argumentsOf s.text

/-- The written form of a tag. -/
structure Form where
  head : CallForm
  processor : Option CallForm
deriving DecidableEq, Repr

/-! ## Readers -/

/-- A run of name characters, as long as possible and not empty, and the blanks
behind it. -/
def readName? (cs : List Char) : Option (List Char × List Char) :=
  match cs.takeWhile isNameChar with
  | [] => none
  | name => some (name, dropBlank (cs.dropWhile isNameChar))

/-- A quoted suffix and the blanks behind it. -/
def readQuoted? : List Char → Option (Suffix × List Char)
  | '\x22' :: cs =>
      match cs.dropWhile isQuotedChar with
      | [] => none
      | _ :: rest => some (.quoted (cs.takeWhile isQuotedChar), dropBlank rest)
  | _ => none

/-- A bare suffix, as long as possible and not empty, and the blanks behind
it. -/
def readBare? (cs : List Char) : Option (Suffix × List Char) :=
  match cs.takeWhile isBareChar with
  | [] => none
  | run => some (.bare run, dropBlank (cs.dropWhile isBareChar))

/-- The readings of a suffix, the quoted one first. -/
def suffixReadings (cs : List Char) : List (Suffix × List Char) :=
  (readQuoted? cs).toList ++ (readBare? cs).toList

/-- The readings of a name with an optional suffix. A colon behind the name
belongs to a suffix, so there is no reading without one. -/
def callReadings (cs : List Char) : List (CallForm × List Char) :=
  match readName? (dropBlank cs) with
  | none => []
  | some (name, ':' :: rest) =>
      (suffixReadings (dropBlank rest)).map fun (suffix, rest) => (⟨name, some suffix⟩, rest)
  | some (name, rest) => [(⟨name, none⟩, rest)]

/-- The readings of the optional processor part. -/
def processorReadings : List Char → List (Option CallForm × List Char)
  | '|' :: cs => (callReadings cs).map fun (call, rest) => (some call, rest)
  | cs => [(none, cs)]

/-- What follows two closing braces. -/
def readClose? : List Char → Option (List Char)
  | '\x7d' :: '\x7d' :: rest => some rest
  | _ => none

/-- The tag that begins here, in its preferred reading, and what follows it. -/
def read? : List Char → Option (Form × List Char)
  | '\x7b' :: '\x7b' :: cs =>
      (callReadings cs).findSome? fun (head, cs) =>
        (processorReadings cs).findSome? fun (processor, cs) =>
          (readClose? cs).map fun rest => (⟨head, processor⟩, rest)
  | _ => none

/-! ## Reading moves forward -/

theorem readName?_shorter {cs name rest : List Char} (h : readName? cs = some (name, rest)) :
    rest.length ≤ cs.length := by
  unfold readName? at h
  split at h
  · simp at h
  · obtain ⟨-, rfl⟩ := by simpa using h
    exact Nat.le_trans (length_dropBlank_le _) (List.dropWhile_sublist _).length_le

theorem suffixReadings_shorter {cs : List Char} {r : Suffix × List Char}
    (h : r ∈ suffixReadings cs) : r.2.length ≤ cs.length := by
  rcases List.mem_append.mp h with hq | hb
  · -- the quoted reading
    rw [Option.mem_toList] at hq
    unfold readQuoted? at hq
    split at hq
    · split at hq
      · simp at hq
      · next tail _ _ rest hrest =>
          obtain rfl := by simpa using hq
          have hle := (List.dropWhile_sublist isQuotedChar (l := tail)).length_le
          have := length_dropBlank_le rest
          rw [hrest] at hle
          simp at hle ⊢
          omega
    · simp at hq
  · -- the bare reading
    rw [Option.mem_toList] at hb
    unfold readBare? at hb
    split at hb
    · simp at hb
    · obtain rfl := by simpa using hb
      exact Nat.le_trans (length_dropBlank_le _) (List.dropWhile_sublist _).length_le

theorem callReadings_shorter {cs : List Char} {r : CallForm × List Char}
    (h : r ∈ callReadings cs) : r.2.length ≤ cs.length := by
  have hcs := length_dropBlank_le cs
  unfold callReadings at h
  split at h
  · simp at h
  · next name rest hname =>
      obtain ⟨⟨suffix, after⟩, hmem, rfl⟩ := List.mem_map.mp h
      have h1 := readName?_shorter hname
      have h2 := suffixReadings_shorter hmem
      have h3 := length_dropBlank_le rest
      simp at h1 h2 ⊢
      omega
  · next name rest _ hname =>
      obtain rfl := by simpa using h
      have h1 := readName?_shorter hname
      simp at h1 ⊢
      omega

theorem processorReadings_shorter {cs : List Char} {r : Option CallForm × List Char}
    (h : r ∈ processorReadings cs) : r.2.length ≤ cs.length := by
  unfold processorReadings at h
  split at h
  · obtain ⟨⟨call, rest⟩, hmem, rfl⟩ := List.mem_map.mp h
    have := callReadings_shorter hmem
    simp at this ⊢
    omega
  · obtain rfl := by simpa using h
    simp

/-- A tag takes at least one character, so a scan that goes on behind it
ends. -/
theorem read?_shorter {cs rest : List Char} {form : Form} (h : read? cs = some (form, rest)) :
    rest.length < cs.length := by
  unfold read? at h
  split at h
  · obtain ⟨⟨head, r1⟩, hmem1, h⟩ := List.exists_of_findSome?_eq_some h
    obtain ⟨⟨processor, r2⟩, hmem2, h⟩ := List.exists_of_findSome?_eq_some h
    obtain ⟨r3, hclose, heq⟩ := Option.map_eq_some_iff.mp h
    have h1 := callReadings_shorter hmem1
    have h2 := processorReadings_shorter hmem2
    obtain ⟨-, rfl⟩ := by simpa using heq
    unfold readClose? at hclose
    split at hclose
    · obtain rfl := by simpa using hclose
      simp at h1 h2 ⊢
      omega
    · simp at hclose
  · simp at h

end Placeholder.Tag
