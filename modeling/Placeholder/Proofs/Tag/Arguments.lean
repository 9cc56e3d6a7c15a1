import Placeholder.Proofs.Text
import Placeholder.Tag

/-! # Arguments and their texts

Arguments are written with commas between them, and cutting the text at its commas
gives them back (`pieces_joined`), as long as there are some and none of them has a
comma. A suffix stands for them when this text is what is left of the suffix without
its quotes and without the blanks at its ends (`argumentsOf_of_joined`).

The other way round, what is left of any suffix is the text of its arguments
(`splitFrom_argumentsOf`), unless nothing is left (`argumentsOf_eq_none_iff`).
-/

namespace Placeholder

namespace Text

/-- Cutting at a separator is the library's splitting of lists. -/
theorem pieces_eq_splitOn (sep : Char) (cs : List Char) : pieces sep cs = cs.splitOn sep := by
  induction cs with
  | nil => rfl
  | cons c cs ih =>
      rw [pieces, ih, List.splitOn_cons_eq_if_modifyHead]
      by_cases hc : c = sep
      · simp [hc]
      · rw [if_neg hc, if_neg (by simpa using hc)]
        split
        · next hnil => exact absurd hnil (List.splitOn_ne_nil sep cs)
        · next piece pieces hcons => rw [hcons]; rfl

theorem not_mem_of_mem_pieces {sep : Char} {cs piece : List Char} (h : piece ∈ pieces sep cs) :
    sep ∉ piece := by
  induction cs generalizing piece with
  | nil =>
      cases List.mem_singleton.mp h
      exact List.not_mem_nil
  | cons c cs ih =>
      rw [pieces] at h
      split at h
      · rcases List.mem_cons.mp h with rfl | h
        · exact List.not_mem_nil
        · exact ih h
      · next hc =>
          -- the character joins the first piece
          split at h
          · cases List.mem_singleton.mp h
            simpa using Ne.symm hc
          · next first later hpieces =>
              rw [hpieces] at ih
              rcases List.mem_cons.mp h with rfl | h
              · intro hmem
                rcases List.mem_cons.mp hmem with heq | hmem
                · exact hc heq.symm
                · exact ih List.mem_cons_self hmem
              · exact ih (List.mem_cons_of_mem first h)

end Text

open Text

/-! ## Quotes -/

theorem unquoted?_quoted (cs : List Char) : unquoted? ('\x22' :: cs ++ ['\x22']) = some cs := by
  have hback : (cs ++ ['\x22']).reverse = '\x22' :: cs.reverse := by simp
  rw [List.cons_append, unquoted?, hback]
  exact congrArg some (List.reverse_reverse cs)

theorem unquoted?_eq_some_iff {cs body : List Char} :
    unquoted? cs = some body ↔ cs = '\x22' :: body ++ ['\x22'] := by
  constructor
  · intro h
    unfold unquoted? at h
    split at h
    · next tail =>
        split at h
        · next inner hback =>
            cases h
            rw [List.cons_append, ← List.reverse_cons, ← hback, List.reverse_reverse]
        · cases h
    · cases h
  · rintro rfl
    exact unquoted?_quoted body

theorem unquoted?_of_head?_ne {cs : List Char} (h : cs.head? ≠ some '\x22') :
    unquoted? cs = none := by
  unfold unquoted?
  split
  · exact absurd rfl h
  · rfl

/-! ## Commas -/

/-- Arguments with commas between them. -/
def joined (items : List String) : List Char := [','].intercalate (items.map String.toList)

theorem pieces_joined {items : List String} (hne : items ≠ [])
    (hcomma : ∀ item ∈ items, ',' ∉ item.toList) :
    (pieces ',' (joined items)).map String.ofList = items := by
  have hsplit : pieces ',' (joined items) = items.map String.toList := by
    rw [pieces_eq_splitOn]
    apply List.splitOn_intercalate
    · intro cs hcs
      rcases List.mem_map.mp hcs with ⟨item, hitem, rfl⟩
      exact hcomma item hitem
    · simpa using hne
  rw [hsplit, List.map_map]
  exact List.map_id'' (fun _ => String.ofList_toList) items

/-- The arguments are there, no comma is left in one of them, and with commas between them they are
the text. -/
def SplitFrom (text : List Char) (args : Arguments) : Prop :=
  ∃ items, args = some items ∧ (∀ item ∈ items, ',' ∉ item.toList) ∧ joined items = text

theorem splitFrom_pieces (cs : List Char) :
    SplitFrom cs (some ((pieces ',' cs).map String.ofList)) := by
  refine ⟨_, rfl, ?_, ?_⟩
  · intro item hitem
    rcases List.mem_map.mp hitem with ⟨piece, hpiece, rfl⟩
    rw [String.toList_ofList]
    exact not_mem_of_mem_pieces hpiece
  · have hid : ∀ piece : List Char, (String.toList ∘ String.ofList) piece = piece :=
      fun _ => String.toList_ofList
    rw [joined, List.map_map, List.map_id'' hid, pieces_eq_splitOn, List.intercalate_splitOn]

/-- A suffix with something left of it stands for the arguments that this is cut into. -/
theorem splitFrom_argumentsOf {suffix content : List Char}
    (hcontent : (unquoted? suffix).getD suffix = content) (hne : trimList content ≠ []) :
    SplitFrom (trimList content) (argumentsOf suffix) := by
  rw [argumentsOf, hcontent]
  split
  · next hnil => exact absurd hnil hne
  · exact splitFrom_pieces _

/-- Arguments are absent only if nothing is left of the suffix. -/
theorem argumentsOf_eq_none_iff {suffix content : List Char}
    (hcontent : (unquoted? suffix).getD suffix = content) :
    argumentsOf suffix = none ↔ trimList content = [] := by
  rw [argumentsOf, hcontent]
  split
  · next hnil => exact iff_of_true rfl hnil
  · next hne => exact iff_of_false (fun h => nomatch h) hne

/-- A suffix with the text of some arguments between its quotes, or without quotes,
stands for these arguments. -/
theorem argumentsOf_of_joined {suffix : List Char} {items : List String} (hne : items ≠ [])
    (hcomma : ∀ item ∈ items, ',' ∉ item.toList) (hjoined : joined items ≠ [])
    (htext : (unquoted? suffix).getD suffix = joined items)
    (hfront : Stops isBlank (joined items)) (hback : Stops isBlank (joined items).reverse) :
    argumentsOf suffix = some items := by
  rw [argumentsOf, htext, trimList_of_stops hfront hback]
  split
  · next hnil => exact absurd hnil hjoined
  · rw [pieces_joined hne hcomma]

end Placeholder
