/-! # Cutting texts

Cuts of a text at a separator character and at a byte offset. A byte offset is
a place in the UTF-8 form of the text, and a cut there exists only between two
characters: it splits the text into a prefix of this size and the rest
(`cut?_eq_some_iff`).
-/

namespace Placeholder.Text

/-! ## Separators -/

/-- The pieces between the separators: one more piece than there are
separators, some of them possibly empty. -/
def pieces (sep : Char) : List Char → List (List Char)
  | [] => [[]]
  | c :: cs =>
      if c = sep then [] :: pieces sep cs
      else
        match pieces sep cs with
        | [] => [[c]]
        | p :: ps => (c :: p) :: ps

/-- The part before the first separator and the part after it, if there is a
separator. -/
def splitFirst? (sep : Char) : List Char → Option (List Char × List Char)
  | [] => none
  | c :: cs =>
      if c = sep then some ([], cs)
      else (splitFirst? sep cs).map fun (before, after) => (c :: before, after)

/-! ## Byte offsets -/

/-- The number of bytes of the UTF-8 form. -/
def byteLength : List Char → Nat
  | [] => 0
  | c :: cs => c.utf8Size + byteLength cs

@[simp] theorem byteLength_nil : byteLength [] = 0 := rfl

@[simp] theorem byteLength_cons (c : Char) (cs : List Char) :
    byteLength (c :: cs) = c.utf8Size + byteLength cs := rfl

@[simp] theorem byteLength_append (as bs : List Char) :
    byteLength (as ++ bs) = byteLength as + byteLength bs := by
  induction as with
  | nil => simp
  | cons c as ih => simp [ih, Nat.add_assoc]

/-- The text up to the byte offset and the text from it, or nothing when the
offset lies beyond the end or inside a character. -/
def cut? : Nat → List Char → Option (List Char × List Char)
  | 0, cs => some ([], cs)
  | _ + 1, [] => none
  | n + 1, c :: cs =>
      if c.utf8Size ≤ n + 1 then
        (cut? (n + 1 - c.utf8Size) cs).map fun (before, after) => (c :: before, after)
      else none

/-- A cut behind a prefix of the text gives the prefix and the rest. -/
theorem cut?_append (as bs : List Char) : cut? (byteLength as) (as ++ bs) = some (as, bs) := by
  induction as with
  | nil => cases bs <;> rfl
  | cons c as ih =>
      have hpos : 0 < c.utf8Size := Char.utf8Size_pos c
      obtain ⟨k, hk⟩ : ∃ k, byteLength (c :: as) = k + 1 :=
        ⟨byteLength (c :: as) - 1, by simp; omega⟩
      have hrest : k + 1 - c.utf8Size = byteLength as := by simp at hk; omega
      rw [hk, List.cons_append, cut?, if_pos (by simp at hk; omega), hrest, ih]
      rfl

/-- There is a cut where a prefix of the text ends, and nowhere else. -/
theorem cut?_eq_some_iff {n : Nat} {cs as bs : List Char} :
    cut? n cs = some (as, bs) ↔ cs = as ++ bs ∧ n = byteLength as := by
  constructor
  · intro h
    induction cs generalizing n as with
    | nil =>
        cases n with
        | zero => cases h; exact ⟨rfl, rfl⟩
        | succ n => cases h
    | cons c cs ih =>
        cases n with
        | zero => cases h; exact ⟨rfl, rfl⟩
        | succ n =>
            rw [cut?] at h
            split at h
            · next hle =>
                obtain ⟨⟨front, rest⟩, hcut, heq⟩ := Option.map_eq_some_iff.mp h
                cases heq
                obtain ⟨rfl, hlen⟩ := ih hcut
                exact ⟨rfl, by rw [byteLength_cons, ← hlen]; omega⟩
            · cases h
  · rintro ⟨rfl, rfl⟩
    exact cut?_append as bs

end Placeholder.Text
