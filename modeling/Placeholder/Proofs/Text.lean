import Mathlib.Data.List.TakeWhile
import Placeholder.Text.Blank
import Placeholder.Text.Cut

/-! # Runs of characters

A reader takes the longest run of a class of characters. It takes exactly the run
`as` of `as ++ bs` when all of `as` is in the class and `bs` does not go on with
it; `Stops` is the second half of this.

A text that is cut at a separator is cut at the first one (`splitFirst?_append`), and trimming does
not see blanks that are put around a text (`trimList_append`).

`byteLength_toList` says that counting bytes character by character gives the
size of the text, and `utf8Bytes_lt` that texts, which are ordered by their
characters, are in the order of their bytes.
-/

namespace Placeholder.Text

/-! ## Longest runs -/

/-- `cs` does not begin with a character of the class `p`. -/
def Stops (p : Char → Bool) (cs : List Char) : Prop := ∀ c ∈ cs.head?, p c = false

theorem Stops.cons {p : Char → Bool} {c : Char} (h : p c = false) (cs : List Char) :
    Stops p (c :: cs) := by
  intro d hd
  cases hd
  exact h

theorem Stops.nil (p : Char → Bool) : Stops p [] := by
  intro c hc
  cases hc

theorem Stops.take {p : Char → Bool} {cs : List Char} (h : Stops p cs) (k : Nat) :
    Stops p (cs.take k) := by
  intro c hc
  rw [List.head?_take] at hc
  split at hc
  · cases hc
  · exact h c hc

theorem Stops.append {p : Char → Bool} {w cs : List Char} (hw : ∀ c ∈ w, p c = false)
    (hcs : Stops p cs) : Stops p (w ++ cs) := by
  cases w with
  | nil => exact hcs
  | cons c w => exact Stops.cons (hw c List.mem_cons_self) _

theorem dropWhile_of_stops {p : Char → Bool} {cs : List Char} (h : Stops p cs) :
    cs.dropWhile p = cs := by
  cases cs with
  | nil => rfl
  | cons c cs => exact List.dropWhile_cons_of_neg (by simp [h c rfl])

theorem takeWhile_of_stops {p : Char → Bool} {cs : List Char} (h : Stops p cs) :
    cs.takeWhile p = [] := by
  cases cs with
  | nil => rfl
  | cons c cs => exact List.takeWhile_cons_of_neg (by simp [h c rfl])

theorem takeWhile_append_stops {p : Char → Bool} {as bs : List Char}
    (has : ∀ c ∈ as, p c = true) (hbs : Stops p bs) : (as ++ bs).takeWhile p = as := by
  rw [List.takeWhile_append_of_pos has, takeWhile_of_stops hbs, List.append_nil]

theorem dropWhile_append_stops {p : Char → Bool} {as bs : List Char}
    (has : ∀ c ∈ as, p c = true) (hbs : Stops p bs) : (as ++ bs).dropWhile p = bs := by
  rw [List.dropWhile_append_of_pos has, dropWhile_of_stops hbs]

/-- A text without blanks at its ends is not trimmed. -/
theorem trimList_of_stops {cs : List Char} (hfront : Stops isBlank cs)
    (hback : Stops isBlank cs.reverse) : trimList cs = cs := by
  rw [trimList, dropBlank, dropWhile_of_stops hfront, dropEnd, dropWhile_of_stops hback,
    List.reverse_reverse]

theorem trimList_of_not_blank {cs : List Char} (h : ∀ c ∈ cs, isBlank c = false) :
    trimList cs = cs := by
  apply trimList_of_stops
  · intro c hc
    exact h c (List.mem_of_mem_head? hc)
  · intro c hc
    exact h c (List.mem_reverse.mp (List.mem_of_mem_head? hc))

/-- Nothing is left of blanks, and only of blanks. -/
theorem trimList_eq_nil_iff {cs : List Char} :
    trimList cs = [] ↔ ∀ c ∈ cs, isBlank c = true := by
  rw [trimList, dropEnd, List.reverse_eq_nil_iff, List.dropWhile_eq_nil_iff]
  constructor
  · intro h c hc
    rw [← List.takeWhile_append_dropWhile (p := isBlank) (l := cs)] at hc
    rcases List.mem_append.mp hc with hfront | hrest
    · exact List.mem_takeWhile_imp hfront
    · exact h c (List.mem_reverse.mpr hrest)
  · intro h c hc
    have hdropped := List.mem_reverse.mp hc
    exact h c ((List.dropWhile_sublist isBlank).subset hdropped)

theorem dropEnd_of_stops {p : Char → Bool} {cs : List Char} (h : Stops p cs.reverse) :
    dropEnd p cs = cs := by
  rw [dropEnd, dropWhile_of_stops h, List.reverse_reverse]

theorem dropEnd_append {p : Char → Bool} {bs : List Char} (h : ∀ c ∈ bs, p c = true)
    (as : List Char) : dropEnd p (as ++ bs) = dropEnd p as := by
  have hreverse : ∀ c ∈ bs.reverse, p c = true := fun c hc => h c (List.mem_reverse.mp hc)
  rw [dropEnd, List.reverse_append, List.dropWhile_append_of_pos hreverse, dropEnd]

/-- Blanks around a text are cut off with those that it has itself. -/
theorem trimList_append {front back : List Char} (hfront : ∀ c ∈ front, isBlank c = true)
    (hback : ∀ c ∈ back, isBlank c = true) (cs : List Char) :
    trimList (front ++ cs ++ back) = trimList cs := by
  have hnone : back.dropWhile isBlank = [] := by
    rw [List.dropWhile_eq_nil_iff]
    exact hback
  rw [trimList, trimList, dropBlank, dropBlank, List.append_assoc,
    List.dropWhile_append_of_pos hfront, List.dropWhile_append]
  split
  · next hblank => rw [hnone, List.isEmpty_iff.mp hblank]
  · exact dropEnd_append hback _

/-- Trimming commutes with a change of characters that keeps what is blank. -/
theorem trimList_map {f : Char → Char} (h : ∀ c, isBlank (f c) = isBlank c) (cs : List Char) :
    trimList (cs.map f) = (trimList cs).map f := by
  have hblank : isBlank ∘ f = isBlank := funext h
  rw [trimList, trimList, dropBlank, dropBlank, dropEnd, dropEnd, List.dropWhile_map, hblank,
    ← List.map_reverse, List.dropWhile_map, hblank, List.map_reverse]

/-! ## The first separator -/

theorem splitFirst?_eq (sep : Char) (cs : List Char) :
    splitFirst? sep cs =
      (cs.dropWhile (· != sep)).tail?.map fun after => (cs.takeWhile (· != sep), after) := by
  induction cs with
  | nil => rfl
  | cons c cs ih =>
      by_cases h : c = sep
      · simp [splitFirst?, h]
      · simp [splitFirst?, h, ih, Function.comp_def]

/-- A text is cut at the first separator in it. -/
theorem splitFirst?_append {sep : Char} {as : List Char} (h : sep ∉ as) (bs : List Char) :
    splitFirst? sep (as ++ sep :: bs) = some (as, bs) := by
  have has : ∀ c ∈ as, (c != sep) = true := by
    intro c hc
    apply bne_iff_ne.mpr
    rintro rfl
    exact h hc
  have hstop : Stops (· != sep) (sep :: bs) :=
    Stops.cons (p := (· != sep)) (bne_self_eq_false sep) bs
  rw [splitFirst?_eq, takeWhile_append_stops has hstop, dropWhile_append_stops has hstop]
  rfl

theorem splitFirst?_of_not_mem {sep : Char} {cs : List Char} (h : sep ∉ cs) :
    splitFirst? sep cs = none := by
  have hdrop : cs.dropWhile (· != sep) = [] := by
    rw [List.dropWhile_eq_nil_iff]
    intro c hc
    apply bne_iff_ne.mpr
    rintro rfl
    exact h hc
  rw [splitFirst?_eq, hdrop]
  rfl

/-! ## Bytes -/

theorem byteLength_eq_zero {cs : List Char} : byteLength cs = 0 ↔ cs = [] := by
  cases cs with
  | nil => exact iff_of_true rfl rfl
  | cons c cs =>
      have hpos := c.utf8Size_pos
      rw [byteLength_cons]
      exact iff_of_false (by omega) (List.cons_ne_nil c cs)

/-- A character takes at least one byte. -/
theorem length_le_byteLength (cs : List Char) : cs.length ≤ byteLength cs := by
  induction cs with
  | nil => exact Nat.le_refl 0
  | cons c cs ih =>
      have hpos := c.utf8Size_pos
      rw [List.length_cons, byteLength_cons]
      omega

/-- The bytes of a text are those of its characters. -/
theorem byteLength_toList (s : String) : byteLength s.toList = s.utf8ByteSize := by
  suffices h : ∀ cs : List Char, byteLength cs = (String.ofList cs).utf8ByteSize by
    rw [h, String.ofList_toList]
  intro cs
  induction cs with
  | nil => rfl
  | cons c cs ih =>
      rw [byteLength_cons, ih]
      simp [String.ofList_cons]

/-- A text is read back from its bytes. -/
theorem fromUTF8?_toUTF8 (s : String) : String.fromUTF8? s.toUTF8 = some s := by
  unfold String.fromUTF8?
  rw [String.toUTF8_eq_toByteArray, dif_pos s.isValidUTF8]
  rfl

/-! ## The order of bytes -/

/-- The bytes of a text, in UTF-8. -/
def utf8Bytes (s : String) : List UInt8 := s.toByteArray.data.toList

theorem utf8Bytes_eq_flatMap (s : String) :
    utf8Bytes s = s.toList.flatMap String.utf8EncodeChar := by
  rw [utf8Bytes, ← String.utf8Encode_toList, List.utf8Encode, List.toList_data_toByteArray]

/-- Bytes in front decide on an order unless they are equal. -/
theorem cons_ofNat_lt {m n : Nat} {cs ds : List UInt8} (hn : n < 256) (hle : m ≤ n)
    (h : m = n → cs < ds) : UInt8.ofNat m :: cs < UInt8.ofNat n :: ds := by
  rw [List.cons_lt_cons_iff]
  rcases Nat.lt_or_eq_of_le hle with hlt | heq
  · left
    rw [UInt8.lt_iff_toNat_lt, UInt8.toNat_ofNat', UInt8.toNat_ofNat']
    omega
  · right
    exact ⟨congrArg UInt8.ofNat heq, h heq⟩

/-- Two characters are in the order of their bytes, whatever follows them: the bytes of the
smaller one are smaller before either of the two is over. -/
theorem utf8EncodeChar_append_lt {c d : Char} (h : c < d) (cs ds : List UInt8) :
    String.utf8EncodeChar c ++ cs < String.utf8EncodeChar d ++ ds := by
  have hcd : c.val.toNat < d.val.toNat := h
  have hd : d.val.toNat < 0x110000 := by
    rcases d.valid with hd | ⟨-, hd⟩
    · exact Nat.lt_trans hd (by decide)
    · exact hd
  unfold String.utf8EncodeChar
  dsimp only
  generalize c.val.toNat = m at hcd ⊢
  generalize d.val.toNat = n at hcd hd ⊢
  -- each byte is at most the other one if those in front are equal, and not all of them are:
  -- the first byte is larger where there are more of them, and equal bytes make equal numbers
  split_ifs
  all_goals
    repeat
      apply cons_ofNat_lt (by omega) (by omega)
      intro _
    omega

theorem flatMap_utf8EncodeChar_lt {cs ds : List Char} (h : cs < ds) :
    cs.flatMap String.utf8EncodeChar < ds.flatMap String.utf8EncodeChar := by
  induction h with
  | nil =>
    next d ds =>
      rw [List.flatMap_nil, List.flatMap_cons]
      cases hd : String.utf8EncodeChar d with
      | nil => exact absurd hd String.utf8EncodeChar_ne_nil
      | cons b bs => exact List.nil_lt_cons _ _
  | rel h =>
    rw [List.flatMap_cons, List.flatMap_cons]
    exact utf8EncodeChar_append_lt h _ _
  | cons h ih =>
    rw [List.flatMap_cons, List.flatMap_cons]
    exact List.append_left_lt ih

/-- The order of texts is the order of their bytes. -/
theorem utf8Bytes_lt {s t : String} (h : s < t) : utf8Bytes s < utf8Bytes t := by
  rw [utf8Bytes_eq_flatMap, utf8Bytes_eq_flatMap]
  exact flatMap_utf8EncodeChar_lt (String.lt_iff.mp h)

end Placeholder.Text
