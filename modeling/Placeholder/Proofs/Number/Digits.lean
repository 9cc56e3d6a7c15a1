import Placeholder.Number.Reader
import Placeholder.Proofs.Text

/-! # Numerals

A numeral for a number is a list of digits with this value. Zeros in front do not matter to it,
so a number has one numeral of every width that is wide enough: this is why a number that is
written with a fixed width can be read back without looking at what follows.
-/

namespace Placeholder.Number

open Placeholder.Text

theorem isDigit_eq : isDigit = Char.isDigit := by
  funext c
  rw [Bool.eq_iff_iff, Char.isDigit_iff_toNat]
  simp [isDigit]

/-- A digit is no blank. -/
theorem isBlank_of_isDigit {c : Char} (h : isDigit c = true) : isBlank c = false := by
  have hbounds : 48 ≤ c.toNat ∧ c.toNat ≤ 57 := by simpa [isDigit] using h
  rw [← Bool.not_eq_true]
  intro hblank
  simp only [isBlank, Bool.or_eq_true, Bool.and_eq_true, decide_eq_true_eq, beq_iff_eq] at hblank
  omega

theorem toLower_of_isDigit {c : Char} (h : isDigit c = true) : c.toLower = c := by
  have hbounds : 48 ≤ c.toNat ∧ c.toNat ≤ 57 := by simpa [isDigit] using h
  unfold Char.toLower
  rw [dif_neg]
  intro hupper
  have hle : 65 ≤ c.toNat := hupper.1
  omega

theorem digitValue_le {c : Char} (h : isDigit c = true) : digitValue c ≤ 9 := by
  have hbounds : 48 ≤ c.toNat ∧ c.toNat ≤ 57 := by simpa [isDigit] using h
  have hzero : '0'.toNat = 48 := rfl
  unfold digitValue
  omega

/-- So many digits make a number with no more digits than these. -/
theorem digitsValue_lt {cs : List Char} (h : ∀ c ∈ cs, isDigit c = true) :
    digitsValue cs < Nat.pow 10 cs.length := by
  -- the digits that were met before count for as many more
  suffices hfrom : ∀ n met, n < Nat.pow 10 met →
      cs.foldl (fun n c => 10 * n + digitValue c) n < Nat.pow 10 (met + cs.length) by
    have hnone := hfrom 0 0 Nat.one_pos
    rwa [Nat.zero_add] at hnone
  induction cs with
  | nil =>
      intro n met hn
      exact hn
  | cons c cs ih =>
      intro n met hn
      have hc := digitValue_le (h c List.mem_cons_self)
      have hpow : Nat.pow 10 (met + 1) = Nat.pow 10 met * 10 := rfl
      have hlength : met + (c :: cs).length = met + 1 + cs.length := by
        rw [List.length_cons]
        omega
      rw [List.foldl_cons, hlength]
      apply ih (fun d hd => h d (List.mem_cons_of_mem c hd))
      omega

/-- Digits behind others move these to the left. -/
theorem digitsValue_append (cs ds : List Char) :
    digitsValue (cs ++ ds) = digitsValue cs * Nat.pow 10 ds.length + digitsValue ds := by
  have hsplit : digitsValue (cs ++ ds) = Nat.ofDigitChars 10 ds (digitsValue cs) :=
    Nat.ofDigitChars_append 0
  rw [hsplit, Nat.ofDigitChars_eq_ofDigitChars_zero, Nat.mul_comm]
  rfl

theorem digitsValue_zeros (k : Nat) : digitsValue (List.replicate k '0') = 0 := by
  have hzeros : digitsValue (List.replicate k '0') = Nat.pow 10 k * 0 :=
    Nat.ofDigitChars_replicate_zero
  rw [hzeros, Nat.mul_zero]

/-- A digit is determined by its value. -/
theorem eq_of_digitValue_eq {c d : Char} (hc : isDigit c = true) (hd : isDigit d = true)
    (h : digitValue c = digitValue d) : c = d := by
  have hbounds : 48 ≤ c.toNat ∧ c.toNat ≤ 57 := by simpa [isDigit] using hc
  have hbounds' : 48 ≤ d.toNat ∧ d.toNat ≤ 57 := by simpa [isDigit] using hd
  have hzero : '0'.toNat = 48 := rfl
  unfold digitValue at h
  apply Char.toNat_inj.mp
  omega

/-- So many digits with a value are determined by it. -/
theorem eq_of_digitsValue_eq {cs ds : List Char} (hcs : ∀ c ∈ cs, isDigit c = true)
    (hds : ∀ d ∈ ds, isDigit d = true) (hlength : cs.length = ds.length)
    (h : digitsValue cs = digitsValue ds) : cs = ds := by
  induction cs generalizing ds with
  | nil => exact (List.eq_nil_of_length_eq_zero hlength.symm).symm
  | cons c cs ih =>
      cases ds with
      | nil => cases hlength
      | cons d ds =>
          rw [List.forall_mem_cons] at hcs hds
          have hrest : cs.length = ds.length := Nat.succ.inj hlength
          rw [← List.singleton_append, ← List.singleton_append (l := ds), digitsValue_append,
            digitsValue_append, hrest] at h
          have hlow := digitsValue_lt hcs.2
          have hlow' := digitsValue_lt hds.2
          rw [hrest] at hlow
          have hunit : 0 < Nat.pow 10 ds.length := Nat.pow_pos (by omega)
          -- the first digits are what is left of the values without their last places
          have hfirst := congrArg (· / Nat.pow 10 ds.length) h
          have hlast := congrArg (· % Nat.pow 10 ds.length) h
          simp only [Nat.mul_comm _ (Nat.pow 10 ds.length), Nat.mul_add_div hunit, Nat.mul_add_mod,
            Nat.div_eq_of_lt hlow, Nat.div_eq_of_lt hlow', Nat.mod_eq_of_lt hlow,
            Nat.mod_eq_of_lt hlow', Nat.add_zero] at hfirst hlast
          have hone : ∀ c, digitsValue [c] = digitValue c := fun c => Nat.zero_add _
          rw [hone, hone] at hfirst
          rw [eq_of_digitValue_eq hcs.1 hds.1 hfirst, ih hcs.2 hds.2 hrest hlast]

/-- Digits with a value. -/
structure Numeral (n : Nat) (cs : List Char) : Prop where
  digits : ∀ c ∈ cs, isDigit c = true
  value : digitsValue cs = n

theorem numeral_digitsOf (n : Nat) : Numeral n (digitsOf n) where
  digits := by
    intro c hc
    rw [isDigit_eq]
    exact Nat.isDigit_of_mem_toDigits (by omega) (by omega) hc
  value := Nat.ofDigitChars_ten_toDigits

theorem digitsOf_ne_nil (n : Nat) : digitsOf n ≠ [] := Nat.toDigits_ne_nil

namespace Numeral

variable {n : Nat} {cs : List Char}

/-- A numeral begins with a digit, and so with no sign. -/
theorem exists_eq_cons (h : Numeral n cs) (hne : cs ≠ []) :
    ∃ d ds, cs = d :: ds ∧ isDigit d = true := by
  obtain ⟨d, ds, rfl⟩ := List.exists_cons_of_ne_nil hne
  exact ⟨d, ds, rfl, h.digits d List.mem_cons_self⟩

/-- There are no blanks in front of a numeral. -/
theorem dropBlank_append (h : Numeral n cs) (hne : cs ≠ []) (rest : List Char) :
    dropBlank (cs ++ rest) = cs ++ rest := by
  obtain ⟨d, ds, rfl, hd⟩ := h.exists_eq_cons hne
  exact dropWhile_of_stops (Stops.cons (isBlank_of_isDigit hd) (ds ++ rest))

/-- Zeros in front do not change the value. -/
theorem padZeros (h : Numeral n cs) (width : Nat) : Numeral n (padZeros width cs) where
  digits := by
    intro c hc
    rcases List.mem_append.mp hc with hzero | hc
    · rw [List.eq_of_mem_replicate hzero]
      rfl
    · exact h.digits c hc
  value := by
    have hzeros : Nat.ofDigitChars 10 (List.replicate (width - cs.length) '0') 0 = 0 := by
      rw [Nat.ofDigitChars_replicate_zero, Nat.mul_zero]
    calc digitsValue (Number.padZeros width cs)
        = Nat.ofDigitChars 10 cs
            (Nat.ofDigitChars 10 (List.replicate (width - cs.length) '0') 0) :=
          Nat.ofDigitChars_append 0
      _ = digitsValue cs := by rw [hzeros]; rfl
      _ = n := h.value

end Numeral

theorem le_length_padZeros (width : Nat) (cs : List Char) :
    width ≤ (padZeros width cs).length := by
  unfold padZeros
  rw [List.length_append, List.length_replicate]
  omega

theorem length_padZeros {width : Nat} {cs : List Char} (h : cs.length ≤ width) :
    (padZeros width cs).length = width := by
  unfold padZeros
  rw [List.length_append, List.length_replicate]
  omega

/-- The numeral of a width. -/
theorem length_padZeros_digitsOf {n width : Nat} (hwidth : 0 < width)
    (hn : n < Nat.pow 10 width) : (padZeros width (digitsOf n)).length = width :=
  length_padZeros ((Nat.length_toDigits_le_iff (by omega) hwidth).mpr hn)

theorem numeral_padZeros (width n : Nat) : Numeral n (padZeros width (digitsOf n)) :=
  (numeral_digitsOf n).padZeros width

theorem padZeros_zero (cs : List Char) : padZeros 0 cs = cs := by
  rw [padZeros, Nat.zero_sub, List.replicate_zero, List.nil_append]

theorem padZeros_digitsOf_ne_nil (width n : Nat) : padZeros width (digitsOf n) ≠ [] := by
  unfold padZeros
  intro hnil
  exact digitsOf_ne_nil n (List.append_eq_nil_iff.mp hnil).2

/-- What is read as a number is a numeral. -/
theorem numeral_of_readNat? {cs : List Char} {n : Nat} (h : readNat? cs = some n) :
    cs ≠ [] ∧ Numeral n cs := by
  obtain ⟨hdigits, hvalue⟩ := Option.ite_none_left_eq_some.mp h
  rw [Bool.or_eq_true, not_or, List.isEmpty_iff, List.any_eq_true] at hdigits
  refine ⟨hdigits.1, ?_, Option.some.inj hvalue⟩
  intro c hc
  by_contra hno
  have hother : (!isDigit c) = true := by
    rw [Bool.not_eq_true] at hno
    rw [hno]
    rfl
  exact hdigits.2 ⟨c, hc, hother⟩

theorem readNat?_numeral {n : Nat} {cs : List Char} (h : Numeral n cs) (hne : cs ≠ []) :
    readNat? cs = some n := by
  have hdigits : ¬ (cs.isEmpty || cs.any fun c => !isDigit c) = true := by
    rw [Bool.or_eq_true, not_or, List.isEmpty_iff, List.any_eq_true]
    refine ⟨hne, ?_⟩
    rintro ⟨c, hc, hother⟩
    rw [h.digits c hc] at hother
    exact Bool.false_ne_true hother
  rw [readNat?, if_neg hdigits, h.value]

theorem readNat?_digitsOf (n : Nat) : readNat? (digitsOf n) = some n :=
  readNat?_numeral (numeral_digitsOf n) (digitsOf_ne_nil n)

/-- A number of 64 bits is read back. -/
theorem readNat64?_digitsOf {n : Nat} (h : n < Nat.pow 2 64) :
    readNat64? (digitsOf n) = some n := by
  have hread := readNat?_digitsOf n
  obtain ⟨d, ds, hds, hd⟩ := (numeral_digitsOf n).exists_eq_cons (digitsOf_ne_nil n)
  rw [hds] at hread ⊢
  unfold readNat64?
  split
  · next heq =>
      cases heq
      cases hd
  · dsimp only
    rw [hread, Option.bind_eq_bind, Option.bind_some]
    exact if_pos h

/-! ## Signs -/

theorem readSign_of_ne {c : Char} (hminus : c ≠ '-') (hplus : c ≠ '+') (cs : List Char) :
    readSign (c :: cs) = (false, c :: cs) := by
  unfold readSign
  split
  · next heq => exact absurd (List.cons.inj heq).1 hminus
  · next heq => exact absurd (List.cons.inj heq).1 hplus
  · rfl

theorem readSign_of_digit {c : Char} (hc : isDigit c = true) (cs : List Char) :
    readSign (c :: cs) = (false, c :: cs) := by
  apply readSign_of_ne
  · rintro rfl
    cases hc
  · rintro rfl
    cases hc

/-! ## The ends of a text -/

/-- A digit or a sign comes first. -/
def StartsNumber (cs : List Char) : Prop :=
  cs.head?.any (fun c => isDigit c || c == '-' || c == '+') = true

instance : DecidablePred StartsNumber := fun _ => inferInstanceAs (Decidable (_ = true))

/-- A digit comes last. -/
def EndsInDigit (cs : List Char) : Prop := cs.getLast?.any isDigit = true

theorem startsNumber_cons {c : Char} {cs : List Char} :
    StartsNumber (c :: cs) ↔ isDigit c = true ∨ c = '-' ∨ c = '+' := by
  simp [StartsNumber, or_assoc]

theorem startsNumber_padZeros (width n : Nat) (rest : List Char) :
    StartsNumber (padZeros width (digitsOf n) ++ rest) := by
  obtain ⟨d, ds, hds, hd⟩ :=
    (numeral_padZeros width n).exists_eq_cons (padZeros_digitsOf_ne_nil width n)
  rw [hds]
  exact startsNumber_cons.mpr (.inl hd)

namespace StartsNumber

variable {cs : List Char}

theorem stops_isBlank (h : StartsNumber cs) : Stops isBlank cs := by
  cases cs with
  | nil => cases h
  | cons c cs =>
      apply Stops.cons
      rcases startsNumber_cons.mp h with hdigit | rfl | rfl
      · exact isBlank_of_isDigit hdigit
      · rfl
      · rfl

/-- Digits and signs have no case. -/
theorem lower (h : StartsNumber cs) : StartsNumber (cs.map Char.toLower) := by
  cases cs with
  | nil => cases h
  | cons c cs =>
      rw [List.map_cons, startsNumber_cons]
      rcases startsNumber_cons.mp h with hdigit | rfl | rfl
      · rw [toLower_of_isDigit hdigit]
        exact .inl hdigit
      · exact .inr (.inl rfl)
      · exact .inr (.inr rfl)

/-- A text that begins like a number is no word in any case. -/
theorem lower_ne (h : StartsNumber cs) {word : String} (hword : ¬ StartsNumber word.toList) :
    String.ofList (cs.map Char.toLower) ≠ word := by
  rintro rfl
  rw [String.toList_ofList] at hword
  exact hword h.lower

end StartsNumber

theorem endsInDigit_padZeros (width n : Nat) : EndsInDigit (padZeros width (digitsOf n)) := by
  have hne := padZeros_digitsOf_ne_nil width n
  have hlast := (numeral_padZeros width n).digits _ (List.getLast_mem hne)
  rw [EndsInDigit, List.getLast?_eq_some_getLast hne, Option.any_some]
  exact hlast

namespace EndsInDigit

variable {cs : List Char}

theorem append {front : List Char} (h : EndsInDigit cs) : EndsInDigit (front ++ cs) := by
  unfold EndsInDigit at *
  rw [List.getLast?_append]
  cases hlast : cs.getLast? with
  | none =>
      rw [hlast] at h
      cases h
  | some d =>
      rw [hlast] at h
      exact h

theorem cons {c : Char} (h : EndsInDigit cs) : EndsInDigit (c :: cs) := by
  have happend : EndsInDigit ([c] ++ cs) := h.append
  exact happend

theorem stops_isBlank (h : EndsInDigit cs) : Stops isBlank cs.reverse := by
  intro c hc
  rw [List.head?_reverse] at hc
  rw [EndsInDigit, Option.mem_def.mp hc, Option.any_some] at h
  exact isBlank_of_isDigit h

end EndsInDigit

/-! ## Texts of numbers -/

/-- This is how natural numbers are shown. -/
theorem toList_toString_nat (n : Nat) : (toString n).toList = digitsOf n := Nat.toList_repr

/-- The digits of an integer behind its sign. -/
def integerText (n : Int) : List Char :=
  if n < 0 then '-' :: digitsOf n.natAbs else digitsOf n.natAbs

/-- This is how integers are shown. -/
theorem toList_toString (n : Int) : (toString n).toList = integerText n := by
  cases n with
  | ofNat k =>
      have hsign : ¬ Int.ofNat k < 0 := Int.not_lt.mpr (Int.natCast_nonneg k)
      rw [integerText, if_neg hsign]
      exact toList_toString_nat k
  | negSucc k =>
      have hsign : Int.negSucc k < 0 := by omega
      have hshown : toString (Int.negSucc k) = "-" ++ k.succ.repr := rfl
      rw [integerText, if_pos hsign, hshown, String.toList_append, Nat.toList_repr]
      rfl

theorem startsNumber_integerText (n : Int) : StartsNumber (integerText n) := by
  have hdigits := startsNumber_padZeros 0 n.natAbs []
  rw [List.append_nil, padZeros_zero] at hdigits
  unfold integerText
  by_cases hsign : n < 0
  · rw [if_pos hsign, startsNumber_cons]
    exact .inr (.inl rfl)
  · rw [if_neg hsign]
    exact hdigits

theorem endsInDigit_integerText (n : Int) : EndsInDigit (integerText n) := by
  have hdigits := endsInDigit_padZeros 0 n.natAbs
  rw [padZeros_zero] at hdigits
  unfold integerText
  by_cases hsign : n < 0
  · rw [if_pos hsign]
    exact hdigits.cons
  · rw [if_neg hsign]
    exact hdigits

/-- An integer of 64 bits is read back. -/
theorem readInt64?_integerText {n : Int} (hmin : Int.negOfNat (Nat.pow 2 63) ≤ n)
    (hmax : n < Int.ofNat (Nat.pow 2 63)) : readInt64? (integerText n) = some n := by
  have hread := readNat?_digitsOf n.natAbs
  have hbounds : Int.negOfNat (Nat.pow 2 63) ≤ n ∧ n < Int.ofNat (Nat.pow 2 63) := ⟨hmin, hmax⟩
  by_cases hsign : n < 0
  · have habs : -(n.natAbs : Int) = n := by omega
    rw [integerText, if_pos hsign, readInt64?, hread]
    simp only [Option.bind_eq_bind, Option.bind_some, Option.map_some, Option.pure_def, habs,
      if_pos hbounds]
  · have habs : Int.ofNat n.natAbs = n := Int.natAbs_of_nonneg (Int.not_lt.mp hsign)
    obtain ⟨d, ds, hds, hd⟩ :=
      (numeral_digitsOf n.natAbs).exists_eq_cons (digitsOf_ne_nil n.natAbs)
    rw [integerText, if_neg hsign, hds]
    rw [hds] at hread
    unfold readInt64?
    split
    · next heq =>
        cases heq
        cases hd
    · next heq =>
        cases heq
        cases hd
    · rw [hread, Option.map_some, habs, Option.bind_eq_bind, Option.bind_some]
      exact if_pos hbounds

end Placeholder.Number
