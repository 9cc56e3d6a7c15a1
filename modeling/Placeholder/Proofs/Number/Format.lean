import Placeholder.Number.Amount
import Placeholder.Proofs.Number.Digits

/-! # Amounts as they are written

The shape of a written amount: a sign, the digits before the point in groups of three, and the
digits behind the point (`format_lays_out_digits`).

Digits are settled before anything is laid out. They depend on the magnitude and the number of
decimals alone (`fixedParts_spec`), so a number and its negative have the same, and so have all
choices of separators. The groups are found from the right, although digits are written from the
left: a separator stands where a multiple of three digits is still to come (`exists_threes`).
-/

namespace Placeholder.Number

/-! ## Digits before and behind the point -/

/-- Digits that stand before a point: at least one, and none of them a superfluous zero. -/
structure IsWhole (cs : List Char) : Prop where
  digits : ∀ c ∈ cs, isDigit c = true
  ne_nil : cs ≠ []
  leading : cs = ['0'] ∨ cs.head? ≠ some '0'

/-- So many digits, as they stand behind a point. -/
structure IsFraction (decimals : Nat) (cs : List Char) : Prop where
  digits : ∀ c ∈ cs, isDigit c = true
  length : cs.length = decimals

/-- A number other than zero does not begin with a zero. -/
theorem head?_digitsOf {n : Nat} (h : 0 < n) : (digitsOf n).head? ≠ some '0' := by
  have hten : 1 < 10 := by omega
  induction n using Nat.strongRecOn with
  | ind n ih =>
      rw [digitsOf, Nat.toDigits_eq_if hten]
      by_cases hsmall : n < 10
      · have hdigit : ∀ k < 10, 0 < k → [Nat.digitChar k].head? ≠ some '0' := by decide
        rw [if_pos hsmall]
        exact hdigit n hsmall h
      · -- the first digit is that of the number without its last digit
        have hfront := ih (n / 10) (by omega) (by omega)
        rcases List.exists_cons_of_ne_nil (digitsOf_ne_nil (n / 10)) with ⟨d, ds, hds⟩
        rw [hds, List.head?_cons] at hfront
        rw [digitsOf] at hds
        rw [if_neg hsmall, hds, List.cons_append, List.head?_cons]
        exact hfront

/-- A magnitude with a number of decimals has digits before the point, so many digits behind it,
and all of them together write the units that it is rounded to. -/
theorem fixedParts_spec (x : Magnitude) (decimals : Nat) :
    IsWhole (x.fixedParts decimals).1 ∧ IsFraction decimals (x.fixedParts decimals).2 ∧
      digitsValue ((x.fixedParts decimals).1 ++ (x.fixedParts decimals).2) =
        roundHalfEven (x.numerator * Nat.pow 10 decimals) x.denominator := by
  unfold Magnitude.fixedParts
  dsimp only
  -- both parts are cut out of the digits of the units, padded to one more than the decimals
  generalize roundHalfEven (x.numerator * Nat.pow 10 decimals) x.denominator = units
  have hnumeral := numeral_padZeros (decimals + 1) units
  have hlength := le_length_padZeros (decimals + 1) (digitsOf units)
  rw [List.splitAt_eq]
  dsimp only
  refine ⟨⟨?_, ?_, ?_⟩, ⟨?_, ?_⟩, ?_⟩
  · intro c hc
    exact hnumeral.digits c (List.mem_of_mem_take hc)
  · apply List.ne_nil_of_length_pos
    rw [List.length_take]
    omega
  · by_cases hshort : (digitsOf units).length ≤ decimals + 1
    · -- one digit is left before the point
      have hone : (padZeros (decimals + 1) (digitsOf units)).length - decimals = 1 := by
        unfold padZeros
        rw [List.length_append, List.length_replicate]
        omega
      rw [hone]
      by_cases hzero : (padZeros (decimals + 1) (digitsOf units)).head? = some '0'
      · left
        rw [List.take_one, hzero]
        rfl
      · right
        rw [List.head?_take, if_neg (by omega)]
        exact hzero
    · have hnone : padZeros (decimals + 1) (digitsOf units) = digitsOf units := by
        rw [padZeros, Nat.sub_eq_zero_of_le (by omega), List.replicate_zero, List.nil_append]
      have hpos : 0 < units := by
        rcases Nat.eq_zero_or_pos units with rfl | hpos
        · exact absurd (Nat.succ_le_succ (Nat.zero_le decimals)) hshort
        · exact hpos
      right
      rw [hnone, List.head?_take, if_neg (by omega)]
      exact head?_digitsOf hpos
  · intro c hc
    exact hnumeral.digits c (List.mem_of_mem_drop hc)
  · rw [List.length_drop]
    omega
  · rw [List.take_append_drop]
    exact hnumeral.value

theorem isDigit_of_mem_parts {decimals : Nat} {whole fraction : List Char} (hwhole : IsWhole whole)
    (hfraction : IsFraction decimals fraction) : ∀ c ∈ whole ++ fraction, isDigit c = true := by
  intro c hc
  rcases List.mem_append.mp hc with hc | hc
  · exact hwhole.digits c hc
  · exact hfraction.digits c hc

/-- Zeros in front would make a shorter list as long, but there are none in front. -/
theorem length_le_of_digitsValue_eq {decimals : Nat} {whole whole' fraction fraction' : List Char}
    (hwhole : IsWhole whole) (hwhole' : IsWhole whole') (hfraction : IsFraction decimals fraction)
    (hfraction' : IsFraction decimals fraction')
    (h : digitsValue (whole ++ fraction) = digitsValue (whole' ++ fraction')) :
    whole.length ≤ whole'.length := by
  by_contra hlonger
  have hnumeral : Numeral (digitsValue (whole' ++ fraction')) (whole' ++ fraction') :=
    ⟨isDigit_of_mem_parts hwhole' hfraction', rfl⟩
  have hlonger' : (whole' ++ fraction').length < (whole ++ fraction).length := by
    rw [List.length_append, List.length_append, hfraction.length, hfraction'.length]
    omega
  have hpadded : whole ++ fraction = padZeros (whole ++ fraction).length (whole' ++ fraction') := by
    apply eq_of_digitsValue_eq (isDigit_of_mem_parts hwhole hfraction)
    · exact (hnumeral.padZeros _).digits
    · exact (length_padZeros hlonger'.le).symm
    · rw [h, (hnumeral.padZeros _).value]
  obtain ⟨k, hk⟩ : ∃ k, (whole ++ fraction).length - (whole' ++ fraction').length = k + 1 :=
    ⟨_, (Nat.succ_pred_eq_of_pos (Nat.sub_pos_of_lt hlonger')).symm⟩
  have hhead : whole.head? = some '0' := by
    rcases List.exists_cons_of_ne_nil hwhole.ne_nil with ⟨d, rest, rfl⟩
    rw [padZeros, hk, List.cons_append] at hpadded
    rw [List.head?_cons, (List.cons.inj hpadded).1]
  rcases hwhole.leading with rfl | hleading
  · have hpositive := List.length_pos_iff.mpr hwhole'.ne_nil
    rw [List.length_singleton] at hlonger
    omega
  · exact hleading hhead

/-- The digits before the point and so many digits behind it are determined by the number that they
write together. -/
theorem eq_of_digitsValue_parts {decimals : Nat} {whole whole' fraction fraction' : List Char}
    (hwhole : IsWhole whole) (hwhole' : IsWhole whole') (hfraction : IsFraction decimals fraction)
    (hfraction' : IsFraction decimals fraction')
    (h : digitsValue (whole ++ fraction) = digitsValue (whole' ++ fraction')) :
    whole = whole' ∧ fraction = fraction' := by
  have hlength : whole.length = whole'.length :=
    Nat.le_antisymm (length_le_of_digitsValue_eq hwhole hwhole' hfraction hfraction' h)
      (length_le_of_digitsValue_eq hwhole' hwhole hfraction' hfraction h.symm)
  apply List.append_inj _ hlength
  apply eq_of_digitsValue_eq (isDigit_of_mem_parts hwhole hfraction)
    (isDigit_of_mem_parts hwhole' hfraction') _ h
  rw [List.length_append, List.length_append, hlength, hfraction.length, hfraction'.length]

/-- Among digits, one that is not zero is one from `1` to `9`. -/
theorem hasNonZero_iff {cs : List Char} (h : ∀ c ∈ cs, isDigit c = true) :
    hasNonZero cs = true ↔ ∃ c ∈ cs, c ≠ '0' := by
  have hdigit : ∀ c, isDigit c = true →
      ((decide ('1'.toNat ≤ c.toNat) && decide (c.toNat ≤ '9'.toNat)) = true ↔ c ≠ '0') := by
    intro c hc
    have hbounds : 48 ≤ c.toNat ∧ c.toNat ≤ 57 := by simpa [isDigit] using hc
    have hzero : c = '0' ↔ c.toNat = 48 := by
      constructor
      · rintro rfl
        rfl
      · intro hval
        exact Char.toNat_inj.mp hval
    have hone : '1'.toNat = 49 := rfl
    have hnine : '9'.toNat = 57 := rfl
    rw [Bool.and_eq_true, decide_eq_true_eq, decide_eq_true_eq, Ne, hzero, hone, hnine]
    omega
  rw [hasNonZero, List.any_eq_true]
  constructor
  · rintro ⟨c, hc, hrange⟩
    exact ⟨c, hc, (hdigit c (h c hc)).mp hrange⟩
  · rintro ⟨c, hc, hne⟩
    exact ⟨c, hc, (hdigit c (h c hc)).mpr hne⟩

/-! ## Groups of three -/

/-- A list cut from the right into groups of three: only the first group may be shorter, and it is
not empty. -/
structure Threes (cs : List Char) (groups : List (List Char)) : Prop where
  joined : groups.flatten = cs
  cut : ∃ first others, groups = first :: others ∧ (1 ≤ first.length ∧ first.length ≤ 3) ∧
    ∀ other ∈ others, other.length = 3

theorem length_flatten_of_threes {others : List (List Char)}
    (h : ∀ other ∈ others, other.length = 3) : others.flatten.length % 3 = 0 := by
  induction others with
  | nil => rfl
  | cons other others ih =>
      have hother := h other List.mem_cons_self
      have hrest := ih fun next hnext => h next (List.mem_cons_of_mem other hnext)
      rw [List.flatten_cons, List.length_append]
      omega

/-- Grouping puts the separator between the groups of three, whatever it is. -/
theorem exists_threes {cs : List Char} (h : cs ≠ []) :
    ∃ groups, Threes cs groups ∧ ∀ separator, group separator cs = separator.intercalate groups := by
  -- the groups of the digits that follow are there already, whether a new one begins depends on
  -- how many digits they hold
  induction cs with
  | nil => exact absurd rfl h
  | cons d rest ih =>
      by_cases hlast : rest = []
      · refine ⟨[[d]], ⟨?_, [d], [], rfl, ?_, ?_⟩, ?_⟩
        · rw [hlast]
          rfl
        · rw [List.length_singleton]
          omega
        · intro other hother
          exact absurd hother List.not_mem_nil
        · intro separator
          rw [hlast, List.intercalate_singleton]
          rfl
      · rcases ih hlast with ⟨groups, ⟨hjoined, first, others, rfl, hfirst, hothers⟩, hgroup⟩
        have hempty : ¬ rest.isEmpty = true := by
          rw [List.isEmpty_iff]
          exact hlast
        have hsum : first.length + others.flatten.length = rest.length := by
          rw [← List.length_append, ← List.flatten_cons, hjoined]
        have hwhole := length_flatten_of_threes hothers
        by_cases hthree : rest.length % 3 = 0
        · -- the groups are full, so a new one begins
          refine ⟨[d] :: first :: others, ⟨?_, [d], first :: others, rfl, ?_, ?_⟩, ?_⟩
          · rw [List.flatten_cons, hjoined]
            rfl
          · rw [List.length_singleton]
            omega
          · intro other hother
            rcases List.mem_cons.mp hother with rfl | hother
            · omega
            · exact hothers other hother
          · intro separator
            rw [group, if_neg hempty, if_pos hthree, hgroup, List.intercalate_cons_cons]
            rfl
        · -- there is room in the first group
          refine ⟨(d :: first) :: others, ⟨?_, d :: first, others, rfl, ?_, hothers⟩, ?_⟩
          · rw [← hjoined, List.flatten_cons, List.flatten_cons, List.cons_append]
          · rw [List.length_cons]
            omega
          · intro separator
            rw [group, if_neg hempty, if_neg hthree, hgroup]
            cases others with
            | nil => rw [List.intercalate_singleton, List.intercalate_singleton]
            | cons other others =>
                rw [List.intercalate_cons_cons, List.intercalate_cons_cons]
                rfl

/-- Behind a digit comes the separator or nothing. -/
theorem group_cons (separator : List Char) (d : Char) (rest : List Char) :
    ∃ between, (between = [] ∨ between = separator) ∧
      group separator (d :: rest) = d :: (between ++ group separator rest) := by
  rw [group]
  by_cases hlast : rest.isEmpty = true
  · rw [if_pos hlast, List.isEmpty_iff.mp hlast]
    exact ⟨[], .inl rfl, rfl⟩
  · by_cases hthree : rest.length % 3 = 0
    · rw [if_neg hlast, if_pos hthree]
      exact ⟨separator, .inr rfl, rfl⟩
    · rw [if_neg hlast, if_neg hthree]
      exact ⟨[], .inl rfl, rfl⟩

/-- Without a separator grouping changes nothing. -/
theorem group_nil (cs : List Char) : group [] cs = cs := by
  induction cs with
  | nil => rfl
  | cons d rest ih =>
      rcases group_cons [] d rest with ⟨between, hbetween, hgroup⟩
      have hnone : between = [] := hbetween.elim id id
      rw [hgroup, hnone, List.nil_append, ih]

/-! ## The whole text -/

/-- The sign of a number in front of digits: a minus sign if the number is less than zero and not
all of the digits are zeros. -/
def signOf (x : Binary64) (digits : List Char) : List Char :=
  if x.isNegative && digits.any (· != '0') then ['-'] else []

/-- What follows the digits before the point. -/
def tailOf (decimals : Nat) (point : String) (fraction : List Char) : List Char :=
  if decimals = 0 then [] else point.toList ++ fraction

theorem signOf_eq {x : Binary64} {digits : List Char} (h : ∀ c ∈ digits, isDigit c = true) :
    signOf x digits = if (x.isNegative && hasNonZero digits) = true then ['-'] else [] := by
  have hany : digits.any (· != '0') = hasNonZero digits := by
    rw [Bool.eq_iff_iff, List.any_eq_true, hasNonZero_iff h]
    simp only [bne_iff_ne]
  rw [signOf, hany]

theorem isDigit_of_mem_fixedParts (x : Magnitude) (decimals : Nat) :
    ∀ c ∈ (x.fixedParts decimals).1 ++ (x.fixedParts decimals).2, isDigit c = true := by
  obtain ⟨hwhole, hfraction, -⟩ := fixedParts_spec x decimals
  exact isDigit_of_mem_parts hwhole hfraction

/-- A number that can be rounded is written as its sign and, behind it, the rounded magnitude. -/
theorem format_of_roundTo? {magnitude rounded : Magnitude} {decimals : Nat}
    (h : roundTo? magnitude decimals = some rounded) (negative : Bool) (point separator : String) :
    format (.finite negative magnitude) decimals point separator =
      .ok (String.ofList
        (signOf (.finite negative magnitude)
            ((rounded.fixedParts decimals).1 ++ (rounded.fixedParts decimals).2) ++
          group separator.toList (rounded.fixedParts decimals).1 ++
          tailOf decimals point (rounded.fixedParts decimals).2)) := by
  unfold format
  dsimp only
  rw [h, signOf_eq (isDigit_of_mem_fixedParts rounded decimals)]
  rfl

/-- A number that cannot be rounded is not written, with either sign. -/
theorem format_of_not_roundTo? {magnitude : Magnitude} {decimals : Nat}
    (h : roundTo? magnitude decimals = none) (negative : Bool) (point separator : String) :
    ∃ reason,
      format (.finite negative magnitude) decimals point separator = .error (.unwritable reason) := by
  unfold format
  dsimp only
  rw [h]
  exact ⟨_, rfl⟩

/-- **An amount is its digits, laid out.** A magnitude and a number of decimals settle whether an
amount can be written, and with which digits: some before the point, without superfluous zeros,
and as many behind it as there are decimals. The digits before the point stand in groups of three
from the right with the separator between them, those behind it follow the decimal point, and a
minus sign comes first exactly if the number is less than zero and some digit is not a zero. So
the separator, if it is empty, leaves the digits as they are, and a number and its negative differ
by the sign at most. -/
theorem format_lays_out_digits (magnitude : Magnitude) (decimals : Nat) :
    (∀ negative point separator, ∃ reason,
      format (.finite negative magnitude) decimals point separator =
        .error (.unwritable reason)) ∨
    ∃ whole fraction groups, IsWhole whole ∧ IsFraction decimals fraction ∧ Threes whole groups ∧
      (∀ negative point separator,
        format (.finite negative magnitude) decimals point separator =
          .ok (String.ofList
            (signOf (.finite negative magnitude) (whole ++ fraction) ++
              separator.toList.intercalate groups ++ tailOf decimals point fraction))) ∧
      (∀ negative point,
        format (.finite negative magnitude) decimals point "" =
          .ok (String.ofList
            (signOf (.finite negative magnitude) (whole ++ fraction) ++
              whole ++ tailOf decimals point fraction))) ∧
      ∀ point separator, ∃ unsigned, ∀ negative, ∃ sign ∈ ["", "-"],
        format (.finite negative magnitude) decimals point separator = .ok (sign ++ unsigned) := by
  -- the sign does not take part in rounding, so one case split serves both signs
  cases hrounded : roundTo? magnitude decimals with
  | none =>
      left
      intro negative point separator
      exact format_of_not_roundTo? hrounded negative point separator
  | some rounded =>
      obtain ⟨hwhole, hfraction, -⟩ := fixedParts_spec rounded decimals
      have hformat := format_of_roundTo? hrounded
      rcases exists_threes hwhole.ne_nil with ⟨groups, hgroups, hgroup⟩
      right
      refine ⟨(rounded.fixedParts decimals).1, (rounded.fixedParts decimals).2, groups, hwhole,
        hfraction, hgroups, ?_, ?_, ?_⟩
      · intro negative point separator
        rw [hformat, hgroup]
      · intro negative point
        rw [hformat, show "".toList = [] from rfl, group_nil]
      · intro point separator
        refine ⟨String.ofList (separator.toList.intercalate groups ++
          tailOf decimals point (rounded.fixedParts decimals).2), ?_⟩
        intro negative
        rw [hformat, hgroup, List.append_assoc, String.ofList_append]
        unfold signOf
        split
        · exact ⟨"-", by decide, rfl⟩
        · exact ⟨"", by decide, rfl⟩

/-- What is rounded to zero has no sign. -/
example : (do format (← parse "-0.004") 2 "." ",") = Except.ok "0.00" := by decide +kernel

end Placeholder.Number
