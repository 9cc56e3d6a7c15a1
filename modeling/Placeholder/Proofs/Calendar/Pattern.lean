import Placeholder.Calendar.Writer
import Placeholder.Processor.Builtin

/-! # Which patterns can be written

A pattern that can be read is a list of items, and a moment is written item by item. All
items can be written for every moment but one: the directive `%#z` names a form of the
offset that is only ever read.

So there is a gap between the patterns that are valid and those that write something. It is
described in terms of the text of the pattern: `Pattern.AsksLenientOffset` says that `%#z`
stands behind a part that is a pattern by itself, so that its `%` does begin a directive.

* `readDirective?_local`: a directive is read from its own characters, whatever follows.
* `itemsFrom?_append`: a pattern may be cut behind every directive.
* `lenientOffset_mem_iff`: the items hold the unwritable one exactly when the text asks for it.
* `format_succeeds_iff_writable`: what can be written.
-/

namespace Placeholder

namespace Pattern

/-! ## Directives -/

/-- A pattern with the directive `%#z`: the part in front of it is a pattern itself. -/
def AsksLenientOffset (p : String) : Prop :=
  ∃ front back, p.toList = front ++ ['%', '#', 'z'] ++ back ∧ (itemsFrom? front).isSome

theorem padded?_local {padding : Padding} {cs rest : List Char} {items : List Item}
    (h : padded? padding cs = some (items, rest)) :
    ∃ used, cs = used ++ rest ∧ .text .lenientOffset ∉ items ∧
      ∀ more, padded? padding (used ++ more) = some (items, more) := by
  unfold padded? at h
  split at h
  · next c tail =>
      rcases Option.map_eq_some_iff.mp h with ⟨⟨field, own⟩, hfield, heq⟩
      obtain ⟨rfl, rfl⟩ := by simpa using heq
      refine ⟨[c], rfl, by simp, ?_⟩
      intro more
      simp [padded?, hfield]
  · cases h

/-- The digits of a fraction are three, six or nine. -/
theorem fractionDigits?_eq_some {point : Bool} {cs rest : List Char} {items : List Item}
    (h : fractionDigits? point cs = some (items, rest)) :
    ∃ digit, (digit = '3' ∨ digit = '6' ∨ digit = '9') ∧ cs = digit :: 'f' :: rest ∧
      .text .lenientOffset ∉ items ∧
      ∀ more, fractionDigits? point (digit :: 'f' :: more) = some (items, more) := by
  unfold fractionDigits? at h
  split at h
  · obtain ⟨rfl, rfl⟩ := by simpa using h
    exact ⟨'3', .inl rfl, rfl, by simp, fun _ => rfl⟩
  · obtain ⟨rfl, rfl⟩ := by simpa using h
    exact ⟨'6', .inr (.inl rfl), rfl, by simp, fun _ => rfl⟩
  · obtain ⟨rfl, rfl⟩ := by simpa using h
    exact ⟨'9', .inr (.inr rfl), rfl, by simp, fun _ => rfl⟩
  · cases h

/-- The characters that begin a directive of more than one letter. -/
def isLead (c : Char) : Bool := ['-', '0', '_', '#', ':', '.'].contains c

theorem readDirective?_of_not_lead {c : Char} (hc : isLead c = false) (cs : List Char) :
    readDirective? (c :: cs) =
      match numberDirective? c, textDirective? c with
      | some (field, padding), _ => some ([.number field padding], cs)
      | none, some items => some (items, cs)
      | none, none => fractionDigits? false (c :: cs) := by
  unfold readDirective?
  split
  case h_10 heq =>
    cases heq
    rfl
  case h_11 heq => cases heq
  all_goals
    next heq =>
      cases heq
      simp [isLead] at hc

theorem lenientOffset_not_mem_textDirective? {c : Char} {items : List Item}
    (h : textDirective? c = some items) : .text .lenientOffset ∉ items := by
  unfold textDirective? at h
  split at h
  all_goals cases h
  all_goals decide

theorem readDirective?_local {cs rest : List Char} {items : List Item}
    (h : readDirective? cs = some (items, rest)) :
    ∃ used, cs = used ++ rest ∧ (.text .lenientOffset ∈ items ↔ used = ['#', 'z']) ∧
      ∀ more, readDirective? (used ++ more) = some (items, more) := by
  unfold readDirective? at h
  split at h
  · rcases padded?_local h with ⟨used, rfl, hitems, hmore⟩
    exact ⟨'-' :: used, rfl, by simp [hitems], hmore⟩
  · rcases padded?_local h with ⟨used, rfl, hitems, hmore⟩
    exact ⟨'0' :: used, rfl, by simp [hitems], hmore⟩
  · rcases padded?_local h with ⟨used, rfl, hitems, hmore⟩
    exact ⟨'_' :: used, rfl, by simp [hitems], hmore⟩
  · obtain ⟨rfl, rfl⟩ := by simpa using h
    exact ⟨['#', 'z'], rfl, by simp, fun _ => rfl⟩
  · obtain ⟨rfl, rfl⟩ := by simpa using h
    exact ⟨[':', ':', ':', 'z'], rfl, by simp, fun _ => rfl⟩
  · obtain ⟨rfl, rfl⟩ := by simpa using h
    exact ⟨[':', ':', 'z'], rfl, by simp, fun _ => rfl⟩
  · obtain ⟨rfl, rfl⟩ := by simpa using h
    exact ⟨[':', 'z'], rfl, by simp, fun _ => rfl⟩
  · obtain ⟨rfl, rfl⟩ := by simpa using h
    exact ⟨['.', 'f'], rfl, by simp, fun _ => rfl⟩
  · rcases fractionDigits?_eq_some h with ⟨digit, hdigit, rfl, hitems, hmore⟩
    refine ⟨['.', digit, 'f'], rfl, by simp [hitems], ?_⟩
    intro more
    -- the digit is no `f`, so this is not the directive for the whole fraction
    rcases hdigit with rfl | rfl | rfl
    all_goals exact hmore more
  · next c tail hminus hzero hblank _ _ _ _ _ hpoint =>
    have hlead : isLead c = false := by
      apply Bool.eq_false_iff.mpr
      intro hc
      have hc : c = '-' ∨ c = '0' ∨ c = '_' ∨ c = '#' ∨ c = ':' ∨ c = '.' := by
        simpa [isLead] using hc
      rcases hc with hc | hc | hc | rfl | rfl | hc
      · exact hminus hc
      · exact hzero hc
      · exact hblank hc
      · cases h
      · cases h
      · exact hpoint hc
    split at h
    · next field padding hfield =>
      obtain ⟨rfl, rfl⟩ := by simpa using h
      refine ⟨[c], rfl, by simp, ?_⟩
      intro more
      rw [List.singleton_append, readDirective?_of_not_lead hlead, hfield]
    · next items hfield htext =>
      obtain ⟨rfl, rfl⟩ := by simpa using h
      refine ⟨[c], rfl, by simp [lenientOffset_not_mem_textDirective? htext], ?_⟩
      intro more
      rw [List.singleton_append, readDirective?_of_not_lead hlead, hfield, htext]
    · next hfield htext =>
      rcases fractionDigits?_eq_some h with ⟨digit, hdigit, heq, hitems, hmore⟩
      cases heq
      refine ⟨[c, 'f'], rfl, by simp [hitems], ?_⟩
      intro more
      rcases hdigit with rfl | rfl | rfl
      all_goals exact hmore more
  · cases h

/-! ## Patterns -/

theorem itemsFrom?_nil : itemsFrom? [] = some [] := by
  rw [itemsFrom?]

theorem itemsFrom?_directive (cs : List Char) :
    itemsFrom? ('%' :: cs) =
      (readDirective? cs).bind fun read => (itemsFrom? read.2).map (read.1 ++ ·) := by
  rw [itemsFrom?]
  split
  · next heq => rw [heq]; rfl
  · next heq => rw [heq]; rfl

theorem itemsFrom?_char {c : Char} (hc : c ≠ '%') (cs : List Char) :
    itemsFrom? (c :: cs) = (itemsFrom? cs).map (.char c :: ·) := by
  rw [itemsFrom?]
  exact hc

/-- A pattern may be cut behind every directive: what stands there is read by itself. -/
theorem itemsFrom?_append {front : List Char} {items : List Item}
    (h : itemsFrom? front = some items) (back : List Char) :
    itemsFrom? (front ++ back) = (itemsFrom? back).map (items ++ ·) := by
  induction front using itemsFrom?.induct generalizing items with
  | case1 =>
      rw [itemsFrom?_nil] at h
      cases h
      simp
  | case2 cs these rest hread ih =>
      rcases readDirective?_local hread with ⟨used, rfl, -, hmore⟩
      rw [itemsFrom?_directive, hread] at h
      rcases Option.map_eq_some_iff.mp h with ⟨later, hlater, rfl⟩
      rw [List.cons_append, List.append_assoc, itemsFrom?_directive, hmore, Option.bind_some,
        ih hlater, Option.map_map]
      exact congrArg (Option.map · _) (funext fun more => (List.append_assoc these later more).symm)
  | case3 cs hread =>
      rw [itemsFrom?_directive, hread] at h
      cases h
  | case4 c cs hc ih =>
      rw [itemsFrom?_char hc] at h
      rcases Option.map_eq_some_iff.mp h with ⟨later, hlater, rfl⟩
      rw [List.cons_append, itemsFrom?_char hc, ih hlater, Option.map_map]
      rfl

/-- An unwritable item comes from its directive, and the part in front of the directive is
a pattern. -/
theorem exists_front_of_lenientOffset {cs : List Char} {items : List Item}
    (h : itemsFrom? cs = some items) (hmem : .text .lenientOffset ∈ items) :
    ∃ front back, cs = front ++ ['%', '#', 'z'] ++ back ∧ (itemsFrom? front).isSome := by
  -- along the reading of the pattern: a directive or a character, and the rest
  induction cs using itemsFrom?.induct generalizing items with
  | case1 =>
      rw [itemsFrom?_nil] at h
      cases h
      cases hmem
  | case2 cs these rest hread ih =>
      rcases readDirective?_local hread with ⟨used, rfl, hlenient, hmore⟩
      rw [itemsFrom?_directive, hread] at h
      rcases Option.map_eq_some_iff.mp h with ⟨later, hlater, rfl⟩
      rcases List.mem_append.mp hmem with hhere | hthere
      · -- this is the directive, and nothing stands in front of it
        have hused : used = ['#', 'z'] := hlenient.mp hhere
        refine ⟨[], rest, by rw [hused]; rfl, ?_⟩
        rw [itemsFrom?_nil]
        rfl
      · -- this directive is written, and stands in front of the one that is not
        rcases ih hlater hthere with ⟨front, back, rfl, hfront⟩
        refine ⟨'%' :: (used ++ front), back, by simp, ?_⟩
        rw [itemsFrom?_directive, hmore, Option.bind_some, Option.isSome_map]
        exact hfront
  | case3 cs hread =>
      rw [itemsFrom?_directive, hread] at h
      cases h
  | case4 c cs hc ih =>
      rw [itemsFrom?_char hc] at h
      rcases Option.map_eq_some_iff.mp h with ⟨later, hlater, rfl⟩
      have hthere : .text .lenientOffset ∈ later := by simpa using hmem
      rcases ih hlater hthere with ⟨front, back, rfl, hfront⟩
      refine ⟨c :: front, back, rfl, ?_⟩
      rw [itemsFrom?_char hc, Option.isSome_map]
      exact hfront

/-- The items of a pattern hold the unwritable one exactly when the text asks for it. -/
theorem lenientOffset_mem_iff {p : String} {items : List Item} (h : items? p = some items) :
    .text .lenientOffset ∈ items ↔ AsksLenientOffset p := by
  constructor
  · intro hmem
    exact exists_front_of_lenientOffset h hmem
  · rintro ⟨front, back, hp, hfront⟩
    rcases Option.isSome_iff_exists.mp hfront with ⟨before, hbefore⟩
    have hback : items? p =
        (itemsFrom? (['%', '#', 'z'] ++ back)).map (before ++ ·) := by
      rw [items?, hp, List.append_assoc, itemsFrom?_append hbefore]
    have hdirective : itemsFrom? (['%', '#', 'z'] ++ back) =
        (itemsFrom? back).map ([.text .lenientOffset] ++ ·) := itemsFrom?_directive _
    rw [h, hdirective, Option.map_map] at hback
    rcases Option.map_eq_some_iff.mp hback.symm with ⟨behind, -, rfl⟩
    simp

end Pattern

/-! ## Writing -/

/-- One directive alone cannot be written. -/
theorem Item.write?_isSome_iff (item : Item) (m : Moment) :
    (item.write? m).isSome ↔ item ≠ .text .lenientOffset := by
  cases item with
  | char c => simp [Item.write?]
  | number field padding => simp [Item.write?]
  | text field => cases field <;> simp [Item.write?, TextField.write?]

theorem writeItems?_isSome_iff (items : List Item) (m : Moment) :
    (writeItems? items m).isSome ↔ .text .lenientOffset ∉ items := by
  induction items with
  | nil => simp [writeItems?]
  | cons item items ih =>
      have hstep : (writeItems? (item :: items) m).isSome ↔
          (item.write? m).isSome ∧ (writeItems? items m).isSome := by
        rw [writeItems?]
        cases item.write? m <;> cases writeItems? items m <;> simp
      rw [hstep, Item.write?_isSome_iff, ih]
      simp [eq_comm]

namespace Moment

/-- A pattern that cannot be written fails under its own text. -/
theorem format_eq_error {m : Moment} {p : String} {e : Processor.Error}
    (h : m.format p = .error e) : e = .badPattern p := by
  unfold format at h
  split at h
  · cases h
  · cases h
    rfl

/-- A moment is written by the patterns that are valid and do not ask for the offset that
is only read. -/
theorem format_isOk_iff (m : Moment) (p : String) :
    (∃ text, m.format p = .ok text) ↔
      Pattern.isValid p = true ∧ ¬ Pattern.AsksLenientOffset p := by
  have hformat : (∃ text, m.format p = .ok text) ↔
      ((Pattern.items? p).bind fun items => writeItems? items m).isSome := by
    unfold format
    split
    · next heq => simp [heq]
    · next heq => simp [heq]
  rw [hformat]
  unfold Pattern.isValid
  cases hitems : Pattern.items? p with
  | none => simp
  | some items =>
      rw [Option.bind_some, writeItems?_isSome_iff, Pattern.lenientOffset_mem_iff hitems]
      simp

/-- By a valid pattern a moment fails to be written exactly when the pattern asks for the
offset that is only read. -/
theorem format_eq_badPattern_iff {p : String} (hp : Pattern.isValid p = true) (m : Moment) :
    (∃ q, m.format p = .error (.badPattern q)) ↔ Pattern.AsksLenientOffset p := by
  have hok := format_isOk_iff m p
  cases hformat : m.format p with
  | ok text =>
      have hwritable := hok.mp ⟨text, hformat⟩
      simp [hwritable.2]
  | error e =>
      have hasks : Pattern.AsksLenientOffset p := by
        apply Classical.byContradiction
        intro hno
        rcases hok.mpr ⟨hp, hno⟩ with ⟨text, htext⟩
        rw [hformat] at htext
        cases htext
      simp [format_eq_error hformat, hasks]

end Moment

/-! ## Settings -/

/-- A configuration that was checked has a valid pattern. -/
theorem Config.isValid_of_validate {c c' : Config} (h : c.validate = .ok c') :
    Pattern.isValid c.date.pattern = true := by
  unfold Config.validate at h
  split at h
  · cases h
  · next hproblem =>
      unfold Config.problem? at hproblem
      split at hproblem
      · cases hproblem
      · split at hproblem
        · cases hproblem
        · next hvalid => simpa using hvalid

/-- Without arguments a date is written by the pattern of the settings. -/
theorem Builtin.runDate_none_eq_badPattern_iff (defaults : DateDefaults) (now : Moment)
    (value q : String) :
    Builtin.runDate defaults now value none = .error (.badPattern q) ↔
      ∃ m, Moment.parse now value = .ok m ∧ m.format defaults.pattern = .error (.badPattern q) := by
  have hpattern : (Builtin.filledArgument? none 0).getD defaults.pattern = defaults.pattern := rfl
  unfold Builtin.runDate
  rw [hpattern]
  cases hparse : Moment.parse now value with
  | ok m => simp [bind, Except.bind]
  | error e =>
      -- a value that is no date fails before the pattern is looked at
      have hunread : e = .unreadableDate (Text.trim value) := by
        unfold Moment.parse at hparse
        split at hparse
        · cases hparse
        · cases hparse
          rfl
      simp [bind, Except.bind, hunread]

/-- A configuration in which nothing is wrong passes the check. -/
theorem Config.validate_of_problem? {c : Config} (h : c.problem? = none) : c.validate = .ok c := by
  rw [Config.validate, h]

namespace Moment

/-- **A valid pattern can be written unless it asks for the offset that is only read.** A
moment is written by a pattern exactly when the pattern is valid and does not have the
directive `%#z`. So with settings that were checked the processor `date` fails on its
own pattern in one case only: the value is a date, and the pattern has this directive. -/
theorem format_succeeds_iff_writable (m : Moment) (p : String) (now : Moment) (value : String) :
    ((∃ text, m.format p = .ok text) ↔
      Pattern.isValid p = true ∧ ¬ Pattern.AsksLenientOffset p) ∧
    ∀ c : Config, c.validate = .ok c →
      ((∃ q, Builtin.runDate c.date now value none = .error (.badPattern q)) ↔
        (∃ m, parse now value = .ok m) ∧ Pattern.AsksLenientOffset c.date.pattern) := by
  refine ⟨format_isOk_iff m p, ?_⟩
  intro c hc
  have hvalid : Pattern.isValid c.date.pattern = true := Config.isValid_of_validate hc
  have hfails := format_eq_badPattern_iff hvalid
  constructor
  · rintro ⟨q, hq⟩
    rcases (Builtin.runDate_none_eq_badPattern_iff c.date now value q).mp hq with ⟨m, hm, hformat⟩
    exact ⟨⟨m, hm⟩, (hfails m).mp ⟨q, hformat⟩⟩
  · rintro ⟨⟨m, hm⟩, hasks⟩
    rcases (hfails m).mpr hasks with ⟨q, hformat⟩
    exact ⟨q, (Builtin.runDate_none_eq_badPattern_iff c.date now value q).mpr ⟨m, hm, hformat⟩⟩

/-- In the pattern `%%#z` the directive `%%` ends before the `#`, so the pattern can be
written. -/
theorem format_succeeds_iff_writable_percent :
    let c : Config := { date := { pattern := "%%#z" } }
    c.validate = .ok c ∧ ∀ now value q, Builtin.runDate c.date now value none ≠
      .error (.badPattern q) := by
  intro c
  have hc : c.validate = .ok c := Config.validate_of_problem? (by decide +kernel)
  refine ⟨hc, ?_⟩
  intro now value q hq
  have hfails := (format_succeeds_iff_writable now "%%#z" now value).2 c hc
  have hasks := (hfails.mp ⟨q, hq⟩).2
  have hitems : Pattern.items? "%%#z" = some [.char '%', .char '#', .char 'z'] := by
    decide +kernel
  have hmem := (Pattern.lenientOffset_mem_iff hitems).mpr hasks
  simp at hmem

/-- The directive `%#z` is valid and passes the check of the settings, but no moment can be
written by it, and with it the processor `date` fails on a date. -/
theorem lenient_offset_passes_but_fails :
    let c : Config := { date := { pattern := "%#z" } }
    Pattern.isValid "%#z" = true ∧ c.validate = .ok c ∧
      (∀ m : Moment, m.format "%#z" = .error (.badPattern "%#z")) ∧
      Builtin.runDate c.date ⟨0, 0, 0⟩ "2024-03-05" none = .error (.badPattern "%#z") := by
  intro c
  have hitems : Pattern.items? "%#z" = some [.text .lenientOffset] := by decide +kernel
  have hfails : ∀ m : Moment, m.format "%#z" = .error (.badPattern "%#z") := by
    intro m
    unfold format
    rw [hitems]
    rfl
  have hread : readWith? ⟨0, 0, 0⟩ (Text.trimList "2024-03-05".toList) =
      some ⟨1709596800, 0, 0⟩ := by decide +kernel
  have hparse : parse ⟨0, 0, 0⟩ "2024-03-05" = .ok ⟨1709596800, 0, 0⟩ := by
    rw [parse, hread]
  refine ⟨by decide +kernel, Config.validate_of_problem? (by decide +kernel), hfails, ?_⟩
  exact (Builtin.runDate_none_eq_badPattern_iff c.date ⟨0, 0, 0⟩ "2024-03-05" "%#z").mpr
    ⟨_, hparse, hfails _⟩

end Moment

end Placeholder
