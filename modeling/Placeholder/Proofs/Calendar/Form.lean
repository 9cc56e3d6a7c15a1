import Placeholder.Proofs.Calendar.Apart

/-! # The forms of a moment

The ten written forms, and that no text is in two of them (`Form.eq_of_accepts`). So they can be tried
in any order (`parse_eq_of_order`), and a new form that is apart from the others changes the meaning
of no text that has one already.

To be in a form and to name a moment are different for one form: an integer of 64 bits is in the
form of seconds whether or not its year can be told. Nothing else is tried on it then.
-/

namespace Placeholder

open Number Text

namespace Moment

/-! ## Forms -/

/-- A written form of a moment. -/
inductive Form where
  | internet
  | mail
  | layout (pieces : List Piece)
  | seconds
deriving DecidableEq, Repr

namespace Form

/-- All forms, in the order in which they are tried. -/
def all : List Form := [.internet, .mail] ++ layouts.map .layout ++ [.seconds]

example : all.length = 10 := by decide

/-- What a text in a form names. Seconds outside the years that can be told are in their form and
name no moment. -/
def read? : Form → List Char → Option (Option Moment)
  | .internet, cs => (readInternet? cs).map some
  | .mail, cs => (readMail? cs).map some
  | .layout pieces, cs => (readLayout? pieces cs).map some
  | .seconds, cs => (readInt64? cs).map ofSeconds?

/-- Whether a text is in a form. -/
def Accepts (form : Form) (cs : List Char) : Prop := (form.read? cs).isSome = true

instance (form : Form) (cs : List Char) : Decidable (form.Accepts cs) :=
  inferInstanceAs (Decidable (_ = true))

variable {cs : List Char}

theorem accepts_internet (h : internet.Accepts cs) : ∃ m, readInternet? cs = some m := by
  rw [Accepts, read?, Option.isSome_map] at h
  exact Option.isSome_iff_exists.mp h

theorem accepts_mail (h : mail.Accepts cs) : ∃ m, readMail? cs = some m := by
  rw [Accepts, read?, Option.isSome_map] at h
  exact Option.isSome_iff_exists.mp h

theorem accepts_seconds (h : seconds.Accepts cs) : ∃ n, readInt64? cs = some n := by
  rw [Accepts, read?, Option.isSome_map] at h
  exact Option.isSome_iff_exists.mp h

theorem accepts_layout {pieces : List Piece} (h : (layout pieces).Accepts cs) :
    skipPieces? pieces cs = some [] := by
  rw [Accepts, read?, Option.isSome_map] at h
  obtain ⟨m, hread⟩ := Option.isSome_iff_exists.mp h
  obtain ⟨parts, hparts, -⟩ := Option.bind_eq_some_iff.mp hread
  exact skipPieces?_of_readPieces? hparts

/-- A text in a layout has the separator of the layout. -/
theorem accepts_layout_separator {pieces : List Piece} (hmem : pieces ∈ layouts)
    (h : (layout pieces).Accepts cs) :
    separator? cs = separatorOf pieces ∧ ∃ c ∈ dateMarks, separatorOf pieces = some c := by
  rcases separatorOf_layouts hmem with ⟨c, hc, hseparator⟩
  have hdigit := (isDigit_and_isBlank_of_mem_dateMarks hc).1
  refine ⟨?_, c, hc, hseparator⟩
  rw [hseparator]
  exact separator?_of_skipPieces? hseparator hdigit (accepts_layout h)

theorem not_accepts_internet_layout {pieces : List Piece} (hmem : pieces ∈ layouts)
    (hinternet : internet.Accepts cs) : ¬ (layout pieces).Accepts cs := by
  intro hlayout
  obtain ⟨m, hread⟩ := accepts_internet hinternet
  have hwhole := accepts_layout hlayout
  have hdash := separator?_of_readInternet? hread
  rw [(accepts_layout_separator hmem hlayout).1] at hdash
  obtain ⟨mark, hmark, rest, hrest, hskip⟩ := skipPieces?_of_readInternet? hread
  rcases divides_internet pieces hmem mark hmark with hother | rfl | hdivides
  · exact hother hdash
  · -- the same pieces leave the same
    rw [hwhole] at hskip
    exact hrest (Option.some.inj hskip).symm
  · rw [skipPieces?_eq_none_of_divides hdivides hwhole] at hskip
    cases hskip

theorem not_accepts_two_layouts {pieces others : List Piece} (hpieces : pieces ∈ layouts)
    (hothers : others ∈ layouts)
    (hapart : separatorOf pieces ≠ separatorOf others ∨ divides pieces others = true ∨
      divides others pieces = true)
    (hform : (layout pieces).Accepts cs) : ¬ (layout others).Accepts cs := by
  intro hother
  have hwhole := accepts_layout hform
  have hwhole' := accepts_layout hother
  rcases hapart with hseparator | hdivides | hdivides
  · have hseparators := (accepts_layout_separator hpieces hform).1
    rw [(accepts_layout_separator hothers hother).1] at hseparators
    exact hseparator hseparators.symm
  · rw [skipPieces?_eq_none_of_divides hdivides hwhole] at hwhole'
    cases hwhole'
  · rw [skipPieces?_eq_none_of_divides hdivides hwhole'] at hwhole
    cases hwhole

/-- The mail format has no separator of dates in numbers, and seconds have none at all. -/
theorem separator?_of_other (h : mail.Accepts cs ∨ seconds.Accepts cs) :
    ∀ c ∈ dateMarks, separator? cs ≠ some c := by
  intro c hc hseparator
  rcases h with hmail | hseconds
  · obtain ⟨m, hread⟩ := accepts_mail hmail
    obtain ⟨d, hd, hnot⟩ := separator?_of_readMail? hread
    rw [hd] at hseparator
    rw [Option.some.inj hseparator] at hnot
    exact hnot hc
  · obtain ⟨n, hread⟩ := accepts_seconds hseconds
    rw [separator?_of_readInt64? hread] at hseparator
    cases hseparator

theorem separator?_of_numeric {form : Form} (hmem : form = internet ∨ form ∈ layouts.map layout)
    (h : form.Accepts cs) : ∃ c ∈ dateMarks, separator? cs = some c := by
  rcases hmem with rfl | hmem
  · obtain ⟨m, hread⟩ := accepts_internet h
    exact ⟨'-', by decide, separator?_of_readInternet? hread⟩
  · obtain ⟨pieces, hpieces, rfl⟩ := List.mem_map.mp hmem
    obtain ⟨hsame, c, hc, hseparator⟩ := accepts_layout_separator hpieces h
    exact ⟨c, hc, hsame.trans hseparator⟩

/-- No text is in two forms. What follows the first number tells the mail format, dates in
numbers and seconds apart; dates with the same separator are divided by their layouts. -/
theorem pairwise_all (cs : List Char) :
    all.Pairwise fun form other => ¬ (form.Accepts cs ∧ other.Accepts cs) := by
  -- a date in numbers has a mark of dates behind its first number, the other two forms do not
  have hnumeric : ∀ {form other : Form}, form = internet ∨ form ∈ layouts.map layout →
      other = mail ∨ other = seconds → ¬ (form.Accepts cs ∧ other.Accepts cs) := by
    rintro form other hform hother ⟨haccepts, haccepts'⟩
    obtain ⟨c, hc, hseparator⟩ := separator?_of_numeric hform haccepts
    rcases hother with rfl | rfl
    · exact separator?_of_other (.inl haccepts') c hc hseparator
    · exact separator?_of_other (.inr haccepts') c hc hseparator
  have hinternet : ∀ other ∈ mail :: (layouts.map layout ++ [seconds]),
      ¬ (internet.Accepts cs ∧ other.Accepts cs) := by
    intro other hother
    rcases List.mem_cons.mp hother with rfl | hother
    · exact hnumeric (.inl rfl) (.inl rfl)
    · rcases List.mem_append.mp hother with hlayout | hseconds
      · obtain ⟨pieces, hpieces, rfl⟩ := List.mem_map.mp hlayout
        rintro ⟨haccepts, haccepts'⟩
        exact not_accepts_internet_layout hpieces haccepts haccepts'
      · exact hnumeric (.inl rfl) (.inr (List.mem_singleton.mp hseconds))
  have hmail : ∀ other ∈ layouts.map layout ++ [seconds],
      ¬ (mail.Accepts cs ∧ other.Accepts cs) := by
    rintro other hother ⟨haccepts, haccepts'⟩
    rcases List.mem_append.mp hother with hlayout | hseconds
    · exact hnumeric (.inr hlayout) (.inl rfl) ⟨haccepts', haccepts⟩
    · rw [List.mem_singleton.mp hseconds] at haccepts'
      obtain ⟨m, hread⟩ := accepts_mail haccepts
      obtain ⟨n, hread'⟩ := accepts_seconds haccepts'
      obtain ⟨c, hc, -⟩ := separator?_of_readMail? hread
      rw [separator?_of_readInt64? hread'] at hc
      cases hc
  have hlayouts : (layouts.map layout).Pairwise
      fun form other => ¬ (form.Accepts cs ∧ other.Accepts cs) := by
    rw [List.pairwise_map]
    refine List.Pairwise.imp_of_mem ?_ pairwise_layouts
    rintro pieces others hpieces hothers hapart ⟨haccepts, haccepts'⟩
    exact not_accepts_two_layouts hpieces hothers hapart haccepts haccepts'
  have hseconds : ∀ form ∈ layouts.map layout, ∀ other ∈ [seconds],
      ¬ (form.Accepts cs ∧ other.Accepts cs) := by
    intro form hform other hother
    exact hnumeric (.inr hform) (.inr (List.mem_singleton.mp hother))
  have hrest : (layouts.map layout ++ [seconds]).Pairwise
      fun form other => ¬ (form.Accepts cs ∧ other.Accepts cs) :=
    List.pairwise_append.mpr ⟨hlayouts, List.pairwise_singleton _ _, hseconds⟩
  exact List.pairwise_cons.mpr ⟨hinternet, List.pairwise_cons.mpr ⟨hmail, hrest⟩⟩

/-- A text is in one form at most. -/
theorem eq_of_accepts {form other : Form} (hform : form ∈ all) (hother : other ∈ all)
    (haccepts : form.Accepts cs) (haccepts' : other.Accepts cs) : form = other := by
  by_contra hne
  have hsymm : Std.Symm fun form other : Form => ¬ (form.Accepts cs ∧ other.Accepts cs) := by
    constructor
    intro form other hnot hboth
    exact hnot ⟨hboth.2, hboth.1⟩
  exact (pairwise_all cs).forall hform hother hne ⟨haccepts, haccepts'⟩

/-! ## Any order -/

/-- A text in a form names what it names in this form, whichever form is tried first. -/
theorem findSome?_of_read? {order : List Form} (horder : order.Perm all) {form : Form}
    (hmem : form ∈ all) {named : Option Moment} (hread : form.read? cs = some named) :
    (order.findSome? fun form => form.read? cs) = some named := by
  have haccepts : form.Accepts cs := Option.isSome_of_eq_some hread
  cases hfound : order.findSome? fun form => form.read? cs with
  | none =>
      have hnone := List.findSome?_eq_none_iff.mp hfound form (horder.mem_iff.mpr hmem)
      rw [hread] at hnone
      cases hnone
  | some first =>
      obtain ⟨other, hother, hfirst⟩ := List.exists_of_findSome?_eq_some hfound
      have haccepts' : other.Accepts cs := Option.isSome_of_eq_some hfirst
      have hsame := eq_of_accepts (horder.mem_iff.mp hother) hmem haccepts' haccepts
      rw [← hfirst, hsame, hread]

theorem findSome?_perm {order : List Form} (horder : order.Perm all) (cs : List Char) :
    (order.findSome? fun form => form.read? cs) = all.findSome? fun form => form.read? cs := by
  cases hfound : all.findSome? fun form => form.read? cs with
  | none =>
      rw [List.findSome?_eq_none_iff] at hfound ⊢
      intro form hform
      exact hfound form (horder.mem_iff.mp hform)
  | some named =>
      obtain ⟨form, hform, hread⟩ := List.exists_of_findSome?_eq_some hfound
      exact findSome?_of_read? horder hform hread

/-- The moment that a text in a form names. -/
def moment? (form : Form) (cs : List Char) : Option Moment := (form.read? cs).join

/-- The readers are those of the forms. -/
theorem readers_eq : readers = all.map moment? := by
  have hsome : ∀ read : List Char → Option Moment,
      (fun cs => ((read cs).map some).join) = read := by
    intro read
    funext cs
    cases read cs with
    | none => rfl
    | some m => rfl
  have hinternet : moment? internet = readInternet? := hsome readInternet?
  have hmail : moment? mail = readMail? := hsome readMail?
  have hlayout : ∀ pieces, moment? (layout pieces) = readLayout? pieces :=
    fun pieces => hsome (readLayout? pieces)
  have hseconds : moment? seconds = readUnix? := by
    funext cs
    rw [moment?, read?, readUnix?]
    cases readInt64? cs with
    | none => rfl
    | some n => rfl
  have hlayouts : (layouts.map layout).map moment? = layouts.map readLayout? := by
    rw [List.map_map]
    exact List.map_congr_left fun pieces _ => hlayout pieces
  simp only [readers, all, List.map_append, List.map_cons, List.map_nil, hinternet, hmail, hlayouts,
    hseconds]

/-- Going on behind a form that names no moment makes no difference. -/
theorem findSome?_readers_eq (cs : List Char) :
    (readers.findSome? fun read => read cs) = (all.findSome? fun form => form.read? cs).join := by
  rw [readers_eq, List.findSome?_map]
  cases hfound : all.findSome? fun form => form.read? cs with
  | none =>
      apply List.findSome?_eq_none_iff.mpr
      intro form hform
      show (form.read? cs).join = none
      rw [List.findSome?_eq_none_iff.mp hfound form hform]
      rfl
  | some named =>
      obtain ⟨form, hform, hread⟩ := List.exists_of_findSome?_eq_some hfound
      -- a form that names a moment is the one that was found, since the text is in no other
      have honly : ∀ other ∈ all, ∀ m, other.moment? cs = some m → named = some m := by
        intro other hother m hm
        have hread' : other.read? cs = some (some m) := Option.join_eq_some_iff.mp hm
        have hsame := eq_of_accepts hform hother (Option.isSome_of_eq_some hread)
          (Option.isSome_of_eq_some hread')
        rw [hsame, hread'] at hread
        exact (Option.some.inj hread).symm
      cases hfirst : all.findSome? ((fun read => read cs) ∘ moment?) with
      | none =>
          have hnone := List.findSome?_eq_none_iff.mp hfirst form hform
          have hjoin : (form.read? cs).join = none := hnone
          rw [hread] at hjoin
          exact hjoin.symm
      | some m =>
          obtain ⟨other, hother, hm⟩ := List.exists_of_findSome?_eq_some hfirst
          rw [honly other hother m hm]
          rfl

end Form

/-- The two words aside, a text names what the forms, tried in any order, say. -/
theorem parse_eq_of_order {now : Moment} {text : String} (hword : ¬ NamesNow text)
    {order : List Form} (horder : order.Perm Form.all) :
    parse now text =
      match (order.findSome? fun form => form.read? (trimList text.toList)).join with
      | some m => .ok m
      | none => .error (.unreadableDate (trim text)) := by
  have hnow : ¬ String.ofList ((trimList text.toList).map Char.toLower) = "now" :=
    fun h => hword (.inl h)
  have htoday : ¬ String.ofList ((trimList text.toList).map Char.toLower) = "today" :=
    fun h => hword (.inr h)
  have hread : readWith? now (trimList text.toList) =
      (order.findSome? fun form => form.read? (trimList text.toList)).join := by
    rw [Form.findSome?_perm horder, ← Form.findSome?_readers_eq, readWith?]
    exact (if_neg hnow).trans (if_neg htoday)
  rw [← hread]
  rfl

/-- No moment is named where no form accepts, or where an integer is outside the years. -/
theorem join_findSome?_eq_none_iff (cs : List Char) :
    (Form.all.findSome? fun form => form.read? cs).join = none ↔
      (∀ form ∈ Form.all, ¬ form.Accepts cs) ∨ ∃ n, readInt64? cs = some n ∧
        ¬ (firstSecond (-262143) ≤ n ∧ n < firstSecond 262143) := by
  have hseconds : Form.seconds ∈ Form.all := by decide
  have hrange : ∀ n, ofSeconds? n = none ↔
      ¬ (firstSecond (-262143) ≤ n ∧ n < firstSecond 262143) := by
    intro n
    rw [← secondsInRange_iff, ofSeconds?]
    by_cases htold : secondsInRange n = true
    · rw [if_pos htold]
      exact iff_of_false (Option.some_ne_none _) (not_not_intro htold)
    · rw [if_neg htold]
      exact iff_of_true rfl htold
  constructor
  · intro hjoin
    cases hfound : Form.all.findSome? fun form => form.read? cs with
    | none =>
        left
        intro form hform haccepts
        rw [Form.Accepts, List.findSome?_eq_none_iff.mp hfound form hform] at haccepts
        cases haccepts
    | some named =>
        right
        rw [hfound] at hjoin
        have hnone : named = none := hjoin
        obtain ⟨form, hform, hread⟩ := List.exists_of_findSome?_eq_some hfound
        rw [hnone] at hread
        -- every other form names a moment where it accepts
        cases form with
        | internet | mail | layout pieces =>
            obtain ⟨m, -, hm⟩ := Option.map_eq_some_iff.mp hread
            cases hm
        | seconds =>
            obtain ⟨n, hn, hnone⟩ := Option.map_eq_some_iff.mp hread
            exact ⟨n, hn, (hrange n).mp hnone⟩
  · rintro (hnot | ⟨n, hn, houtside⟩)
    · cases hfound : Form.all.findSome? fun form => form.read? cs with
      | none => rfl
      | some named =>
          obtain ⟨form, hform, hread⟩ := List.exists_of_findSome?_eq_some hfound
          exact absurd (Option.isSome_of_eq_some hread) (hnot form hform)
    · have hread : Form.seconds.read? cs = some none := by
        rw [Form.read?, hn, Option.map_some, (hrange n).mpr houtside]
      rw [Form.findSome?_of_read? (List.Perm.refl _) hseconds hread]
      rfl

/-- **The order in which the forms are tried is immaterial.** A text is in one form at most. So a
text that is no word for the present names the same, or fails in the same way, whichever form
is tried first; and it fails where no form accepts it, and where it is an integer outside the
seconds of the years that can be told. -/
theorem order_of_forms_is_immaterial {now : Moment} {text : String} (hword : ¬ NamesNow text) :
    (∀ form ∈ Form.all, ∀ other ∈ Form.all, form.Accepts (trimList text.toList) →
      other.Accepts (trimList text.toList) → form = other) ∧
    (∀ order : List Form, order.Perm Form.all →
      parse now text =
        match (order.findSome? fun form => form.read? (trimList text.toList)).join with
        | some m => .ok m
        | none => .error (.unreadableDate (trim text))) ∧
    ∀ e, parse now text = .error e ↔ e = .unreadableDate (trim text) ∧
      ((∀ form ∈ Form.all, ¬ form.Accepts (trimList text.toList)) ∨
        ∃ n, readInt64? (trimList text.toList) = some n ∧
          ¬ (firstSecond (-262143) ≤ n ∧ n < firstSecond 262143)) := by
  refine ⟨?_, ?_, ?_⟩
  · intro form hform other hother haccepts haccepts'
    exact Form.eq_of_accepts hform hother haccepts haccepts'
  · intro order horder
    exact parse_eq_of_order hword horder
  · intro e
    -- the failure does not depend on the order, so the usual one is taken
    rw [← join_findSome?_eq_none_iff, parse_eq_of_order hword (List.Perm.refl _)]
    cases (Form.all.findSome? fun form => form.read? (trimList text.toList)).join with
    | some m =>
        constructor
        · intro hok
          cases hok
        · intro hnone
          cases hnone.2
    | none =>
        constructor
        · intro herror
          cases herror
          exact ⟨rfl, rfl⟩
        · intro hnone
          rw [hnone.1]

/-- A date and a time without a blank between them, in a year with a sign. -/
theorem order_of_forms_is_immaterial_run_together :
    let text := " +2024-3-0514:7"
    let form := Form.layout (dateBy '-' ++ [.blanks, .hour, .char ':', .minute])
    let now : Moment := ⟨0, 0, 0⟩
    ¬ NamesNow text ∧ form ∈ Form.all ∧ form.Accepts (trimList text.toList) ∧
      (∀ other ∈ Form.all, form.Accepts (trimList text.toList) →
        other.Accepts (trimList text.toList) → form = other) ∧
      Form.all.reverse.Perm Form.all ∧
      parse now text =
        match (Form.all.reverse.findSome? fun form => form.read? (trimList text.toList)).join with
        | some m => .ok m
        | none => .error (.unreadableDate (trim text)) := by
  intro text form now
  have hword : ¬ NamesNow text := by decide +kernel
  have hmem : form ∈ Form.all := by decide
  have haccepts : form.Accepts (trimList text.toList) := by decide +kernel
  have hreverse : Form.all.reverse.Perm Form.all := List.reverse_perm Form.all
  obtain ⟨hone, horder, -⟩ := @order_of_forms_is_immaterial now text hword
  exact ⟨hword, hmem, haccepts, fun other hother => hone form hmem other hother, hreverse,
    horder Form.all.reverse hreverse⟩

end Moment

end Placeholder
