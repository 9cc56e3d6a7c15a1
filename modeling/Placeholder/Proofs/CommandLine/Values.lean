import Mathlib.Data.List.Induction
import Placeholder.Proofs.CommandLine.Failures
import Placeholder.Proofs.Registry
import Placeholder.Proofs.Text
import Placeholder.Session

/-! # Values for names

Rendering takes its values from a file with an object, and then from assignments. `Stands` says what
a name stands for, without a table: the last assignment to the name counts, and the last member with
the name if there is none.

The members are set one after another, and so are the assignments. `Holds` ties a table to the
members and the assignments up to now; the table of the object has it (`exists_ofJson_holds`), every
further assignment keeps it (`Holds.assign`), and so all of them do (`exists_assign_holds`).
-/

namespace Placeholder

/-! ## The values of an object -/

namespace Replacements

/-- The text of a value, if it is one. -/
def text? : Json.Value → Option String
  | .string text => some text
  | _ => none

theorem text?_eq_some_iff {value : Json.Value} {text : String} :
    text? value = some text ↔ value = .string text := by
  cases value <;> simp [text?]

theorem find?_setMember (vars : Replacements) (name : String) (value : Json.Value)
    (other : String) :
    (vars.setMember name value).find? other =
      if other = name then ((text? value).map .literal).or (vars.find? other)
      else vars.find? other := by
  unfold setMember
  split
  · next text =>
      unfold setLiteral
      split
      · next heq =>
          rw [heq, Table.find?_insert_self]
          rfl
      · next hne => exact Table.find?_insert_of_ne _ _ hne
  · next hnone =>
      have htext : text? value = none := by
        cases value with
        | string text => exact absurd rfl (hnone text)
        | _ => rfl
      rw [htext, Option.map_none, Option.none_or, ite_self]

/-- Under distinct names no member disturbs another one. -/
theorem find?_foldl_setMember {members : List (String × Json.Value)}
    (h : (members.map Prod.fst).Nodup) (vars : Replacements) (name : String) :
    (members.foldl (fun vars e => vars.setMember e.1 e.2) vars).find? name =
      (((members.lookup name).bind text?).map .literal).or (vars.find? name) := by
  induction members generalizing vars with
  | nil => rfl
  | cons e members ih =>
      obtain ⟨hfirst, hrest⟩ := List.nodup_cons.mp h
      rw [List.foldl_cons, ih hrest, find?_setMember, lookup_cons_eq_if]
      split
      · next heq =>
          -- the first member is the only one with its name
          have hmissing : members.lookup name = none := by
            rw [← Option.not_isSome_iff_eq_none, lookup_isSome_iff_mem, heq]
            exact hfirst
          rw [hmissing]
          rfl
      · rfl

/-- An object gives to a name the text of the last member with the name. -/
theorem exists_ofJson_object (members : List (String × Json.Value)) :
    ∃ vars, ofJson (.object members) = .ok vars ∧
      ∀ name, vars.find? name = ((members.reverse.lookup name).bind text?).map .literal := by
  refine ⟨_, rfl, ?_⟩
  intro name
  have hnodup : ((Table.ofList members).entries.map Prod.fst).Nodup :=
    Table.nodup_foldl_insert (t := Table.empty) List.nodup_nil members
  have hlast : (Table.ofList members).entries.lookup name = members.reverse.lookup name :=
    (Table.find?_foldl_insert Table.empty members name).trans Option.or_none
  rw [← hlast]
  exact (find?_foldl_setMember hnodup Table.empty name).trans Option.or_none

end Replacements

namespace CommandLine

open Text

/-! ## Assignments -/

/-- A text assigns a value to a name: the value is all that follows the first equals sign, and the
name what is in front of it, without the blanks around it. -/
def Assigns (text name value : String) : Prop :=
  ∃ written, text.toList = written ++ '=' :: value.toList ∧ '=' ∉ written ∧
    trimList written = name.toList ∧ name ≠ ""

/-- A text assigns nothing: it has no equals sign, or only blanks in front of the first one. -/
def IsBad (text : String) : Prop :=
  '=' ∉ text.toList ∨ ∃ written value, text.toList = written ++ '=' :: value ∧ '=' ∉ written ∧
    ∀ c ∈ written, isBlank c = true

theorem readAssignment_of_assigns {text name value : String} (h : Assigns text name value) :
    readAssignment text = .ok (name, value) := by
  rcases h with ⟨written, htext, hfirst, hname, hne⟩
  unfold readAssignment
  rw [htext, splitFirst?_append hfirst]
  dsimp only
  rw [hname]
  cases hchars : name.toList with
  | nil => exact absurd (String.toList_eq_nil_iff.mp hchars) hne
  | cons c cs =>
      dsimp only
      rw [← hchars, String.ofList_toList, String.ofList_toList]

theorem readAssignment_of_isBad {text : String} (h : IsBad text) :
    readAssignment text = .error (.badAssignment text) := by
  unfold readAssignment
  rcases h with hnone | ⟨written, value, htext, hfirst, hblank⟩
  · rw [splitFirst?_of_not_mem hnone]
  · rw [htext, splitFirst?_append hfirst]
    dsimp only
    rw [trimList_eq_nil_iff.mpr hblank]

theorem isBad_or_assigns (text : String) : IsBad text ∨ ∃ name value, Assigns text name value := by
  by_cases hequals : '=' ∈ text.toList
  · rcases List.eq_append_cons_of_mem hequals with ⟨written, value, htext, hfirst⟩
    by_cases hblank : ∀ c ∈ written, isBlank c = true
    · exact .inl (.inr ⟨written, value, htext, hfirst, hblank⟩)
    · right
      refine ⟨String.ofList (trimList written), String.ofList value, written, ?_, hfirst, ?_, ?_⟩
      · rw [String.toList_ofList, htext]
      · rw [String.toList_ofList]
      · intro hempty
        apply hblank
        rw [← trimList_eq_nil_iff, ← String.toList_ofList (l := trimList written), hempty]
        rfl
  · exact .inl (.inl hequals)

/-- A text assigns one value to one name. -/
theorem Assigns.unique {text name value name' value' : String} (h : Assigns text name value)
    (h' : Assigns text name' value') : name = name' ∧ value = value' := by
  have hread := readAssignment_of_assigns h
  rw [readAssignment_of_assigns h'] at hread
  cases hread
  exact ⟨rfl, rfl⟩

theorem Assigns.not_isBad {text name value : String} (h : Assigns text name value) :
    ¬ IsBad text := by
  intro hbad
  have hread := readAssignment_of_isBad hbad
  rw [readAssignment_of_assigns h] at hread
  cases hread

/-! ## What a name stands for -/

/-- The value of a name after the members of an object and some assignments. -/
inductive Stands (members : List (String × Json.Value)) (assignments : List String) :
    String → String → Prop
  /-- The value of the last assignment to the name. -/
  | assigned {front back : List String} {text name value : String}
      (h : assignments = front ++ text :: back) (hassigns : Assigns text name value)
      (hlast : ∀ later ∈ back, ∀ other, ¬ Assigns later name other) :
      Stands members assignments name value
  /-- The text of the last member with the name, if there is no assignment to it. -/
  | member {front back : List (String × Json.Value)} {name value : String}
      (h : members = front ++ (name, .string value) :: back) (hlast : name ∉ back.map Prod.fst)
      (hnone : ∀ text ∈ assignments, ∀ other, ¬ Assigns text name other) :
      Stands members assignments name value

/-- A table has for every name the value that the name stands for, and no others. -/
def Holds (members : List (String × Json.Value)) (assignments : List String)
    (vars : Replacements) : Prop :=
  ∀ name entry, vars.find? name = some entry ↔
    ∃ value, entry = .literal value ∧ Stands members assignments name value

variable {members : List (String × Json.Value)}

/-- The object settles the names to which nothing is assigned. -/
theorem stands_nil_iff {name value : String} :
    Stands members [] name value ↔ members.reverse.lookup name = some (.string value) := by
  rw [lookup_reverse_eq_some_iff]
  constructor
  · intro h
    cases h with
    | assigned h hassigns hlast => simp at h
    | member h hlast hnone => exact ⟨_, _, h, hlast⟩
  · rintro ⟨front, back, h, hlast⟩
    exact .member h hlast nofun

theorem exists_ofJson_holds (members : List (String × Json.Value)) :
    ∃ vars, Replacements.ofJson (.object members) = .ok vars ∧ Holds members [] vars := by
  rcases Replacements.exists_ofJson_object members with ⟨vars, hvars, hfind⟩
  refine ⟨vars, hvars, ?_⟩
  intro name entry
  rw [hfind, Option.map_eq_some_iff]
  constructor
  · rintro ⟨value, hvalue, rfl⟩
    rcases Option.bind_eq_some_iff.mp hvalue with ⟨last, hlast, htext⟩
    rw [Replacements.text?_eq_some_iff.mp htext] at hlast
    exact ⟨value, rfl, stands_nil_iff.mpr hlast⟩
  · rintro ⟨value, rfl, hstands⟩
    refine ⟨value, ?_, rfl⟩
    rw [stands_nil_iff.mp hstands]
    rfl

/-- A further assignment settles its own name and leaves the others alone. -/
theorem stands_append_iff {assignments : List String} {text name value other found : String}
    (h : Assigns text name value) :
    Stands members (assignments ++ [text]) other found ↔
      (other = name ∧ found = value) ∨
        (other ≠ name ∧ Stands members assignments other found) := by
  constructor
  · intro hstands
    cases hstands with
    | @assigned front back text' _ _ hsplit hassigns hlast =>
        rcases List.eq_nil_or_concat back with rfl | ⟨between, text'', rfl⟩
        · -- the further assignment is the last one to the name
          obtain ⟨-, hsame⟩ := List.append_inj' hsplit rfl
          cases hsame
          exact .inl (hassigns.unique h)
        · -- it comes later, so it is not to this name
          rw [List.concat_eq_append, ← List.cons_append, ← List.append_assoc] at hsplit
          obtain ⟨hfront, hsame⟩ := List.append_inj' hsplit rfl
          cases hsame
          right
          constructor
          · rintro rfl
            exact hlast text (by simp) value h
          · refine .assigned hfront hassigns ?_
            intro later hlater
            exact hlast later (by simp [hlater])
    | member hsplit hlast hnone =>
        right
        constructor
        · rintro rfl
          exact hnone text (by simp) value h
        · refine .member hsplit hlast ?_
          intro text' htext'
          exact hnone text' (List.mem_append_left _ htext')
  · rintro (⟨rfl, rfl⟩ | ⟨hne, hstands⟩)
    · exact .assigned rfl h nofun
    · -- the further assignment is to another name, so what stood before it still does
      have hother : ∀ value', ¬ Assigns text other value' := by
        intro value' h'
        exact hne (h'.unique h).1
      cases hstands with
      | @assigned front back text' _ _ hsplit hassigns hlast =>
          have hlonger : assignments ++ [text] = front ++ text' :: (back ++ [text]) := by
            rw [hsplit, List.append_assoc, List.cons_append]
          refine .assigned hlonger hassigns ?_
          intro later hlater
          rcases List.mem_append.mp hlater with hback | hnew
          · exact hlast later hback
          · rw [List.mem_singleton.mp hnew]
            exact hother
      | member hsplit hlast hnone =>
          refine .member hsplit hlast ?_
          intro text' htext'
          rcases List.mem_append.mp htext' with hmem | hnew
          · exact hnone text' hmem
          · rw [List.mem_singleton.mp hnew]
            exact hother

/-- One more assignment. -/
theorem Holds.assign {assignments : List String} {vars : Replacements}
    (hvars : Holds members assignments vars) {text name value : String}
    (h : Assigns text name value) :
    Holds members (assignments ++ [text]) (vars.setLiteral name value) := by
  intro other entry
  unfold Replacements.setLiteral
  simp only [stands_append_iff h]
  by_cases hother : other = name
  · rw [hother, Table.find?_insert_self, Option.some_inj]
    constructor
    · rintro rfl
      exact ⟨value, rfl, .inl ⟨rfl, rfl⟩⟩
    · rintro ⟨found, rfl, ⟨-, rfl⟩ | ⟨hne, -⟩⟩
      · rfl
      · exact absurd rfl hne
  · rw [Table.find?_insert_of_ne _ _ hother, hvars]
    simp [hother]

/-- All assignments, if none of them is bad. -/
theorem exists_assign_holds {vars : Replacements} (hvars : Holds members [] vars)
    {assignments : List String} (h : ∀ text ∈ assignments, ¬ IsBad text) :
    ∃ vars', assign vars assignments = .ok vars' ∧ Holds members assignments vars' := by
  -- from the end, since a later assignment goes into the table of the earlier ones
  induction assignments using List.reverseRecOn with
  | nil => exact ⟨vars, rfl, hvars⟩
  | append_singleton assignments text ih =>
      rw [List.forall_mem_append] at h
      obtain ⟨vars', hassign, hvars'⟩ := ih h.1
      rcases isBad_or_assigns text with hbad | ⟨name, value, hassigns⟩
      · exact absurd hbad (h.2 text (List.mem_singleton_self text))
      · refine ⟨vars'.setLiteral name value, ?_, hvars'.assign hassigns⟩
        unfold assign at hassign ⊢
        rw [List.foldlM_append, hassign]
        simp [readAssignment_of_assigns hassigns, bind, Except.bind, pure, Except.pure]

/-- The first bad assignment, whatever the table. -/
theorem assign_of_isBad (vars : Replacements) {front : List String} {bad : String}
    (hfront : ∀ text ∈ front, ¬ IsBad text) (hbad : IsBad bad) (back : List String) :
    assign vars (front ++ bad :: back) = .error (.badAssignment bad) := by
  induction front generalizing vars with
  | nil =>
      unfold assign
      rw [List.nil_append, List.foldlM_cons, readAssignment_of_isBad hbad]
      rfl
  | cons text front ih =>
      rw [List.forall_mem_cons] at hfront
      rcases isBad_or_assigns text with htext | ⟨name, value, hassigns⟩
      · exact absurd htext hfront.1
      · have hrest := ih (vars.setLiteral name value) hfront.2
        unfold assign at hrest ⊢
        rw [List.cons_append, List.foldlM_cons, readAssignment_of_assigns hassigns]
        exact hrest

/-! ## Rendering -/

/-- The engine and the values, before the first template. -/
def prepare (env : Environment) (config? path? : Option String) (assignments : List String) :
    Except Failure State := do
  let config ← loadConfig env config?
  let vars ← assign (← loadVars env path?) assignments
  return .start config env.now vars

theorem perform_render (env : Environment) (config? path? : Option String)
    (templates assignments : List String) :
    perform env ⟨config?, .render templates path? assignments⟩ = do
      let s ← prepare env config? path? assignments
      let templates ← loadTemplates env templates
      return (s.renderAll templates).1 := by
  unfold perform prepare
  simp only [bind_assoc, pure_bind]
  rfl

theorem Environment.readText_of_toUTF8 (env : Environment) {path text : String}
    (h : env.files path = .ok text.toUTF8) : env.readText path = .ok text := by
  unfold readText
  rw [h]
  dsimp only
  rw [fromUTF8?_toUTF8]

/-- The file with values has an object with these members; without a file there are none. -/
def GivesMembers (env : Environment) :
    Option String → List (String × Json.Value) → Prop
  | none, members => members = []
  | some path, members =>
      ∃ text, env.readText path = .ok text ∧ readValues path text = .ok (.object members)

theorem GivesMembers.exists_loadVars {env : Environment} {path? : Option String}
    (h : GivesMembers env path? members) :
    ∃ vars, loadVars env path? = .ok vars ∧ Holds members [] vars := by
  rcases exists_ofJson_holds members with ⟨vars, hvars, hholds⟩
  refine ⟨vars, ?_, hholds⟩
  cases path? with
  | none =>
      cases h
      cases hvars
      rfl
  | some path =>
      rcases h with ⟨text, htext, hvalues⟩
      unfold loadVars
      dsimp only
      rw [htext]
      change (readValues path text >>= Replacements.ofJson) = _
      rw [hvalues]
      exact hvars

/-- **Rendering uses the last value of every name.** Take a configuration that can be read and a
file whose values are an object, or no file. If there is a bad assignment, rendering fails with the
first one. If there is none, rendering uses a table in which every name has the value of the last
assignment to it, all that follows the first equals sign; without an assignment the text of the last
member of the object with the name, if that is a text; and in all other cases nothing. -/
theorem render_uses_last_values {env : Environment} {config? path? : Option String}
    {config : Config} {members : List (String × Json.Value)}
    (hconfig : loadConfig env config? = .ok config) (hmembers : GivesMembers env path? members)
    (templates assignments : List String) :
    (∀ front bad back, assignments = front ++ bad :: back → (∀ text ∈ front, ¬ IsBad text) →
      IsBad bad →
        perform env ⟨config?, .render templates path? assignments⟩ =
          .error (.badAssignment bad)) ∧
    ((∀ text ∈ assignments, ¬ IsBad text) →
      ∃ vars, Holds members assignments vars ∧
        perform env ⟨config?, .render templates path? assignments⟩ = do
          let templates ← loadTemplates env templates
          return (State.renderAll ⟨Engine.new config env.now, vars⟩ templates).1) := by
  -- the file comes first, so the table that the assignments start from holds its members
  obtain ⟨object, hobject, hholds⟩ := hmembers.exists_loadVars
  have hprepare : prepare env config? path? assignments = do
      let vars ← assign object assignments
      return .start config env.now vars := by
    unfold prepare
    rw [hconfig, hobject]
    rfl
  constructor
  · rintro front bad back rfl hfront hbad
    rw [perform_render, hprepare, assign_of_isBad object hfront hbad back]
    rfl
  · intro hgood
    obtain ⟨vars, hassign, hvars⟩ := exists_assign_holds hholds hgood
    refine ⟨vars, hvars, ?_⟩
    rw [perform_render, hprepare, hassign]
    rfl

/-- A value with an equals sign, a member that is no text, and a name of blanks. -/
theorem render_uses_last_values_twice :
    let text := "\x7b\"a\": \"1\", \"b\": 2\x7d"
    let env : Environment := {
      files := fun _ => .ok text.toUTF8
      input := ⟨#[]⟩
      colour := false
      now := ⟨0, 0, 0⟩ }
    let members := [("a", .string "1"), ("b", .number "2")]
    loadConfig env none = .ok {} ∧ GivesMembers env (some "v") members ∧
      perform env ⟨none, .render [] (some "v") ["c=1", " =2", "c"]⟩ =
        .error (.badAssignment " =2") ∧
      ∃ vars, vars.find? "a" = some (.literal "1") ∧ vars.find? "b" = none ∧
        vars.find? "c" = some (.literal "x=y") ∧
        perform env ⟨none, .render ["t"] (some "v") ["c=1", " c =x=y"]⟩ =
          .ok (State.renderAll ⟨Engine.new {} env.now, vars⟩ ["t"]).1 := by
  intro text env members
  have hconfig : loadConfig env none = .ok {} := rfl
  have hpath : fileExtension? "v" = none := by decide +kernel
  have hchars : text.toList = ['\x7b', '"', 'a', '"', ':', ' ', '"', '1', '"', ',', ' ', '"', 'b',
      '"', ':', ' ', '2', '\x7d'] := by decide +kernel
  have hparse : Json.parse? text = some (.object members) := by
    unfold Json.parse?
    rw [hchars]
    rfl
  have hmembers : GivesMembers env (some "v") members := by
    refine ⟨text, ?_, ?_⟩
    · exact env.readText_of_toUTF8 rfl
    · unfold readValues
      rw [hpath]
      dsimp only
      rw [hparse]
      rfl
  have hfirst : Assigns "c=1" "c" "1" :=
    ⟨['c'], by decide +kernel, by decide, by decide +kernel, by decide⟩
  have hsecond : Assigns " c =x=y" "c" "x=y" :=
    ⟨[' ', 'c', ' '], by decide +kernel, by decide, by decide +kernel, by decide⟩
  have hbad : IsBad " =2" :=
    .inr ⟨[' '], ['2'], by decide +kernel, by decide, List.forall_mem_singleton.mpr rfl⟩
  -- no good assignment is to `a` or `b`, so what these stand for comes from the file
  have honly : ∀ later ∈ ["c=1", " c =x=y"], ∀ name value,
      Assigns later name value → name = "c" := by
    intro later hlater name value h
    rcases List.mem_pair.mp hlater with rfl | rfl
    · exact (h.unique hfirst).1
    · exact (h.unique hsecond).1
  obtain ⟨hfails, -⟩ := render_uses_last_values hconfig hmembers [] ["c=1", " =2", "c"]
  obtain ⟨-, hworks⟩ := render_uses_last_values hconfig hmembers ["t"] ["c=1", " c =x=y"]
  refine ⟨hconfig, hmembers, ?_, ?_⟩
  · apply hfails ["c=1"] " =2" ["c"] rfl _ hbad
    rw [List.forall_mem_singleton]
    exact hfirst.not_isBad
  · have hgood : ∀ later ∈ ["c=1", " c =x=y"], ¬ IsBad later := by
      intro later hlater
      rcases List.mem_pair.mp hlater with rfl | rfl
      · exact hfirst.not_isBad
      · exact hsecond.not_isBad
    obtain ⟨vars, hvars, hperform⟩ := hworks hgood
    refine ⟨vars, ?_, ?_, ?_, hperform⟩
    · have hmember : members = [] ++ ("a", .string "1") :: [("b", .number "2")] := rfl
      refine (hvars _ _).mpr ⟨"1", rfl, .member hmember (by decide) ?_⟩
      intro later hlater other h
      exact absurd (honly later hlater "a" other h) (by decide)
    · rw [Option.eq_none_iff_forall_ne_some]
      intro entry hentry
      obtain ⟨value, -, hstands⟩ := (hvars _ _).mp hentry
      cases hstands with
      | @assigned front back later _ _ hsplit hassigns hlast =>
          have hmem : later ∈ ["c=1", " c =x=y"] := by
            rw [hsplit]
            exact List.mem_append_cons_self
          exact absurd (honly later hmem "b" value hassigns) (by decide)
      | member hsplit hlast hnone =>
          have hmem : ("b", Json.Value.string value) ∈ members := by
            rw [hsplit]
            exact List.mem_append_cons_self
          simp [members] at hmem
    · have hlast : ["c=1", " c =x=y"] = ["c=1"] ++ " c =x=y" :: [] := rfl
      exact (hvars _ _).mpr ⟨"x=y", rfl, .assigned hlast hsecond nofun⟩

end CommandLine

end Placeholder
