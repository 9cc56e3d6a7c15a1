import Placeholder.Proofs.CommandLine.Values
import Placeholder.Proofs.Engine.Batch

/-! # Several templates, and standard input

All templates of a run are rendered by one engine. The names stand for fixed texts, and no processor
is registered, so neither of them remembers anything (`memoryless_of_prepare`), and each template
gives what it gives in a run of its own.

Standard input is a template like any other, without the line ends at its end
(`dropLineEnds_append`).
-/

namespace Placeholder.CommandLine

open Text

/-! ## The state in which templates are rendered -/

theorem exists_ok_of_bind {α β : Type} {x : Except Failure α} {f : α → Except Failure β} {b : β}
    (h : x >>= f = .ok b) : ∃ a, x = .ok a ∧ f a = .ok b := by
  cases x with
  | error failure => cases h
  | ok a => exact ⟨a, rfl, h⟩

/-- An object gives fixed texts. -/
theorem stateless_of_ofJson {value : Json.Value} {vars : Replacements}
    (h : Replacements.ofJson value = .ok vars) : vars.Stateless := by
  cases value with
  | object members =>
      obtain ⟨object, hobject, hfind⟩ := Replacements.exists_ofJson_object members
      rw [hobject] at h
      cases h
      intro name r hr
      rw [hfind] at hr
      rcases Option.map_eq_some_iff.mp hr with ⟨text, -, rfl⟩
      trivial
  | _ => cases h

theorem stateless_of_loadVars {env : Environment} {path? : Option String} {vars : Replacements}
    (h : loadVars env path? = .ok vars) : vars.Stateless := by
  cases path? with
  | none =>
      cases h
      intro name r hr
      cases hr
  | some path =>
      rcases exists_ok_of_bind h with ⟨text, -, h⟩
      rcases exists_ok_of_bind h with ⟨value, -, h⟩
      exact stateless_of_ofJson h

theorem stateless_setLiteral {vars : Replacements} (h : vars.Stateless) (name text : String) :
    (vars.setLiteral name text).Stateless := by
  intro other r hr
  unfold Replacements.setLiteral at hr
  by_cases hother : other = name
  · rw [hother, Table.find?_insert_self] at hr
    cases hr
    trivial
  · rw [Table.find?_insert_of_ne _ _ hother] at hr
    exact h other r hr

theorem stateless_of_assign {vars vars' : Replacements} (hvars : vars.Stateless)
    {assignments : List String} (h : assign vars assignments = .ok vars') : vars'.Stateless := by
  induction assignments generalizing vars with
  | nil =>
      cases h
      exact hvars
  | cons text assignments ih =>
      unfold assign at h ih
      rw [List.foldlM_cons] at h
      rcases isBad_or_assigns text with hbad | ⟨name, value, hassigns⟩
      · rw [readAssignment_of_isBad hbad] at h
        cases h
      · rw [readAssignment_of_assigns hassigns] at h
        exact ih (stateless_setLiteral hvars name value) h

/-- Before the first template neither the names nor the processors remember anything. -/
theorem memoryless_of_prepare {env : Environment} {config? path? : Option String}
    {assignments : List String} {s : State} (h : prepare env config? path? assignments = .ok s) :
    s.Sound ∧ s.Memoryless := by
  rcases exists_ok_of_bind h with ⟨config, -, h⟩
  rcases exists_ok_of_bind h with ⟨base, hbase, h⟩
  rcases exists_ok_of_bind h with ⟨vars, hvars, h⟩
  cases h
  refine ⟨State.start_sound config env.now vars, ?_, ?_⟩
  · exact stateless_of_assign (stateless_of_loadVars hbase) hvars
  · intro name p hp
    cases hp

/-! ## Standard input -/

/-- The line ends at the end are cut off, and nothing else is. -/
theorem dropLineEnds_append {t ends : String}
    (ht : t.toList.getLast? ≠ some '\r' ∧ t.toList.getLast? ≠ some '\n')
    (hends : ∀ c ∈ ends.toList, c = '\r' ∨ c = '\n') : dropLineEnds (t ++ ends) = t := by
  have hall : ∀ c ∈ ends.toList, (c == '\r' || c == '\n') = true := by
    intro c hc
    rw [Bool.or_eq_true, beq_iff_eq, beq_iff_eq]
    exact hends c hc
  have hstops : Stops (fun c => c == '\r' || c == '\n') t.toList.reverse := by
    intro c hc
    rw [List.head?_reverse] at hc
    rw [Bool.or_eq_false_iff, beq_eq_false_iff_ne, beq_eq_false_iff_ne]
    constructor
    · rintro rfl
      exact ht.1 hc
    · rintro rfl
      exact ht.2 hc
  rw [dropLineEnds, String.toList_append, dropEnd_append hall, dropEnd_of_stops hstops,
    String.ofList_toList]

theorem loadTemplates_of_input {env : Environment} {t ends : String}
    (h : env.input = (t ++ ends).toUTF8)
    (ht : t.toList.getLast? ≠ some '\r' ∧ t.toList.getLast? ≠ some '\n')
    (hends : ∀ c ∈ ends.toList, c = '\r' ∨ c = '\n') : loadTemplates env [] = .ok [t] := by
  have hinput : env.readInput = .ok (t ++ ends) := by
    unfold Environment.readInput
    rw [h, fromUTF8?_toUTF8]
  change (env.readInput >>= fun text => .ok [dropLineEnds text]) = _
  rw [hinput]
  change Except.ok [dropLineEnds (t ++ ends)] = _
  rw [dropLineEnds_append ht hends]

theorem loadTemplates_of_ne_nil (env : Environment) {templates : List String}
    (h : templates ≠ []) : loadTemplates env templates = .ok templates := by
  unfold loadTemplates
  rw [List.isEmpty_eq_false_iff.mpr h]
  rfl

/-! ## Reports -/

/-- What a run leaves that renders some templates. -/
def renderReport (env : Environment) (config? path? : Option String) (assignments : List String)
    (templates : List String) : Report :=
  Request.run env ⟨config?, .render templates path? assignments⟩

theorem join_map_empty (templates : List String) :
    String.join (templates.map fun _ => "") = "" := by
  induction templates with
  | nil => rfl
  | cons t templates ih => rw [List.map_cons, String.join_cons, ih, String.append_empty]

variable {env : Environment} {config? path? : Option String} {assignments : List String}

/-- If something that stands in front of the templates is bad, they do not matter. -/
theorem renderReport_of_error {failure : Failure}
    (h : prepare env config? path? assignments = .error failure) (templates : List String) :
    renderReport env config? path? assignments templates =
      { code := 1, errors := unlines (showFailure env.colour failure) } := by
  unfold renderReport Request.run
  rw [perform_render, h]
  rfl

/-- Otherwise each template gives its line. -/
theorem renderReport_of_ok {s : State} (h : prepare env config? path? assignments = .ok s)
    {given templates : List String} (hgiven : loadTemplates env given = .ok templates) :
    renderReport env config? path? assignments given =
      { code := 0,
        output := String.join (templates.map fun t => (s.render t).1.text ++ "\n") } := by
  obtain ⟨hsound, hmemoryless⟩ := memoryless_of_prepare h
  unfold renderReport Request.run
  rw [perform_render, h, hgiven]
  change ({ code := 0, output := unlines (s.renderAll templates).1 } : Report) = _
  rw [(State.renderAll_of_memoryless hsound hmemoryless templates).1, unlines, List.map_map]
  rfl

/-- A template alone gives its line and no other. -/
theorem renderReport_singleton {s : State} (h : prepare env config? path? assignments = .ok s)
    (t : String) :
    renderReport env config? path? assignments [t] =
      { code := 0, output := (s.render t).1.text ++ "\n" } := by
  rw [renderReport_of_ok h (loadTemplates_of_ne_nil env (List.cons_ne_nil t [])),
    List.map_singleton, String.join_cons, String.join_nil, String.append_empty]

/-- **Templates are rendered one by one, and standard input is one more.** With or without a cache,
what a run writes for several templates is what runs for each of them write, one after another, and
it ends as each of these runs does. If the configuration, the file with values and the assignments
are good, it writes the text of every template with a line end behind it. Without a template it
reads standard input: a text and any line ends behind it leave what this text leaves as a
template. -/
theorem templates_are_rendered_alone (env : Environment) (config? path? : Option String)
    (assignments : List String) :
    (∀ templates, templates ≠ [] →
      (renderReport env config? path? assignments templates).output =
        String.join (templates.map fun t =>
          (renderReport env config? path? assignments [t]).output) ∧
      ∀ t ∈ templates,
        (renderReport env config? path? assignments templates).code =
          (renderReport env config? path? assignments [t]).code ∧
        (renderReport env config? path? assignments templates).errors =
          (renderReport env config? path? assignments [t]).errors) ∧
    (∀ s, prepare env config? path? assignments = .ok s →
      ∀ templates, templates ≠ [] →
        renderReport env config? path? assignments templates = {
          code := 0
          output := String.join (templates.map fun t => (s.render t).1.text ++ "\n") }) ∧
    ∀ t ends, t.toList.getLast? ≠ some '\r' ∧ t.toList.getLast? ≠ some '\n' →
      (∀ c ∈ ends.toList, c = '\r' ∨ c = '\n') →
        renderReport { env with input := (t ++ ends).toUTF8 } config? path? assignments [] =
          renderReport env config? path? assignments [t] := by
  refine ⟨?_, ?_, ?_⟩
  · intro templates hne
    cases hprepare : prepare env config? path? assignments with
    | error failure =>
        -- all runs write nothing but the one failure
        simp only [renderReport_of_error hprepare]
        exact ⟨(join_map_empty templates).symm, fun _ _ => ⟨trivial, trivial⟩⟩
    | ok s =>
        rw [renderReport_of_ok hprepare (loadTemplates_of_ne_nil env hne)]
        simp only [renderReport_singleton hprepare]
        exact ⟨trivial, fun _ _ => ⟨trivial, trivial⟩⟩
  · intro s hprepare templates hne
    exact renderReport_of_ok hprepare (loadTemplates_of_ne_nil env hne)
  · intro t ends ht hends
    -- nothing that is read before the templates depends on standard input
    have hsame : prepare { env with input := (t ++ ends).toUTF8 } config? path? assignments =
        prepare env config? path? assignments := rfl
    have hinput : loadTemplates { env with input := (t ++ ends).toUTF8 } [] = .ok [t] :=
      loadTemplates_of_input rfl ht hends
    cases hprepare : prepare env config? path? assignments with
    | error failure =>
        rw [renderReport_of_error hprepare]
        exact renderReport_of_error (hsame.trans hprepare) []
    | ok s =>
        rw [renderReport_of_ok hprepare (loadTemplates_of_ne_nil env (List.cons_ne_nil t []))]
        exact renderReport_of_ok (hsame.trans hprepare) hinput

/-- A template of two lines, given twice and once by standard input. -/
theorem templates_are_rendered_alone_twice :
    let env : Environment := {
      files := fun _ => .error .missing
      input := ⟨#[]⟩
      colour := false
      now := ⟨0, 0, 0⟩ }
    let t := "x\n\x7b\x7ba\x7d\x7d"
    renderReport env none none ["a=1"] [t, t] = { code := 0, output := "x\n1\nx\n1\n" } ∧
      renderReport { env with input := (t ++ "\r\n\n").toUTF8 } none none ["a=1"] [] =
        { code := 0, output := "x\n1\n" } := by
  intro env t
  have hsingle : renderReport env none none ["a=1"] [t] =
      { code := 0, output := "x\n1\n" } := by decide +kernel
  obtain ⟨halone, hgood, hinput⟩ := templates_are_rendered_alone env none none ["a=1"]
  constructor
  · have houtput : (renderReport env none none ["a=1"] [t, t]).output = "x\n1\nx\n1\n" := by
      rw [(halone [t, t] (List.cons_ne_nil t [t])).1, List.map_cons, List.map_cons, List.map_nil,
        hsingle]
      decide +kernel
    cases hprepare : prepare env none none ["a=1"] with
    | error failure =>
        rw [renderReport_of_error hprepare] at hsingle
        cases hsingle
    | ok s =>
        rw [hgood s hprepare [t, t] (List.cons_ne_nil t [t])] at houtput ⊢
        exact congrArg (fun output => ({ code := 0, output := output } : Report)) houtput
  · have hends : ∀ c ∈ "\r\n\n".toList, c = '\r' ∨ c = '\n' := by
      have hchars : "\r\n\n".toList = ['\r', '\n', '\n'] := by decide +kernel
      rw [hchars]
      simp
    rw [hinput t "\r\n\n" (by decide +kernel) hends, hsingle]

end Placeholder.CommandLine
