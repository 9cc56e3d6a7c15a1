import Placeholder.CommandLine.Run

/-! # Runs that fail

A run reads several things that can be bad: the file with the configuration, the file with
values, the assignments, and standard input where there are no templates. `Request.sources`
lists them in the order in which they are read, and `Source.failure?` says what is wrong
with one of them by itself.

A run reads all of them before it writes anything, and what is wrong with one of them
never depends on what the others gave. So a run fails exactly when something is wrong with
one of its sources, with the failure of the first of these, and a failing run writes
nothing but this failure (`run_reports_first_failure`).
-/

namespace Placeholder.CommandLine

/-! ## What can fail -/

/-- The failure of a step, if it fails. -/
def failureOf {α : Type} : Except Failure α → Option Failure
  | .ok _ => none
  | .error failure => some failure

@[simp] theorem failureOf_ok {α : Type} (a : α) : failureOf (.ok a) = none := rfl

@[simp] theorem failureOf_error {α : Type} (failure : Failure) :
    failureOf (.error failure : Except Failure α) = some failure := rfl

/-- A step and a further one whose failure does not depend on what the first one gave. -/
theorem failureOf_bind {α β : Type} {x : Except Failure α} {f : α → Except Failure β}
    {later : Option Failure} (h : ∀ a, failureOf (f a) = later) :
    failureOf (x >>= f) = (failureOf x).or later := by
  cases x with
  | ok a => exact h a
  | error failure => rfl

theorem failureOf_map {α β : Type} (x : Except Failure α) (f : α → β) :
    failureOf (x >>= fun a => pure (f a)) = failureOf x := by
  cases x with
  | ok a => rfl
  | error failure => rfl

/-! ## Sources -/

/-- Something that a run reads and that can be bad. -/
inductive Source where
  /-- The file with the configuration. -/
  | config (path : String)
  /-- The file with values for names. -/
  | vars (path : String)
  /-- An assignment on the command line. -/
  | assignment (text : String)
  /-- Standard input. -/
  | input
deriving DecidableEq, Repr

/-- What is wrong with a source, taken by itself. -/
def Source.failure? (env : Environment) : Source → Option Failure
  | .config path => failureOf (loadConfig env (some path))
  | .vars path => failureOf (loadVars env (some path))
  | .assignment text => failureOf (readAssignment text)
  | .input => failureOf env.readInput

/-- The sources of a command. -/
def Command.sources : Command → List Source
  | .render templates vars assignments =>
      vars.toList.map .vars ++ assignments.map .assignment ++
        if templates.isEmpty then [.input] else []
  | .parse _ => []
  | .processors => []

/-- The sources of a request, in the order in which they are read. -/
def Request.sources (request : Request) : List Source :=
  request.config.toList.map .config ++ request.command.sources

/-- The sources of a command line. One that is no request has none. -/
def sourcesOf (words : List String) : List Source :=
  match Request.ofWords words with
  | .ok request => request.sources
  | .error _ => []

theorem failureOf_loadConfig (env : Environment) (config : Option String) :
    failureOf (loadConfig env config) =
      (config.toList.map Source.config).findSome? (·.failure? env) := by
  cases config with
  | none => rfl
  | some path => simp [Source.failure?]

theorem failureOf_loadVars (env : Environment) (vars : Option String) :
    failureOf (loadVars env vars) =
      (vars.toList.map Source.vars).findSome? (·.failure? env) := by
  cases vars with
  | none => rfl
  | some path => simp [Source.failure?]

/-- Whatever names stand for already, the first bad assignment fails. -/
theorem failureOf_assign (env : Environment) (vars : Replacements) (assignments : List String) :
    failureOf (assign vars assignments) =
      (assignments.map Source.assignment).findSome? (·.failure? env) := by
  induction assignments generalizing vars with
  | nil => rfl
  | cons text assignments ih =>
      unfold assign at ih ⊢
      rw [List.foldlM_cons, failureOf_bind ih, List.map_cons, List.findSome?_cons]
      cases hread : readAssignment text with
      | ok read => simp [Source.failure?, hread, bind, Except.bind, pure, Except.pure]
      | error failure => simp [Source.failure?, hread, bind, Except.bind]

theorem failureOf_loadTemplates (env : Environment) (templates : List String) :
    failureOf (loadTemplates env templates) =
      (if templates.isEmpty then [Source.input] else []).findSome? (·.failure? env) := by
  unfold loadTemplates
  split
  · rw [failureOf_map]
    simp [Source.failure?]
  · rfl

/-- A request fails with what is wrong with the first of its sources that is bad. -/
theorem failureOf_perform (env : Environment) (request : Request) :
    failureOf (perform env request) = request.sources.findSome? (·.failure? env) := by
  unfold perform Request.sources
  rw [List.findSome?_append, ← failureOf_loadConfig]
  apply failureOf_bind
  intro config
  cases request.command with
  | render templates path assignments =>
      unfold Command.sources
      rw [List.findSome?_append, List.findSome?_append, ← failureOf_loadVars,
        ← failureOf_loadTemplates, Option.or_assoc]
      apply failureOf_bind
      intro vars
      rw [← failureOf_assign env vars]
      apply failureOf_bind
      intro vars
      exact failureOf_map _ _
  | parse template => rfl
  | processors => rfl

/-! ## Standard input -/

theorem input_mem_sources_iff (request : Request) :
    .input ∈ request.sources ↔
      ∃ vars assignments, request.command = .render [] vars assignments := by
  unfold Request.sources
  cases request.command with
  | render templates vars assignments =>
      cases templates with
      | nil => simp [Command.sources]
      | cons template templates => simp [Command.sources]
  | parse template => simp [Command.sources]
  | processors => simp [Command.sources]

/-- A request that does not read standard input does the same whatever is there. -/
theorem perform_of_input_not_mem {env : Environment} {request : Request}
    (h : .input ∉ request.sources) (input : ByteArray) :
    perform { env with input := input } request = perform env request := by
  have htemplates : ∀ templates vars assignments,
      request.command = .render templates vars assignments →
        loadTemplates { env with input := input } templates = loadTemplates env templates := by
    intro templates vars assignments hcommand
    cases templates with
    | nil => exact absurd ((input_mem_sources_iff request).mpr ⟨vars, assignments, hcommand⟩) h
    | cons template templates => rfl
  unfold perform
  cases hcommand : request.command with
  | render templates vars assignments =>
      dsimp only
      rw [htemplates templates vars assignments hcommand]
      rfl
  | parse template => rfl
  | processors => rfl

/-! ## Reports -/

/-- What a failing run writes to standard error: one line for what happened and one for what
to do about it. -/
def errorText (colour : Bool) (failure : Failure) : String :=
  Style.alarm.paint colour "Error:" ++ " " ++ failure.message ++ "\n" ++
    "  " ++ Style.yellow.paint colour "Fix:" ++ " " ++ failure.fix ++ "\n"

theorem unlines_showFailure (colour : Bool) (failure : Failure) :
    unlines (showFailure colour failure) = errorText colour failure := by
  have hempty : ∀ text : String, "" ++ text = text := fun text => String.empty_append
  unfold unlines showFailure errorText
  simp only [List.map_cons, List.map_nil, String.join, List.foldl_cons, List.foldl_nil, hempty,
    String.append_assoc]

theorem fix_ne_empty (failure : Failure) : failure.fix ≠ "" := by
  cases failure <;> simp [Failure.fix]

theorem run_of_failure {env : Environment} {request : Request} {failure : Failure}
    (h : failureOf (perform env request) = some failure) :
    request.run env = { code := 1, errors := errorText env.colour failure } := by
  unfold Request.run
  cases hperform : perform env request with
  | ok lines => simp [hperform] at h
  | error other =>
      rw [hperform] at h
      cases h
      rw [← unlines_showFailure]

theorem run_of_no_failure {env : Environment} {request : Request}
    (h : failureOf (perform env request) = none) :
    ∃ lines, request.run env = { code := 0, output := unlines lines } := by
  unfold Request.run
  cases hperform : perform env request with
  | ok lines => exact ⟨lines, rfl⟩
  | error failure => simp [hperform] at h

/-- What a request leaves: everything is good and the run succeeds, or the run leaves the
failure of the first source that is bad. -/
theorem run_cases (env : Environment) (request : Request) :
    ((request.run env).code = 0 ∧ (request.run env).errors = "" ∧
        ∀ source ∈ request.sources, source.failure? env = none) ∨
      ∃ front bad later failure, request.sources = front ++ bad :: later ∧
        (∀ source ∈ front, source.failure? env = none) ∧ bad.failure? env = some failure ∧
        request.run env = { code := 1, output := "", errors := errorText env.colour failure } := by
  have hperform := failureOf_perform env request
  cases hfirst : request.sources.findSome? (·.failure? env) with
  | none =>
      left
      rw [hfirst] at hperform
      rcases run_of_no_failure hperform with ⟨lines, hrun⟩
      rw [hrun]
      exact ⟨rfl, rfl, List.findSome?_eq_none_iff.mp hfirst⟩
  | some failure =>
      right
      rw [hfirst] at hperform
      rcases List.findSome?_eq_some_iff.mp hfirst with ⟨front, bad, later, hsplit, hbad, hfront⟩
      exact ⟨front, bad, later, failure, hsplit, hfront, hbad, run_of_failure hperform⟩

/-- **A failing run reports the first thing that is wrong and writes nothing else.** For a
command line that is accepted there are two outcomes. Either every source is good, and the
exit code is 0 with nothing on standard error. Or some source is bad, and the run
leaves the exit code 1, nothing on standard output, and on standard error the failure of
the first bad source with a suggestion. Standard input is a source only of rendering
without templates, and no other run depends on it; the configuration is the only source of
the other commands. -/
theorem run_reports_first_failure (env : Environment) {words : List String}
    (h : Request.ofWords words ≠ .error .usage) :
    (((run env words).code = 0 ∧ (run env words).errors = "" ∧
        ∀ source ∈ sourcesOf words, source.failure? env = none) ∨
      ∃ front bad later failure, sourcesOf words = front ++ bad :: later ∧
        (∀ source ∈ front, source.failure? env = none) ∧ bad.failure? env = some failure ∧
        run env words = { code := 1, output := "", errors := errorText env.colour failure } ∧
        failure.fix ≠ "") ∧
    (∀ input, .input ∉ sourcesOf words →
      run { env with input := input } words = run env words) ∧
    ∀ request, Request.ofWords words = .ok request →
      (.input ∈ sourcesOf words ↔
        ∃ vars assignments, request.command = .render [] vars assignments) ∧
      ((∀ templates vars assignments, request.command ≠ .render templates vars assignments) →
        ∀ source ∈ sourcesOf words,
          ∃ path, request.config = some path ∧ source = .config path) := by
  cases hwords : Request.ofWords words with
  | error stop =>
      -- the version and the help are shown, and nothing is read
      have hrun : ∀ env, run env words = stop.report := by
        intro env
        rw [run, hwords]
      have hsources : sourcesOf words = [] := by
        rw [sourcesOf, hwords]
      refine ⟨.inl ?_, ?_, ?_⟩
      · rw [hrun, hsources]
        cases stop with
        | usage => exact absurd hwords h
        | version => exact ⟨rfl, rfl, nofun⟩
        | help => exact ⟨rfl, rfl, nofun⟩
      · intro input _
        rw [hrun, hrun]
      · intro request hrequest
        cases hrequest
  | ok request =>
      have hrun : ∀ env, run env words = request.run env := by
        intro env
        rw [run, hwords]
      have hsources : sourcesOf words = request.sources := by
        rw [sourcesOf, hwords]
      rw [hsources]
      refine ⟨?_, ?_, ?_⟩
      · rw [hrun]
        rcases run_cases env request with
          hgood | ⟨front, bad, later, failure, hsplit, hfront, hbad, hleft⟩
        · exact .inl hgood
        · exact .inr ⟨front, bad, later, failure, hsplit, hfront, hbad, hleft, fix_ne_empty failure⟩
      · intro input hinput
        rw [hrun, hrun, Request.run, Request.run, perform_of_input_not_mem hinput]
      · intro request' hrequest
        cases hrequest
        refine ⟨input_mem_sources_iff request, ?_⟩
        intro hother source hsource
        have hcommand : request.command.sources = [] := by
          cases hcommand : request.command with
          | render templates vars assignments =>
              exact absurd hcommand (hother templates vars assignments)
          | parse template => rfl
          | processors => rfl
        rw [Request.sources, hcommand, List.append_nil] at hsource
        rcases List.mem_map.mp hsource with ⟨path, hpath, rfl⟩
        exact ⟨path, Option.mem_toList.mp hpath, rfl⟩

/-- The file with values is missing, an assignment has no name and standard input is no
text. Only the file is reported. -/
theorem run_reports_first_failure_missing :
    let env : Environment := {
      files := fun _ => .error .missing
      input := ⟨#[0xff]⟩
      colour := false
      now := ⟨0, 0, 0⟩ }
    let words := ["render", "-s", "=x", "--vars", "v.json"]
    Request.ofWords words ≠ .error .usage ∧
      sourcesOf words = [.vars "v.json", .assignment "=x", .input] ∧
      run env words = {
        code := 1
        output := ""
        errors := "Error: Cannot read 'v.json': No such file or directory (os error 2)\n" ++
          "  Fix: Check file path and permissions\n" } := by
  intro env words
  have hwords : Request.ofWords words = .ok ⟨none, .render [] (some "v.json") ["=x"]⟩ := rfl
  have haccepted : Request.ofWords words ≠ .error .usage := by
    rw [hwords]
    nofun
  have hsources : sourcesOf words = [.vars "v.json", .assignment "=x", .input] := by
    rw [sourcesOf, hwords]
    rfl
  have hmissing : Source.failure? env (.vars "v.json") =
      some (.unreadableFile "v.json" "No such file or directory (os error 2)") := rfl
  refine ⟨haccepted, hsources, ?_⟩
  rcases (run_reports_first_failure env haccepted).1 with
    ⟨-, -, hgood⟩ | ⟨front, bad, later, failure, hsplit, hfront, hbad, hrun, -⟩
  · have hnone := hgood (.vars "v.json") (by rw [hsources]; simp)
    rw [hmissing] at hnone
    cases hnone
  · rw [hsources] at hsplit
    -- nothing good stands in front of the file
    cases front with
    | nil =>
        obtain ⟨rfl, -⟩ := List.cons.inj hsplit
        rw [hmissing] at hbad
        cases hbad
        rw [hrun]
        rfl
    | cons source front =>
        obtain ⟨rfl, -⟩ := List.cons.inj hsplit
        have hnone := hfront _ List.mem_cons_self
        rw [hmissing] at hnone
        cases hnone

end Placeholder.CommandLine
