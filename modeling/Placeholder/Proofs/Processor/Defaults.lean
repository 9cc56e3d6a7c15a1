import Placeholder.Proofs.Calendar.Pattern
import Placeholder.Proofs.Money.Format
import Placeholder.Proofs.Number.Range

/-! # Defaults and arguments

What a processor uses where a tag gives no argument comes from the configuration, and the check of
a configuration is not the one that arguments go through. The two agree: with a configuration that
was checked, a processor without arguments does what it does when it is given its defaults as
arguments (`run_none`, `defaults_act_as_arguments`).

A processor sees of its arguments what stands at a few positions. Where an empty argument counts as
not given, it can be replaced by the default (`run_set_default`), which is never empty itself; the
separators of `number` are taken as they are.
-/

namespace Placeholder

/-! ## Configurations that were checked -/

/-- What a check ensures about the defaults of the processors. -/
structure Config.Checked (c : Config) : Prop where
  pattern_ne : c.date.pattern ≠ ""
  locale : ∃ rules, Locale.find? c.money.locale = some rules
  code : ∃ currency, Currency.ofCode? c.money.code = some currency
  decimals : c.number.decimals ≤ Number.maxDecimals

theorem Currency.exists_ofCode? {code : String} (h : Currency.isCode code = true) :
    ∃ currency, Currency.ofCode? code = some currency := by
  rw [Currency.ofCode?, if_pos h]
  exact ⟨_, rfl⟩

theorem Config.checked_of_validate {c c' : Config} (h : c.validate = .ok c') : c.Checked := by
  have hnone : c.problem? = none := by
    unfold Config.validate at h
    split at h
    · cases h
    · assumption
  unfold Config.problem? at hnone
  split_ifs at hnone with hempty hpattern hlocale hcode hdecimals
  constructor
  · intro hpattern
    exact hempty (String.isEmpty_iff.mpr hpattern)
  · rw [Option.isNone_iff_eq_none] at hlocale
    exact Option.ne_none_iff_exists'.mp hlocale
  · rw [Bool.not_eq_true', Bool.not_eq_false] at hcode
    exact Currency.exists_ofCode? hcode
  · exact Nat.le_of_not_lt hdecimals

namespace Config.Checked

variable {c : Config}

theorem locale_ne (h : c.Checked) : c.money.locale ≠ "" := by
  obtain ⟨rules, hrules⟩ := h.locale
  intro hempty
  rw [hempty, Locale.find?_empty] at hrules
  cases hrules

theorem code_ne (h : c.Checked) : c.money.code ≠ "" := by
  obtain ⟨currency, hcurrency⟩ := h.code
  intro hempty
  rw [hempty, Currency.ofCode?_empty] at hcurrency
  cases hcurrency

end Config.Checked

namespace Builtin

/-! ## What is seen of arguments -/

/-- The defaults of a processor, written as its arguments. -/
def defaultArguments (config : Config) : Builtin → List String
  | .date => [config.date.pattern]
  | .currency => [config.money.locale, config.money.code]
  | .number => [toString config.number.decimals, config.number.point, config.number.separator]
  | .upper | .lower | .capitalize => []

/-- The number of decimals that the processor `number` uses. -/
def usedDecimals (defaults : NumberDefaults) (args : Arguments) : Except Processor.Error Nat :=
  match filledArgument? args 0 with
  | some argument => decimalsOf argument
  | none => .ok defaults.decimals

variable {args args' : Arguments} {list : List String} {index : Nat}

theorem runDate_congr {defaults : DateDefaults}
    (h : (filledArgument? args 0).getD defaults.pattern =
      (filledArgument? args' 0).getD defaults.pattern) (now : Moment) (value : String) :
    runDate defaults now value args = runDate defaults now value args' := by
  unfold runDate
  rw [h]

theorem runCurrency_congr {defaults : MoneyDefaults}
    (hlocale : (filledArgument? args 0).getD defaults.locale =
      (filledArgument? args' 0).getD defaults.locale)
    (hcode : (filledArgument? args 1).getD defaults.code =
      (filledArgument? args' 1).getD defaults.code) (value : String) :
    runCurrency defaults value args = runCurrency defaults value args' := by
  unfold runCurrency
  rw [hlocale, hcode]

theorem runNumber_eq_usedDecimals (defaults : NumberDefaults) (value : String) (args : Arguments) :
    runNumber defaults value args = (do
      let amount ← Number.parse value
      let decimals ← usedDecimals defaults args
      Number.format amount decimals ((argument? args 1).getD defaults.point)
        ((argument? args 2).getD defaults.separator)) := by
  unfold runNumber usedDecimals
  cases Number.parse value with
  | error e => rfl
  | ok amount =>
      cases filledArgument? args 0 with
      | none => rfl
      | some argument => rfl

theorem runNumber_congr {defaults : NumberDefaults}
    (hdecimals : usedDecimals defaults args = usedDecimals defaults args')
    (hpoint : (argument? args 1).getD defaults.point = (argument? args' 1).getD defaults.point)
    (hseparator : (argument? args 2).getD defaults.separator =
      (argument? args' 2).getD defaults.separator) (value : String) :
    runNumber defaults value args = runNumber defaults value args' := by
  rw [runNumber_eq_usedDecimals, runNumber_eq_usedDecimals, hdecimals, hpoint, hseparator]

theorem filledArgument?_of_empty (h : list[index]? = some "") :
    filledArgument? (some list) index = none := by
  rw [filledArgument?, argument?, Option.bind_some, h]
  rfl

/-- Setting an argument does not change what stands at other positions. -/
theorem argument?_set_of_ne {other : Nat} (h : index ≠ other) (argument : String) :
    argument? (some (list.set index argument)) other = argument? (some list) other := by
  rw [argument?, argument?, Option.bind_some, Option.bind_some, List.getElem?_set_ne h]

theorem filledArgument?_set_of_ne {other : Nat} (h : index ≠ other) (argument : String) :
    filledArgument? (some (list.set index argument)) other = filledArgument? (some list) other := by
  rw [filledArgument?, filledArgument?, argument?_set_of_ne h]

theorem filledArgument?_set_self (h : index < list.length) {argument : String}
    (hne : argument ≠ "") :
    filledArgument? (some (list.set index argument)) index = some argument :=
  filledArgument?_of_ne (List.getElem?_set_self h) hne

/-- An empty argument and the default in its place are the same to a reader of any position. -/
theorem getD_filledArgument?_set {setting : String} (hempty : list[index]? = some "")
    (hne : setting ≠ "") (position : Nat) (default : String)
    (hsetting : index = position → setting = default) :
    (filledArgument? (some list) position).getD default =
      (filledArgument? (some (list.set index setting)) position).getD default := by
  by_cases hposition : index = position
  · subst hposition
    obtain ⟨hlength, -⟩ := List.getElem?_eq_some_iff.mp hempty
    rw [filledArgument?_of_empty hempty, filledArgument?_set_self hlength hne, hsetting rfl]
    rfl
  · rw [filledArgument?_set_of_ne hposition]

/-! ## Defaults in the place of arguments -/

variable {config : Config}

theorem usedDecimals_toString (defaults : NumberDefaults) {decimals : Nat}
    (h : decimals ≤ Number.maxDecimals) (hargument : list[0]? = some (toString decimals)) :
    usedDecimals defaults (some list) = .ok decimals := by
  obtain ⟨hdecimals, hne⟩ := decimalsOf_toString h
  rw [usedDecimals, filledArgument?_of_ne hargument hne]
  exact hdecimals

/-- Without arguments a processor does what it does with its defaults as arguments. -/
theorem run_none (h : config.Checked) (now : Moment) (b : Builtin) (value : String) :
    run config now b value none = run config now b value (some (b.defaultArguments config)) := by
  cases b with
  | date =>
      apply runDate_congr
      rw [filledArgument?_of_ne rfl h.pattern_ne]
      rfl
  | currency =>
      apply runCurrency_congr
      · rw [filledArgument?_of_ne rfl h.locale_ne]
        rfl
      · rw [filledArgument?_of_ne rfl h.code_ne]
        rfl
  | number =>
      show runNumber config.number value none = runNumber config.number value _
      apply runNumber_congr
      · rw [usedDecimals_toString config.number h.decimals rfl]
        rfl
      · rfl
      · rfl
  | upper => rfl
  | lower => rfl
  | capitalize => rfl

/-- A default is not empty, unless it is a separator. -/
theorem default_ne_empty (h : config.Checked) {b : Builtin} {setting : String}
    (hsetting : (b.defaultArguments config)[index]? = some setting)
    (hnumber : b = .number → index = 0) : setting ≠ "" := by
  have hmem := List.mem_of_getElem? hsetting
  cases b with
  | date =>
      rw [List.mem_singleton.mp hmem]
      exact h.pattern_ne
  | currency =>
      rcases List.mem_pair.mp hmem with rfl | rfl
      · exact h.locale_ne
      · exact h.code_ne
  | number =>
      obtain rfl := hnumber rfl
      cases hsetting
      exact (decimalsOf_toString h.decimals).2
  | upper => cases hmem
  | lower => cases hmem
  | capitalize => cases hmem

/-- An empty argument can be replaced by the default at its position, unless it is a separator. -/
theorem run_set_default (h : config.Checked) (now : Moment) {b : Builtin} (value : String)
    {setting : String} (hempty : list[index]? = some "")
    (hsetting : (b.defaultArguments config)[index]? = some setting)
    (hnumber : b = .number → index = 0) :
    run config now b value (some list) =
      run config now b value (some (list.set index setting)) := by
  have hsame := getD_filledArgument?_set hempty (default_ne_empty h hsetting hnumber)
  -- each processor reads its arguments through a few functions, and these do not see the change
  cases b with
  | date =>
      apply runDate_congr
      apply hsame
      rintro rfl
      cases hsetting
      rfl
  | currency =>
      apply runCurrency_congr
      · apply hsame
        rintro rfl
        cases hsetting
        rfl
      · apply hsame
        rintro rfl
        cases hsetting
        rfl
  | number =>
      obtain rfl := hnumber rfl
      obtain ⟨hlength, -⟩ := List.getElem?_eq_some_iff.mp hempty
      cases hsetting
      show runNumber config.number value _ = runNumber config.number value _
      apply runNumber_congr
      · rw [usedDecimals_toString config.number h.decimals (List.getElem?_set_self hlength),
          usedDecimals, filledArgument?_of_empty hempty]
      · rw [argument?_set_of_ne Nat.zero_ne_one]
      · rw [argument?_set_of_ne (by omega)]
  | upper => rfl
  | lower => rfl
  | capitalize => rfl

/-! ## Separators -/

/-- A separator of a number is what stands at its position, empty or not. -/
theorem runNumber_of_empty_separator (defaults : NumberDefaults) (value : String)
    (list : List String) :
    (list[1]? = some "" → runNumber defaults value (some list) = do
      let amount ← Number.parse value
      let decimals ← usedDecimals defaults (some list)
      Number.format amount decimals "" (list[2]?.getD defaults.separator)) ∧
    (list[2]? = some "" → runNumber defaults value (some list) = do
      let amount ← Number.parse value
      let decimals ← usedDecimals defaults (some list)
      Number.format amount decimals (list[1]?.getD defaults.point) "") := by
  have hgiven : ∀ position, argument? (some list) position = list[position]? :=
    fun position => Option.bind_some list (·[position]?)
  rw [runNumber_eq_usedDecimals, hgiven, hgiven]
  constructor
  · intro hpoint
    rw [hpoint]
    rfl
  · intro hseparator
    rw [hseparator]
    rfl

/-! ## Results -/

/-- The results that a processor of amounts can have with a number of decimals. -/
inductive AmountResult (value : String) (decimals : ℕ) : Except Processor.Error String → Prop
  /-- The value is no number. -/
  | unread (hvalue : Number.parse value = .error (.notANumber value)) :
      AmountResult value decimals (.error (.notANumber value))
  /-- The units of the amount are too large for binary64. -/
  | beyond {negative : Bool} {x : Magnitude} {reason : String}
      (hvalue : Number.parse value = .ok (.finite negative x))
      (hunits : Magnitude.limit ≤ x.value * 10 ^ decimals) :
      AmountResult value decimals (.error (.unwritable reason))
  /-- The amount is written. -/
  | written {negative : Bool} {x : Magnitude} {text : String}
      (hvalue : Number.parse value = .ok (.finite negative x))
      (hunits : x.value * 10 ^ decimals < Magnitude.limit) :
      AmountResult value decimals (.ok text)

/-- A value that is not read is reported as it is. -/
theorem parse_eq_error {value : String} {e : Processor.Error} (h : Number.parse value = .error e) :
    e = .notANumber value := by
  unfold Number.parse at h
  split at h
  · split at h
    · cases h
    · cases h
      rfl
  · cases h
    rfl

/-- A processor that reads a number and goes on with it. -/
theorem amountResult_bind {value : String} {decimals : ℕ}
    {f : Binary64 → Except Processor.Error String}
    (h : ∀ negative x, (x.value * 10 ^ decimals < Magnitude.limit ∧
        ∃ text, f (.finite negative x) = .ok text) ∨
      (Magnitude.limit ≤ x.value * 10 ^ decimals ∧
        ∃ reason, f (.finite negative x) = .error (.unwritable reason))) :
    AmountResult value decimals (Number.parse value >>= f) := by
  cases hvalue : Number.parse value with
  | error e =>
      obtain rfl := parse_eq_error hvalue
      exact .unread hvalue
  | ok amount =>
      obtain ⟨negative, x, rfl⟩ := Number.exists_finite_of_parse hvalue
      show AmountResult value decimals (f (.finite negative x))
      rcases h negative x with ⟨hunits, text, htext⟩ | ⟨hunits, reason, hreason⟩
      · rw [htext]
        exact .written hvalue hunits
      · rw [hreason]
        exact .beyond hvalue hunits

theorem amountResult_runNumber {defaults : NumberDefaults}
    (h : defaults.decimals ≤ Number.maxDecimals) (value : String) :
    AmountResult value defaults.decimals (runNumber defaults value none) :=
  amountResult_bind fun negative x =>
    Number.format_cases negative x h defaults.point defaults.separator

theorem amountResult_runCurrency {defaults : MoneyDefaults} {rules : Locale} {currency : Currency}
    (hlocale : Locale.find? defaults.locale = some rules)
    (hcode : Currency.ofCode? defaults.code = some currency) (value : String) :
    AmountResult value currency.decimals (runCurrency defaults value none) := by
  have hdecimals : currency.decimals ≤ 20 := by
    have htwo := Currency.decimals_of_ofCode? hcode
    omega
  apply amountResult_bind
  intro negative x
  -- money can be written where the number can
  have hnone := Number.roundTo?_eq_none_iff x hdecimals
  cases hrounded : Number.roundTo? x currency.decimals with
  | none =>
      obtain ⟨-, reason, -, hmoney⟩ :=
        Money.format_of_not_roundTo? hlocale hcode hrounded negative
      exact .inr ⟨hnone.mp hrounded, reason, hmoney⟩
  | some rounded =>
      obtain ⟨sign, unsigned, -, -, -, hmoney⟩ :=
        Money.format_of_roundTo? hlocale hcode hrounded negative
      rw [hrounded] at hnone
      exact .inl ⟨not_le.mp fun hunits => Option.some_ne_none rounded (hnone.mpr hunits), _, hmoney⟩

/-- **Defaults act as arguments.** With a configuration that passes its check, a processor without
arguments does what it does with its defaults as arguments, failures included. An empty argument
does what the default at its position does, except for the separators of `number`, which are
empty if they are given so. Without arguments an amount is not written in two cases only: the
value is no number, or its units, the number times the power of ten of the decimals, are too
large for binary64. -/
theorem defaults_act_as_arguments {config : Config} (h : config.validate = .ok config)
    (now : Moment) (value : String) :
    (∀ b, run config now b value none =
      run config now b value (some (b.defaultArguments config))) ∧
    (∀ b args index setting, args[index]? = some "" →
      (b.defaultArguments config)[index]? = some setting → (b = .number → index = 0) →
      run config now b value (some args) = run config now b value (some (args.set index setting))) ∧
    (∀ args : List String,
      (args[1]? = some "" → run config now .number value (some args) = do
        let amount ← Number.parse value
        let decimals ← usedDecimals config.number (some args)
        Number.format amount decimals "" (args[2]?.getD config.number.separator)) ∧
      (args[2]? = some "" → run config now .number value (some args) = do
        let amount ← Number.parse value
        let decimals ← usedDecimals config.number (some args)
        Number.format amount decimals (args[1]?.getD config.number.point) "")) ∧
    ∃ currency, Currency.ofCode? config.money.code = some currency ∧
      AmountResult value currency.decimals (run config now .currency value none) ∧
      AmountResult value config.number.decimals (run config now .number value none) := by
  -- a configuration that passes its check names a locale and a currency that are known
  have hchecked := Config.checked_of_validate h
  obtain ⟨rules, hlocale⟩ := hchecked.locale
  obtain ⟨currency, hcode⟩ := hchecked.code
  refine ⟨?_, ?_, ?_, currency, hcode, ?_, ?_⟩
  · intro b
    exact run_none hchecked now b value
  · intro b args index setting hempty hsetting hnumber
    exact run_set_default hchecked now value hempty hsetting hnumber
  · intro args
    exact runNumber_of_empty_separator config.number value args
  · exact amountResult_runCurrency hlocale hcode value
  · exact amountResult_runNumber hchecked.decimals value

/-- All arguments are empty: the currency is that of the configuration, and the number has its
decimals but no separators. -/
theorem defaults_act_as_arguments_empty :
    let c : Config :=
      { money := { locale := "de-CH", code := "eur" }, number := { decimals := 2, point := "." } }
    let now : Moment := ⟨0, 0, 0⟩
    c.validate = .ok c ∧
      run c now .currency "-1234567.5" (some ["", ""]) = .ok "-€\u00a01’234’567.50" ∧
      run c now .number "-1234567.5" (some ["", "", ""]) = .ok "-123456750" := by
  intro c now
  have hvalid : c.validate = .ok c := Config.validate_of_problem? (by decide +kernel)
  obtain ⟨hnone, hempty, hseparators, -⟩ := defaults_act_as_arguments hvalid now "-1234567.5"
  refine ⟨hvalid, ?_, ?_⟩
  · have hlocale := hempty .currency ["", ""] 0 "de-CH" rfl rfl nofun
    have hcode := hempty .currency ["de-CH", ""] 1 "eur" rfl rfl nofun
    have hdefaults : run c now .currency "-1234567.5" none = .ok "-€\u00a01’234’567.50" := by
      decide +kernel
    exact hlocale.trans (hcode.trans ((hnone .currency).symm.trans hdefaults))
  · have hdecimals := hempty .number ["", "", ""] 0 (toString 2) rfl rfl fun _ => rfl
    have hkept := (hseparators [toString 2, "", ""]).1 rfl
    exact hdecimals.trans (hkept.trans (by decide +kernel))

end Builtin

end Placeholder
