import Mathlib.Data.List.Nodup
import Placeholder.Proofs.Engine.Invocations
import Placeholder.Proofs.Text

/-! # The views of a registry

A processor can be reached by its name in four ways: a registry can be asked whether it knows
the name, for the processor with this name, for one use of it, and for the list of all its
processors. The first three look into the table of registered processors and then among those
that are always there. The list is built from both, by setting one entry after another in a
list that is in order.

All of them show the same. `Registry.Chosen` says which processor a name stands for after some
registrations, without a table and without a list, and each view is compared with it.

* `Table.find?_foldl_insert`: setting entries in a table.
* `lookup_foldl_insertSorted`, `sorted_foldl_insertSorted`: setting entries in a sorted list.
* `lookup_listing`: the list has under every name what the name stands for.
* `find?_registerAll_iff`: the registration that counts is the last one.
* `views_agree`: the four views.
-/

namespace Placeholder

/-! ## Lists of named entries -/

section Entries

variable {α : Type} {l : List (String × α)}

theorem lookup_cons_eq_if (e : String × α) (l : List (String × α)) (name : String) :
    (e :: l).lookup name = if name = e.1 then some e.2 else l.lookup name := by
  rw [List.lookup_cons]
  split
  · next h => rw [if_pos (beq_iff_eq.mp h)]
  · next h => rw [if_neg (beq_eq_false_iff_ne.mp h)]

theorem lookup_isSome_iff_mem {name : String} :
    (l.lookup name).isSome ↔ name ∈ l.map Prod.fst := by
  rw [List.lookup_isSome_iff, List.mem_map]
  constructor
  · rintro ⟨p, hp, heq⟩
    exact ⟨p, hp, (beq_iff_eq.mp heq).symm⟩
  · rintro ⟨p, hp, heq⟩
    exact ⟨p, hp, beq_iff_eq.mpr heq.symm⟩

/-- Under distinct names an entry is found under its name. -/
theorem lookup_eq_some_iff_mem (h : (l.map Prod.fst).Nodup) {name : String} {entry : α} :
    l.lookup name = some entry ↔ (name, entry) ∈ l := by
  constructor
  · intro hlookup
    rcases List.lookup_eq_some_iff.mp hlookup with ⟨front, back, rfl, -⟩
    exact List.mem_append_cons_self
  · intro hmem
    rcases List.append_of_mem hmem with ⟨front, back, rfl⟩
    refine List.lookup_eq_some_iff.mpr ⟨front, back, rfl, ?_⟩
    intro p hp
    -- an earlier entry with this name would be a second one
    rw [List.map_append, List.map_cons, List.nodup_append] at h
    have hne : p.1 ≠ name := h.2.2 p.1 (List.mem_map_of_mem hp) name List.mem_cons_self
    exact bne_iff_ne.mpr hne.symm

/-- Under distinct names the order of the entries does not matter. -/
theorem lookup_reverse (h : (l.map Prod.fst).Nodup) (name : String) :
    l.reverse.lookup name = l.lookup name := by
  have hreverse : (l.reverse.map Prod.fst).Nodup := by
    rw [List.map_reverse, List.nodup_reverse]
    exact h
  apply Option.ext
  intro entry
  rw [lookup_eq_some_iff_mem hreverse, lookup_eq_some_iff_mem h, List.mem_reverse]

/-- Looking from the end finds the last entry with a name. -/
theorem lookup_reverse_eq_some_iff {name : String} {entry : α} :
    l.reverse.lookup name = some entry ↔
      ∃ front back, l = front ++ (name, entry) :: back ∧ name ∉ back.map Prod.fst := by
  rw [List.lookup_eq_some_iff]
  constructor
  · rintro ⟨back, front, hreverse, hback⟩
    refine ⟨front.reverse, back.reverse, ?_, ?_⟩
    · rw [← List.reverse_reverse l, hreverse]
      simp
    · intro hmem
      rcases List.mem_map.mp hmem with ⟨e, he, heq⟩
      exact bne_iff_ne.mp (hback e (List.mem_reverse.mp he)) heq.symm
  · rintro ⟨front, back, rfl, hback⟩
    refine ⟨back.reverse, front.reverse, by simp, ?_⟩
    intro e he
    apply bne_iff_ne.mpr
    rintro rfl
    exact hback (List.mem_map_of_mem (List.mem_reverse.mp he))

end Entries

namespace Table

variable {α : Type}

/-- Setting an entry adds its name at the end, unless it is there already. -/
theorem map_fst_insert (t : Table α) (name : String) (entry : α) :
    (t.insert name entry).entries.map Prod.fst =
      if name ∈ t.entries.map Prod.fst then t.entries.map Prod.fst
      else t.entries.map Prod.fst ++ [name] := by
  unfold insert
  generalize t.entries = entries
  induction entries with
  | nil => rfl
  | cons head rest ih =>
      obtain ⟨n, e⟩ := head
      by_cases hn : n = name
      · simp [insertEntry, hn]
      · have hne : name ≠ n := fun h => hn h.symm
        rw [insertEntry, if_neg hn, List.map_cons, ih]
        by_cases hmem : name ∈ rest.map Prod.fst
        · have hmem' : name ∈ ((n, e) :: rest).map Prod.fst := List.mem_cons_of_mem n hmem
          rw [if_pos hmem, if_pos hmem', List.map_cons]
        · have hmem' : name ∉ ((n, e) :: rest).map Prod.fst :=
            List.not_mem_cons_of_ne_of_not_mem hne hmem
          rw [if_neg hmem, if_neg hmem', List.map_cons, List.cons_append]

/-- Setting an entry keeps the names distinct. -/
theorem nodup_insert {t : Table α} (h : (t.entries.map Prod.fst).Nodup) (name : String)
    (entry : α) : ((t.insert name entry).entries.map Prod.fst).Nodup := by
  rw [map_fst_insert]
  split
  · exact h
  · next hmem =>
      rw [List.nodup_append]
      refine ⟨h, List.nodup_singleton name, ?_⟩
      intro other hother name' hname' heq
      rw [List.mem_singleton.mp hname'] at heq
      exact hmem (heq ▸ hother)

theorem nodup_foldl_insert {t : Table α} (h : (t.entries.map Prod.fst).Nodup)
    (l : List (String × α)) :
    ((l.foldl (fun t e => t.insert e.1 e.2) t).entries.map Prod.fst).Nodup := by
  induction l generalizing t with
  | nil => exact h
  | cons e l ih => exact ih (nodup_insert h e.1 e.2)

/-- Of several entries with a name the one that is set last counts. -/
theorem find?_foldl_insert (t : Table α) (l : List (String × α)) (name : String) :
    (l.foldl (fun t e => t.insert e.1 e.2) t).find? name =
      (l.reverse.lookup name).or (t.find? name) := by
  induction l generalizing t with
  | nil => rfl
  | cons e l ih =>
      have hset : (t.insert e.1 e.2).find? name = ([e].lookup name).or (t.find? name) := by
        rw [lookup_cons_eq_if]
        split
        · next heq =>
            rw [heq, find?_insert_self]
            rfl
        · next hne => exact find?_insert_of_ne _ _ hne
      rw [List.foldl_cons, ih, hset, List.reverse_cons, List.lookup_append, Option.or_assoc]

end Table

namespace Builtin

theorem ofName?_eq_some_iff {n : String} {b : Builtin} : ofName? n = some b ↔ b.name = n := by
  constructor
  · intro h
    have hname := List.find?_some h
    exact beq_iff_eq.mp hname
  · rintro rfl
    cases b <;> rfl

/-- The names are distinct, so a list with an entry for each of these processors has its own
entry under every name. -/
theorem lookup_all {α : Type} (entry : Builtin → α) (n : String) :
    (all.map fun b => (b.name, entry b)).lookup n = (ofName? n).map entry := by
  unfold ofName?
  induction all with
  | nil => rfl
  | cons b bs ih =>
      rw [List.map_cons, List.lookup_cons, List.find?_cons, ih, BEq.comm]
      split
      · rfl
      · rfl

end Builtin

namespace Registry

open Text (utf8Bytes)

/-! ## Sorted lists -/

section Sorted

variable {α : Type} {l : List (String × α)}

/-- The names of a list are in strict order. -/
def Sorted (l : List (String × α)) : Prop := (l.map Prod.fst).Pairwise (· < ·)

theorem Sorted.nodup (h : Sorted l) : (l.map Prod.fst).Nodup := by
  apply h.imp
  intro a b hab heq
  rw [heq] at hab
  exact String.lt_irrefl b hab

theorem mem_map_insertSorted {name other : String} {entry : α} :
    other ∈ (insertSorted name entry l).map Prod.fst ↔
      other = name ∨ other ∈ l.map Prod.fst := by
  induction l with
  | nil => simp [insertSorted]
  | cons head rest ih =>
      obtain ⟨n, e⟩ := head
      unfold insertSorted
      split
      · simp
      · split
        · next heq => simp [heq]
        · rw [List.map_cons, List.mem_cons, ih, List.map_cons, List.mem_cons]
          exact or_left_comm

/-- Setting an entry keeps the names in order. -/
theorem Sorted.insertSorted (h : Sorted l) (name : String) (entry : α) :
    Sorted (insertSorted name entry l) := by
  unfold Sorted at h ⊢
  induction l with
  | nil => exact List.pairwise_singleton _ _
  | cons head rest ih =>
      obtain ⟨n, e⟩ := head
      rw [List.map_cons, List.pairwise_cons] at h
      unfold Registry.insertSorted
      split
      · next hlt =>
          -- the name stands in front of the first one, and so in front of all
          rw [List.map_cons, List.map_cons, List.pairwise_cons, List.pairwise_cons]
          refine ⟨?_, h⟩
          intro other hother
          rcases List.mem_cons.mp hother with rfl | hother
          · exact hlt
          · exact String.lt_trans hlt (h.1 other hother)
      · next hnlt =>
          split
          · next heq =>
              rw [List.map_cons, List.pairwise_cons, heq]
              exact h
          · next hne =>
              have hgt : n < name := by
                by_contra hn
                exact hne (String.le_antisymm (String.not_lt.mp hn) (String.not_lt.mp hnlt))
              rw [List.map_cons, List.pairwise_cons]
              refine ⟨?_, ih h.2⟩
              intro other hother
              rcases mem_map_insertSorted.mp hother with rfl | hother
              · exact hgt
              · exact h.1 other hother

/-- Setting an entry sets what is found under its name, and under no other. -/
theorem lookup_insertSorted (name : String) (entry : α) (other : String) :
    (insertSorted name entry l).lookup other =
      if other = name then some entry else l.lookup other := by
  induction l with
  | nil => exact lookup_cons_eq_if _ _ _
  | cons head rest ih =>
      obtain ⟨n, e⟩ := head
      unfold insertSorted
      split
      · exact lookup_cons_eq_if _ _ _
      · split
        · next heq =>
            rw [lookup_cons_eq_if, lookup_cons_eq_if, heq]
            split
            · rfl
            · rfl
        · next hne =>
            rw [lookup_cons_eq_if, lookup_cons_eq_if, ih]
            -- the entries of two names are found independently of each other
            by_cases h : other = n
            · have hother : other ≠ name := fun heq => hne (heq.symm.trans h)
              rw [if_pos h, if_neg hother, if_pos h]
            · rw [if_neg h, if_neg h]

/-- Entries that are set one after another: the last one with a name counts. -/
theorem lookup_foldl_insertSorted (entries : List (String × α)) (name : String) :
    (entries.foldl (fun l e => insertSorted e.1 e.2 l) l).lookup name =
      (entries.reverse.lookup name).or (l.lookup name) := by
  induction entries generalizing l with
  | nil => rfl
  | cons e entries ih =>
      have hset : (insertSorted e.1 e.2 l).lookup name = ([e].lookup name).or (l.lookup name) := by
        rw [lookup_insertSorted, ← lookup_cons_eq_if, ← List.lookup_append]
        rfl
      rw [List.foldl_cons, ih, hset, List.reverse_cons, List.lookup_append, Option.or_assoc]

theorem sorted_foldl_insertSorted (h : Sorted l) (entries : List (String × α)) :
    Sorted (entries.foldl (fun l e => insertSorted e.1 e.2 l) l) := by
  induction entries generalizing l with
  | nil => exact h
  | cons e entries ih => exact ih (h.insertSorted e.1 e.2)

end Sorted

/-! ## The list of all processors -/

/-- The processors that are always there, with their names. -/
def builtins (r : Registry) : List (String × Processor) :=
  Builtin.all.map fun b => (b.name, r.builtin b)

theorem listing_eq (r : Registry) :
    r.listing = (r.builtins ++ r.custom.entries).foldl (fun l e => insertSorted e.1 e.2 l) [] := by
  rw [List.foldl_append, builtins, List.foldl_map]
  rfl

theorem sorted_listing (r : Registry) : Sorted r.listing := by
  have hnil : Sorted ([] : List (String × Processor)) := List.Pairwise.nil
  rw [listing_eq]
  exact sorted_foldl_insertSorted hnil _

/-- The list has under every name the processor that the name stands for. -/
theorem lookup_listing {r : Registry} (h : (r.custom.entries.map Prod.fst).Nodup)
    (name : String) : r.listing.lookup name = r.find? name := by
  have hbuiltins : (r.builtins.map Prod.fst).Nodup := by
    have hnames : r.builtins.map Prod.fst = Builtin.all.map Builtin.name := by
      rw [builtins, List.map_map]
      rfl
    rw [hnames]
    decide
  have hknown : r.builtins.lookup name = (Builtin.ofName? name).map r.builtin :=
    Builtin.lookup_all r.builtin name
  rw [listing_eq, lookup_foldl_insertSorted, List.reverse_append, List.lookup_append,
    lookup_reverse h, lookup_reverse hbuiltins, hknown, List.lookup_nil, Option.or_none]
  rfl

/-! ## Registrations -/

/-- A registry after some registrations, the earliest one first. -/
def registerAll (r : Registry) (registrations : List (String × Processor)) : Registry :=
  registrations.foldl (fun r e => r.register e.1 e.2) r

section Registrations

variable {registrations : List (String × Processor)}

/-- Registrations touch nothing but the table of registered processors. -/
theorem registerAll_eq (r : Registry) (registrations : List (String × Processor)) :
    r.registerAll registrations =
      { r with custom := registrations.foldl (fun t e => t.insert e.1 e.2) r.custom } := by
  unfold registerAll
  induction registrations generalizing r with
  | nil => rfl
  | cons e registrations ih => exact ih (r.register e.1 e.2)

theorem nodup_registerAll {r : Registry} (h : (r.custom.entries.map Prod.fst).Nodup)
    (registrations : List (String × Processor)) :
    ((r.registerAll registrations).custom.entries.map Prod.fst).Nodup := by
  rw [registerAll_eq]
  exact Table.nodup_foldl_insert h registrations

theorem custom_registerAll (r : Registry) (registrations : List (String × Processor))
    (name : String) :
    (r.registerAll registrations).custom.find? name =
      (registrations.reverse.lookup name).or (r.custom.find? name) := by
  rw [registerAll_eq]
  exact Table.find?_foldl_insert r.custom registrations name

/-- The processor that a name stands for after some registrations. -/
inductive Chosen (config : Config) (now : Moment) (registrations : List (String × Processor)) :
    String → Processor → Prop
  /-- The one that was registered under this name, and under which none was registered
  afterwards. -/
  | registered {front back : List (String × Processor)} {name : String} {p : Processor}
      (h : registrations = front ++ (name, p) :: back) (hlast : name ∉ back.map Prod.fst) :
      Chosen config now registrations name p
  /-- The one that is always there, with the settings of the configuration, if none was
  registered. -/
  | builtin {b : Builtin} (h : b.name ∉ registrations.map Prod.fst) :
      Chosen config now registrations b.name
        ⟨.fallible fun _ use => b.run config now use.value use.args, []⟩

/-- The registration that counts is the last one, and a name under which none was made
stands for what is always there. -/
theorem find?_registerAll_iff {config : Config} {now : Moment} {name : String}
    {p : Processor} :
    ((Registry.new config now).registerAll registrations).find? name = some p ↔
      Chosen config now registrations name p := by
  -- the table has the registrations in order, so the last one is the first of the reversed list
  have hcustom : ((Registry.new config now).registerAll registrations).custom.find? name =
      registrations.reverse.lookup name := by
    rw [custom_registerAll]
    exact Option.or_none
  have hbuiltin : ((Registry.new config now).registerAll registrations).builtin =
      (Registry.new config now).builtin := by
    rw [registerAll_eq]
    rfl
  rw [find?, hcustom, hbuiltin, Option.or_eq_some_iff]
  constructor
  · rintro (hlast | ⟨hnone, hknown⟩)
    · rcases lookup_reverse_eq_some_iff.mp hlast with ⟨front, back, h, hback⟩
      exact .registered h hback
    · rcases Option.map_eq_some_iff.mp hknown with ⟨b, hb, rfl⟩
      rw [← Builtin.ofName?_eq_some_iff.mp hb] at hnone ⊢
      refine .builtin ?_
      intro hmem
      rw [← List.mem_reverse, ← List.map_reverse, ← lookup_isSome_iff_mem, hnone] at hmem
      cases hmem
  · intro h
    cases h with
    | registered h hback => exact .inl (lookup_reverse_eq_some_iff.mpr ⟨_, _, h, hback⟩)
    | @builtin b hmem =>
        refine .inr ⟨?_, ?_⟩
        · rw [← Option.not_isSome_iff_eq_none, lookup_isSome_iff_mem, List.map_reverse,
            List.mem_reverse]
          exact hmem
        · rw [Builtin.ofName?_eq_some_iff.mpr rfl]
          rfl

end Registrations

/-! ## The views -/

/-- What a call of a processor gives that was found under a name: its text, and the registry
behind the call. -/
def call (r : Registry) (name : String) (p : Processor) (use : Use) : String × Registry :=
  ((p.run use).text, r.record name (p.run use))

theorem mem_names_iff {r : Registry} (h : (r.custom.entries.map Prod.fst).Nodup)
    (name : String) : name ∈ r.names ↔ (r.find? name).isSome := by
  rw [names, ← lookup_isSome_iff_mem, lookup_listing h]

theorem contains_eq (r : Registry) (name : String) :
    r.contains name = (r.find? name).isSome := by
  rw [contains, find?, Option.isSome_or, Option.isSome_map]
  rfl

/-- A name stands for some processor if it is one of the six, or if something was registered
under it. -/
theorem exists_chosen_iff (config : Config) (now : Moment)
    {registrations : List (String × Processor)} {name : String} :
    (∃ p, Chosen config now registrations name p) ↔
      name ∈ ["date", "upper", "lower", "capitalize", "currency", "number"] ∨
        name ∈ registrations.map Prod.fst := by
  have hsix : ["date", "upper", "lower", "capitalize", "currency", "number"] =
      Builtin.all.map Builtin.name := rfl
  rw [hsix]
  constructor
  · rintro ⟨p, h⟩
    cases h with
    | registered h hlast =>
        right
        rw [h, List.map_append, List.map_cons]
        exact List.mem_append_cons_self
    | @builtin b h => exact .inl (List.mem_map_of_mem (by cases b <;> decide))
  · intro h
    by_cases hregistered : name ∈ registrations.map Prod.fst
    · rw [← List.mem_reverse, ← List.map_reverse, ← lookup_isSome_iff_mem,
        Option.isSome_iff_exists] at hregistered
      rcases hregistered with ⟨p, hp⟩
      rcases lookup_reverse_eq_some_iff.mp hp with ⟨front, back, hsplit, hlast⟩
      exact ⟨p, .registered hsplit hlast⟩
    · rcases List.mem_map.mp (h.resolve_right hregistered) with ⟨b, -, rfl⟩
      exact ⟨_, .builtin hregistered⟩

/-- **The views of a registry agree.** After any registrations:

* the names are in the strict order of their bytes, so each of them occurs once, and they are
  the six that are always there and those that were registered;
* a name is among them exactly if the registry contains it, has a processor for it, answers a
  use of it and lists it;
* the processor that is found and the one that is listed is the one chosen: the last one
  registered under the name, or else the one that is always there. Using the name is calling
  this processor;
* such a call gives what the processor gives, counts the failure if it fails, is remembered by
  the processor if it is a registered one, and changes nothing else. -/
theorem views_agree (config : Config) (now : Moment)
    (registrations : List (String × Processor)) :
    let r := (Registry.new config now).registerAll registrations
    r.names.Pairwise (fun a b => utf8Bytes a < utf8Bytes b) ∧
    (∀ name, name ∈ r.names ↔
      name ∈ ["date", "upper", "lower", "capitalize", "currency", "number"] ∨
        name ∈ registrations.map Prod.fst) ∧
    (∀ name, (r.contains name = true ↔ name ∈ r.names) ∧
      ((r.find? name).isSome ↔ name ∈ r.names) ∧
      (∀ use, (r.apply name use).isSome ↔ name ∈ r.names) ∧
      ((r.listing.lookup name).isSome ↔ name ∈ r.names)) ∧
    (∀ name p, (r.find? name = some p ↔ Chosen config now registrations name p) ∧
      ((name, p) ∈ r.listing ↔ Chosen config now registrations name p)) ∧
    (∀ name use result, r.apply name use = some result ↔
      ∃ p, Chosen config now registrations name p ∧ r.call name p use = result) ∧
    ∀ name p use, Chosen config now registrations name p →
      (∃ failed, p.Gives use failed (r.call name p use).1 ∧
        (r.call name p use).2.failures = r.failures + if failed then 1 else 0) ∧
      r.Follows (r.call name p use).2 [⟨name, p, use⟩] := by
  intro r
  -- everything is brought back to `find?`: the names and the listing through the distinct
  -- names of the table, a use through its definition
  have hdistinct : (r.custom.entries.map Prod.fst).Nodup :=
    nodup_registerAll (r := Registry.new config now) List.nodup_nil registrations
  have hnames := mem_names_iff hdistinct
  have hfind : ∀ name p, r.find? name = some p ↔ Chosen config now registrations name p :=
    fun name p => find?_registerAll_iff
  refine ⟨?_, ?_, ?_, ?_, ?_, ?_⟩
  · exact r.sorted_listing.imp Text.utf8Bytes_lt
  · intro name
    rw [hnames, Option.isSome_iff_exists, ← exists_chosen_iff config now]
    exact exists_congr (hfind name)
  · intro name
    refine ⟨?_, (hnames name).symm, ?_, ?_⟩
    · rw [contains_eq, hnames]
    · intro use
      rw [apply, Option.isSome_map, hnames]
    · rw [lookup_listing hdistinct, hnames]
  · intro name p
    refine ⟨hfind name p, ?_⟩
    rw [← lookup_eq_some_iff_mem r.sorted_listing.nodup, lookup_listing hdistinct]
    exact hfind name p
  · intro name use result
    rw [apply, Option.map_eq_some_iff]
    exact exists_congr fun p => and_congr_left' (hfind name p)
  · intro name p use h
    have hfollows : r.Follows (r.call name p use).2 [⟨name, p, use⟩] :=
      follows_after (i := ⟨name, p, use⟩) ((hfind name p).mpr h)
    refine ⟨⟨_, p.run_gives use, ?_⟩, hfollows⟩
    rw [hfollows.failures, List.countP_singleton]
    rfl

/-- A processor is registered as `upper` and then another one, which fails; `é` comes behind
all that are always there, though it is one character long. -/
theorem views_agree_hidden :
    let keeps : Processor := ⟨.infallible fun _ use => use.value, []⟩
    let fails : Processor := ⟨.fallible fun _ use => .error (.notANumber use.value), []⟩
    let registrations := [("upper", keeps), ("é", keeps), ("upper", fails)]
    let r := (Registry.new {} ⟨0, 0, 0⟩).registerAll registrations
    Chosen {} ⟨0, 0, 0⟩ registrations "upper" fails ∧
      r.names = ["capitalize", "currency", "date", "lower", "number", "upper", "é"] ∧
      r.Follows (r.call "upper" fails ⟨"x", none⟩).2 [⟨"upper", fails, ⟨"x", none⟩⟩] := by
  intro keeps fails registrations r
  have hlast : registrations = [("upper", keeps), ("é", keeps)] ++ ("upper", fails) :: [] := rfl
  have hchosen : Chosen {} ⟨0, 0, 0⟩ registrations "upper" fails :=
    .registered hlast List.not_mem_nil
  have hviews := views_agree {} ⟨0, 0, 0⟩ registrations
  exact ⟨hchosen, by decide +kernel, (hviews.2.2.2.2.2 "upper" fails ⟨"x", none⟩ hchosen).2⟩

end Registry

end Placeholder
