/-! # Tables

A finite table from names to entries. Setting an entry replaces the one with the
same name in place, or adds it at the end, so each name occurs once and the
entries keep the order in which their names were first set.

A table is seen through `find?`: `find?_insert_self` and `find?_insert_of_ne`
say what setting an entry does to it.
-/

namespace Placeholder

/-- A finite table from names to entries. -/
structure Table (α : Type) where
  entries : List (String × α) := []
deriving Repr

namespace Table

variable {α : Type}

/-- The table without entries. -/
def empty : Table α := ⟨[]⟩

/-- The entry of a name. -/
def find? (t : Table α) (name : String) : Option α := t.entries.lookup name

/-- Whether the table has an entry of this name. -/
def contains (t : Table α) (name : String) : Bool := (t.find? name).isSome

/-- The number of entries. -/
def size (t : Table α) : Nat := t.entries.length

/-- A list of entries with one entry set. -/
def insertEntry (name : String) (entry : α) : List (String × α) → List (String × α)
  | [] => [(name, entry)]
  | (n, e) :: rest =>
      if n = name then (name, entry) :: rest else (n, e) :: insertEntry name entry rest

/-- The table with one entry set. -/
def insert (t : Table α) (name : String) (entry : α) : Table α :=
  ⟨insertEntry name entry t.entries⟩

/-- The table that a list of entries gives, later ones winning. -/
def ofList (entries : List (String × α)) : Table α :=
  entries.foldl (fun t (name, entry) => t.insert name entry) empty

@[simp] theorem find?_empty (name : String) : (empty : Table α).find? name = none := rfl

@[simp] theorem find?_insert_self (t : Table α) (name : String) (entry : α) :
    (t.insert name entry).find? name = some entry := by
  unfold find? insert
  generalize t.entries = entries
  induction entries with
  | nil => simp [insertEntry]
  | cons head rest ih =>
      obtain ⟨n, e⟩ := head
      by_cases h : n = name
      · simp [insertEntry, h]
      · have h' : (name == n) = false := by simpa using fun hn => h hn.symm
        simpa [insertEntry, h, List.lookup_cons, h'] using ih

theorem find?_insert_of_ne (t : Table α) {name other : String} (entry : α)
    (hne : other ≠ name) : (t.insert name entry).find? other = t.find? other := by
  unfold find? insert
  generalize t.entries = entries
  have hbeq : (other == name) = false := by simpa using hne
  induction entries with
  | nil => simp [insertEntry, List.lookup_cons, hbeq]
  | cons head rest ih =>
      obtain ⟨n, e⟩ := head
      by_cases h : n = name
      · subst h
        simp [insertEntry, List.lookup_cons, hbeq]
      · by_cases ho : (other == n) = true
        · simp [insertEntry, h, List.lookup_cons, ho]
        · have ho' : (other == n) = false := by simpa using ho
          simpa [insertEntry, h, List.lookup_cons, ho'] using ih

/-- An entry with a new name comes last. -/
theorem entries_insert_of_missing {t : Table α} {name : String} (h : t.find? name = none)
    (entry : α) : (t.insert name entry).entries = t.entries ++ [(name, entry)] := by
  unfold find? at h
  unfold insert
  generalize t.entries = entries at h ⊢
  induction entries with
  | nil => rfl
  | cons head rest ih =>
      obtain ⟨n, e⟩ := head
      by_cases hn : n = name
      · simp [hn] at h
      · have hne : (name == n) = false := by simpa using fun heq => hn heq.symm
        rw [List.lookup_cons, hne] at h
        simpa [insertEntry, hn] using ih h

end Table

end Placeholder
