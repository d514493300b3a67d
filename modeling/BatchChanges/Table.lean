import BatchChanges.Id

/-! # Tables of rows in ascending order of identifier

A table holds at most one row per identifier and lists its rows by ascending identifier. Because
the order is part of the type, two tables are equal as soon as they answer every look-up alike
(`Table.ext_find?`), and a set of identifiers is a table without contents (`IdSet`).
-/

namespace BatchChanges

/-- Rows by ascending identifier. -/
structure Table (kind : Kind) (α : Type) where
  entries : List (Id kind × α)
  ascending : entries.Pairwise fun earlier later => earlier.1 < later.1
deriving DecidableEq

namespace Table

variable {kind : Kind} {α : Type}

def lookup (id : Id kind) : List (Id kind × α) → Option α
  | [] => none
  | entry :: rest => if entry.1 = id then some entry.2 else lookup id rest

/-- Puts a row at its place, in the stead of a row with the same identifier. -/
def place (id : Id kind) (row : α) : List (Id kind × α) → List (Id kind × α)
  | [] => [(id, row)]
  | entry :: rest =>
    if id < entry.1 then (id, row) :: entry :: rest
    else if id = entry.1 then (id, row) :: rest
    else entry :: place id row rest

theorem mem_place {id : Id kind} {row : α} {entries : List (Id kind × α)} {entry : Id kind × α}
    (member : entry ∈ place id row entries) : entry = (id, row) ∨ entry ∈ entries := by
  induction entries with
  | nil => simpa [place] using member
  | cons head rest ih =>
    simp only [place] at member
    split at member
    · simpa using member
    · split at member
      · rcases List.mem_cons.mp member with same | member
        · exact .inl same
        · exact .inr (List.mem_cons_of_mem _ member)
      · rcases List.mem_cons.mp member with same | member
        · exact .inr (same ▸ List.mem_cons_self)
        · exact (ih member).imp (fun same => same) (List.mem_cons_of_mem _)

theorem ascending_place {id : Id kind} {row : α} {entries : List (Id kind × α)}
    (ascending : entries.Pairwise fun earlier later => earlier.1 < later.1) :
    (place id row entries).Pairwise fun earlier later => earlier.1 < later.1 := by
  induction entries with
  | nil => simp [place]
  | cons head rest ih =>
    have below := (List.pairwise_cons.mp ascending).1
    simp only [place]
    split
    · next less =>
      refine List.pairwise_cons.mpr ⟨fun entry member => ?_, ascending⟩
      rcases List.mem_cons.mp member with same | member
      · exact same ▸ less
      · exact Id.lt_trans less (below entry member)
    · next notLess =>
      split
      · next same =>
        exact List.pairwise_cons.mpr
          ⟨fun entry member => same ▸ below entry member, (List.pairwise_cons.mp ascending).2⟩
      · next different =>
        refine List.pairwise_cons.mpr
          ⟨fun entry member => ?_, ih (List.pairwise_cons.mp ascending).2⟩
        rcases mem_place member with same | member
        · subst same
          rcases Id.lt_or_eq_or_gt id head.1 with less | same | greater
          · exact absurd less notLess
          · exact absurd same different
          · exact greater
        · exact below entry member

def empty : Table kind α := ⟨[], .nil⟩

instance : EmptyCollection (Table kind α) := ⟨empty⟩

instance : Inhabited (Table kind α) := ⟨empty⟩

/-- The row with identifier `id`, if there is one. -/
def find? (table : Table kind α) (id : Id kind) : Option α := lookup id table.entries

/-- Whether a row has identifier `id`. -/
def contains (table : Table kind α) (id : Id kind) : Bool := (table.find? id).isSome

/-- Stores `row` under `id` and replaces what was there. -/
def insert (table : Table kind α) (id : Id kind) (row : α) : Table kind α :=
  ⟨place id row table.entries, ascending_place table.ascending⟩

/-- Removes the row with identifier `id`, if there is one. -/
def erase (table : Table kind α) (id : Id kind) : Table kind α :=
  ⟨table.entries.filter fun entry => entry.1 ≠ id, table.ascending.filter _⟩

/-- Revises every row, whose identifier may be looked at but stays. -/
def mapWithId {β : Type} (table : Table kind α) (revise : Id kind → α → β) : Table kind β :=
  ⟨table.entries.map fun entry => (entry.1, revise entry.1 entry.2),
    List.pairwise_map.mpr table.ascending⟩

/-- Revises every row and keeps its identifier. -/
def map {β : Type} (table : Table kind α) (revise : α → β) : Table kind β :=
  table.mapWithId fun _ => revise

def filter (table : Table kind α) (keep : Id kind → α → Bool) : Table kind α :=
  ⟨table.entries.filter fun entry => keep entry.1 entry.2, table.ascending.filter _⟩

/-- The rows by ascending identifier. -/
def rows (table : Table kind α) : List α := table.entries.map (·.2)

/-- The identifiers in ascending order. -/
def ids (table : Table kind α) : List (Id kind) := table.entries.map (·.1)

def size (table : Table kind α) : Nat := table.entries.length

def isEmpty (table : Table kind α) : Bool := table.entries.isEmpty

theorem lookup_eq_some_iff {id : Id kind} {row : α} {entries : List (Id kind × α)}
    (ascending : entries.Pairwise fun earlier later => earlier.1 < later.1) :
    lookup id entries = some row ↔ (id, row) ∈ entries := by
  induction entries with
  | nil => simp [lookup]
  | cons head rest ih =>
    have below := (List.pairwise_cons.mp ascending).1
    rw [lookup, List.mem_cons]
    split
    · next same =>
      subst same
      constructor
      · rintro ⟨⟩
        exact .inl rfl
      · rintro (same | member)
        · rw [← same]
        · exact absurd (below _ member) (Id.lt_irrefl _)
    · next different =>
      rw [ih (List.pairwise_cons.mp ascending).2]
      constructor
      · exact .inr
      · rintro (same | member)
        · exact absurd (congrArg Prod.fst same).symm different
        · exact member

/-- Look-up finds exactly the entries of the table. -/
theorem find?_eq_some_iff {table : Table kind α} {id : Id kind} {row : α} :
    table.find? id = some row ↔ (id, row) ∈ table.entries :=
  lookup_eq_some_iff table.ascending

@[simp] theorem find?_empty (id : Id kind) : (empty : Table kind α).find? id = none := rfl

theorem lookup_place (id other : Id kind) (row : α) (entries : List (Id kind × α))
    (ascending : entries.Pairwise fun earlier later => earlier.1 < later.1) :
    lookup other (place id row entries) =
      if id = other then some row else lookup other entries := by
  induction entries with
  | nil => simp [place, lookup]
  | cons head rest ih =>
    have below := (List.pairwise_cons.mp ascending).1
    simp only [place]
    split
    · rw [lookup]
    · split
      · next same =>
        subst same
        by_cases found : head.1 = other <;> simp [lookup, found]
      · next different =>
        rw [lookup, ih (List.pairwise_cons.mp ascending).2, lookup]
        by_cases found : head.1 = other
        · subst found
          simp [different]
        · simp [found]

/-- A stored row is found under its identifier, every other look-up stays as it was. -/
@[simp] theorem find?_insert (table : Table kind α) (id other : Id kind) (row : α) :
    (table.insert id row).find? other = if id = other then some row else table.find? other :=
  lookup_place id other row table.entries table.ascending

theorem find?_insert_eq_some {table : Table kind α} {id other : Id kind} {row found : α} :
    (table.insert id row).find? other = some found ↔
      id = other ∧ row = found ∨ id ≠ other ∧ table.find? other = some found := by
  rw [find?_insert]
  split <;> simp [*]

/-- A removed row is not found, every other look-up stays as it was. -/
@[simp] theorem find?_erase (table : Table kind α) (id other : Id kind) :
    (table.erase id).find? other = if id = other then none else table.find? other := by
  have reduced : ∀ entries : List (Id kind × α),
      lookup other (entries.filter fun entry => entry.1 ≠ id) =
        if id = other then none else lookup other entries := by
    intro entries
    induction entries with
    | nil => simp [lookup]
    | cons head rest ih =>
      by_cases gone : head.1 = id
      · rw [List.filter_cons_of_neg (by simp [gone]), ih, lookup]
        by_cases same : id = other <;> simp [gone, same]
      · rw [List.filter_cons_of_pos (by simp [gone]), lookup, ih, lookup]
        by_cases found : head.1 = other
        · subst found
          simp [Ne.symm gone]
        · simp [found]
  exact reduced table.entries

theorem find?_erase_eq_some {table : Table kind α} {id other : Id kind} {found : α} :
    (table.erase id).find? other = some found ↔ id ≠ other ∧ table.find? other = some found := by
  rw [find?_erase]
  split <;> simp [*]

/-- Revising the rows revises what a look-up finds. -/
@[simp] theorem find?_mapWithId {β : Type} (table : Table kind α) (revise : Id kind → α → β)
    (id : Id kind) : (table.mapWithId revise).find? id = (table.find? id).map (revise id) := by
  have reduced : ∀ entries : List (Id kind × α),
      lookup id (entries.map fun entry => (entry.1, revise entry.1 entry.2)) =
        (lookup id entries).map (revise id) := by
    intro entries
    induction entries with
    | nil => rfl
    | cons head rest ih =>
      by_cases found : head.1 = id
      · subst found
        simp [lookup]
      · simp [lookup, found, ih]
  exact reduced table.entries

@[simp] theorem find?_map {β : Type} (table : Table kind α) (revise : α → β) (id : Id kind) :
    (table.map revise).find? id = (table.find? id).map revise :=
  find?_mapWithId table (fun _ => revise) id

/-- The rows that a filter keeps are found as before. -/
@[simp] theorem find?_filter (table : Table kind α) (keep : Id kind → α → Bool) (id : Id kind) :
    (table.filter keep).find? id = (table.find? id).filter (keep id) := by
  have member : ∀ row, (table.filter keep).find? id = some row ↔
      (table.find? id).filter (keep id) = some row := by
    intro row
    rw [find?_eq_some_iff, Option.filter_eq_some_iff, find?_eq_some_iff]
    simp [filter, and_comm]
  cases found : (table.filter keep).find? id with
  | some row => exact ((member row).mp found).symm
  | none =>
    cases other : (table.find? id).filter (keep id) with
    | none => rfl
    | some row => exact absurd ((member row).mpr other) (by simp [found])

theorem contains_iff {table : Table kind α} {id : Id kind} :
    table.contains id = true ↔ ∃ row, table.find? id = some row := by
  simp [contains, Option.isSome_iff_exists]

/-- A row is listed exactly when some look-up finds it. -/
theorem mem_rows_iff {table : Table kind α} {row : α} :
    row ∈ table.rows ↔ ∃ id, table.find? id = some row := by
  simp [rows, find?_eq_some_iff]

/-- An identifier is listed exactly when its look-up finds a row. -/
theorem mem_ids_iff {table : Table kind α} {id : Id kind} :
    id ∈ table.ids ↔ ∃ row, table.find? id = some row := by
  simp [ids, find?_eq_some_iff]

theorem ext_entries {left right : Table kind α} (same : left.entries = right.entries) :
    left = right := by
  cases left
  cases right
  cases same
  rfl

/-- Tables that answer every look-up alike are equal. -/
theorem ext_find? {left right : Table kind α} (same : ∀ id, left.find? id = right.find? id) :
    left = right := by
  refine ext_entries ?_
  have members : ∀ entry, entry ∈ left.entries ↔ entry ∈ right.entries := by
    rintro ⟨id, row⟩
    rw [← find?_eq_some_iff, ← find?_eq_some_iff, same id]
  have distinct : ∀ table : Table kind α, table.entries.Nodup := fun table =>
    table.ascending.imp fun {earlier later} less (same : earlier = later) =>
      Id.ne_of_lt less (congrArg Prod.fst same)
  have permuted := (List.perm_ext_iff_of_nodup (distinct left) (distinct right)).mpr members
  exact permuted.eq_of_pairwise
    (fun _ _ _ _ less greater => absurd (Id.lt_trans less greater) (Id.lt_irrefl _))
    left.ascending right.ascending

end Table

/-- A set of identifiers, listed in ascending order. -/
abbrev IdSet (kind : Kind) := Table kind Unit

namespace IdSet

variable {kind : Kind}

def add (set : IdSet kind) (id : Id kind) : IdSet kind := set.insert id ()

def ofList (ids : List (Id kind)) : IdSet kind := ids.foldl add Table.empty

theorem contains_add (set : IdSet kind) (id other : Id kind) :
    (set.add id).contains other = (decide (id = other) || set.contains other) := by
  by_cases same : id = other <;> simp [add, Table.contains, same]

theorem contains_erase (set : IdSet kind) (id other : Id kind) :
    Table.contains (set.erase id) other = (decide (id ≠ other) && set.contains other) := by
  by_cases same : id = other <;> simp [Table.contains, same]

/-- Sets with the same members are equal. -/
theorem ext_contains {left right : IdSet kind}
    (same : ∀ id, left.contains id = right.contains id) : left = right := by
  refine Table.ext_find? fun id => ?_
  have := same id
  simp only [Table.contains] at this
  cases found : left.find? id <;> cases other : right.find? id <;> simp_all

end IdSet

end BatchChanges
