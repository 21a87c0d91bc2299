/-!
Tables: finite maps from texts, held as the list of their entries in strictly increasing order of
the keys. The order makes the form of a table unique, so two tables are equal exactly when they
answer every look-up alike, whatever the order in which their entries were written. The order of
texts is that of their code points, which is also that of their UTF-8 bytes.
-/

namespace Conveyor

/-- The entries of a table stand in increasing order of their keys. -/
def Ascending {α : Type} (entries : List (String × α)) : Prop :=
  entries.Pairwise fun a b => a.1 < b.1

/-- A finite map from texts. -/
structure Table (α : Type) where
  entries : List (String × α)
  ascending : Ascending entries

namespace Table

variable {α : Type}

/-- Writes an entry into a list of entries, over an earlier one of the same key. -/
def put (key : String) (value : α) : List (String × α) → List (String × α)
  | [] => [(key, value)]
  | entry :: rest =>
    if key < entry.1 then (key, value) :: entry :: rest
    else if key = entry.1 then (key, value) :: rest
    else entry :: put key value rest

/-- The value of a key in a list of entries. -/
def find (key : String) : List (String × α) → Option α
  | [] => none
  | entry :: rest => if entry.1 = key then some entry.2 else find key rest

theorem lt_of_not_lt_of_ne {a b : String} (notLess : ¬ a < b) (differ : a ≠ b) : b < a :=
  Std.lt_of_le_of_ne (String.not_lt.mp notLess) (Ne.symm differ)

theorem mem_put {key : String} {value : α} {entry : String × α} {entries : List (String × α)}
    (member : entry ∈ put key value entries) : entry = (key, value) ∨ entry ∈ entries := by
  induction entries with
  | nil => simp only [put, List.mem_singleton] at member; exact .inl member
  | cons first rest ih =>
    simp only [put] at member
    split at member
    · simpa using member
    · split at member
      · rcases List.mem_cons.mp member with same | old
        · exact .inl same
        · exact .inr (List.mem_cons_of_mem _ old)
      · rcases List.mem_cons.mp member with same | old
        · exact .inr (same ▸ List.mem_cons_self)
        · exact (ih old).imp id (List.mem_cons_of_mem _)

/-- Writing keeps the order. -/
theorem ascending_put (key : String) (value : α) {entries : List (String × α)}
    (sorted : Ascending entries) : Ascending (put key value entries) := by
  induction entries with
  | nil => simp [put, Ascending]
  | cons first rest ih =>
    obtain ⟨head, tail⟩ := List.pairwise_cons.mp sorted
    simp only [put]
    split
    · next less =>
      refine List.pairwise_cons.mpr ⟨fun entry member => ?_, sorted⟩
      rcases List.mem_cons.mp member with same | later
      · exact same ▸ less
      · exact String.lt_trans less (head entry later)
    · next notLess =>
      split
      · next same =>
        exact List.pairwise_cons.mpr ⟨fun entry member => same ▸ head entry member, tail⟩
      · next differ =>
        refine List.pairwise_cons.mpr ⟨fun entry member => ?_, ih tail⟩
        rcases mem_put member with same | old
        · exact same ▸ lt_of_not_lt_of_ne notLess differ
        · exact head entry old

/-- The table without entries. -/
def empty : Table α := ⟨[], List.Pairwise.nil⟩

instance : Inhabited (Table α) := ⟨empty⟩

/-- Writes an entry, over an earlier one of the same key. -/
def insert (table : Table α) (key : String) (value : α) : Table α :=
  ⟨put key value table.entries, ascending_put key value table.ascending⟩

/-- The value of a key. -/
def get? (table : Table α) (key : String) : Option α :=
  find key table.entries

/-- Whether a key has a value. -/
def contains (table : Table α) (key : String) : Bool :=
  (table.get? key).isSome

/-- The keys, in increasing order. -/
def keys (table : Table α) : List String :=
  table.entries.map (·.1)

/-- Whether there are no entries. -/
def isEmpty (table : Table α) : Bool :=
  table.entries.isEmpty

/-- The table written by a list of entries from left to right: the last one of a key remains. -/
def ofList (entries : List (String × α)) : Table α :=
  entries.foldl (fun table entry => table.insert entry.1 entry.2) empty

theorem ext {a b : Table α} (same : a.entries = b.entries) : a = b := by
  cases a; cases b; simp_all

instance [DecidableEq α] : DecidableEq (Table α) := fun a b =>
  decidable_of_iff (a.entries = b.entries) ⟨ext, fun same => same ▸ rfl⟩

instance [Repr α] : Repr (Table α) := ⟨fun table prec => reprPrec table.entries prec⟩

theorem find_put_self (key : String) (value : α) (entries : List (String × α)) :
    find key (put key value entries) = some value := by
  induction entries with
  | nil => simp [put, find]
  | cons first rest ih =>
    simp only [put]
    split
    · simp [find]
    · split
      · simp [find]
      · next differ => simp [find, Ne.symm differ, ih]

theorem find_put_of_ne {key other : String} (differ : other ≠ key) (value : α)
    (entries : List (String × α)) : find other (put key value entries) = find other entries := by
  induction entries with
  | nil => simp [put, find, Ne.symm differ]
  | cons first rest ih =>
    simp only [put]
    split
    · simp [find, Ne.symm differ]
    · split
      · next same => simp [find, ← same, Ne.symm differ]
      · simp [find, ih]

/-- A value that is found stands in the entries under its key. -/
theorem mem_of_find {key : String} {value : α} {entries : List (String × α)}
    (found : find key entries = some value) : (key, value) ∈ entries := by
  induction entries with
  | nil => cases found
  | cons entry rest ih =>
    rw [find] at found
    split at found
    · next same =>
      cases found
      exact same ▸ List.mem_cons_self
    · exact List.mem_cons_of_mem _ (ih found)

/-- A key has no value just if it is none of the keys. -/
theorem find_eq_none_iff {key : String} {entries : List (String × α)} :
    find key entries = none ↔ key ∉ entries.map (·.1) := by
  induction entries with
  | nil => simp [find]
  | cons entry rest ih =>
    rw [find]
    split
    · next same => simp [same]
    · next differ => simpa [Ne.symm differ] using ih

/-- A written key has the written value. -/
@[simp] theorem get?_insert_self (table : Table α) (key : String) (value : α) :
    (table.insert key value).get? key = some value :=
  find_put_self key value table.entries

/-- Writing one key leaves the others alone. -/
theorem get?_insert_of_ne (table : Table α) {key other : String} (differ : other ≠ key)
    (value : α) : (table.insert key value).get? other = table.get? other :=
  find_put_of_ne differ value table.entries

@[simp] theorem get?_empty (key : String) : (empty : Table α).get? key = none := rfl

/-- An entry behind a table in order is where writing would put it. -/
theorem put_back {key : String} {value : α} {entries : List (String × α)}
    (last : ∀ entry ∈ entries, entry.1 < key) :
    put key value entries = entries ++ [(key, value)] := by
  induction entries with
  | nil => rfl
  | cons entry rest ih =>
    obtain ⟨before, others⟩ := List.forall_mem_cons.mp last
    have notLess : ¬key < entry.1 := String.lt_asymm before
    have differ : key ≠ entry.1 := fun same => String.lt_irrefl key (same ▸ before)
    simp [put, notLess, differ, ih others]

/-- Entries in order are the entries of the table that they write. -/
theorem entries_ofList {entries : List (String × α)} (sorted : Ascending entries) :
    (ofList entries).entries = entries := by
  have written : ∀ (rest : List (String × α)) (table : Table α), Ascending (table.entries ++ rest) →
      (rest.foldl (fun table entry => table.insert entry.1 entry.2) table).entries =
        table.entries ++ rest := by
    intro rest
    induction rest with
    | nil => simp
    | cons entry rest ih =>
      intro table sorted
      have last : ∀ earlier ∈ table.entries, earlier.1 < entry.1 := fun earlier member =>
        (List.pairwise_append.mp sorted).2.2 earlier member entry List.mem_cons_self
      have grown : (table.insert entry.1 entry.2).entries = table.entries ++ [entry] := put_back last
      rw [List.foldl_cons, ih _ (by simpa [grown] using sorted), grown, List.append_assoc]
      rfl
  exact written entries empty sorted

/-- A table is what its entries write. -/
theorem ofList_entries (table : Table α) : ofList table.entries = table :=
  ext (entries_ofList table.ascending)

end Table

end Conveyor
