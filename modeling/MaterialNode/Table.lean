import MaterialNode.SortKey

/-!
# Tables with Ascending Keys

A table maps keys to values and lists them by ascending key. A key occurs once: inserting
at a present key replaces its value, so the last insertion at a key is the one that
counts.
-/

namespace MaterialNode

/-- A finite map from keys to values, listed by ascending key. -/
structure Table (κ ν : Type) [SortKey κ] where
  /-- The keys with their values. -/
  entries : List (κ × ν)
  /-- Each key comes before all that follow it. -/
  ascending : entries.Pairwise fun a b => SortKey.before a.1 b.1 = true
  deriving DecidableEq

namespace Table

variable {κ ν : Type} [SortKey κ]

/-- The list `entries` with `value` stored at `key`. -/
def insertEntry (key : κ) (value : ν) : List (κ × ν) → List (κ × ν)
  | [] => [(key, value)]
  | entry :: rest =>
    if SortKey.before entry.1 key then entry :: insertEntry key value rest
    else if SortKey.before key entry.1 then (key, value) :: entry :: rest
    else (key, value) :: rest

/-- An inserted entry is the new one or an old one. -/
theorem mem_insertEntry {key : κ} {value : ν} {entries : List (κ × ν)} {entry : κ × ν}
    (h : entry ∈ insertEntry key value entries) : entry = (key, value) ∨ entry ∈ entries := by
  induction entries with
  | nil => simpa [insertEntry] using h
  | cons first rest ih =>
    simp only [insertEntry] at h
    split at h
    · rcases List.mem_cons.1 h with rfl | h
      · simp
      · rcases ih h with rfl | h <;> simp_all
    · split at h <;> simp only [List.mem_cons] at h ⊢ <;> grind

/-- Insertion keeps the keys ascending. -/
theorem insertEntry_ascending (key : κ) (value : ν) {entries : List (κ × ν)}
    (h : entries.Pairwise fun a b => SortKey.before a.1 b.1 = true) :
    (insertEntry key value entries).Pairwise fun a b => SortKey.before a.1 b.1 = true := by
  induction entries with
  | nil => simp [insertEntry]
  | cons first rest ih =>
    obtain ⟨hfirst, hrest⟩ := List.pairwise_cons.1 h
    simp only [insertEntry]
    split
    · rename_i hlt
      refine List.pairwise_cons.2 ⟨fun entry hentry => ?_, ih hrest⟩
      rcases mem_insertEntry hentry with rfl | hentry
      · exact hlt
      · exact hfirst entry hentry
    · rename_i hge
      split
      · rename_i hlt
        refine List.pairwise_cons.2 ⟨fun entry hentry => ?_, h⟩
        rcases List.mem_cons.1 hentry with rfl | hentry
        · exact hlt
        · exact SortKey.trans hlt (hfirst entry hentry)
      · rename_i hle
        have heq : first.1 = key :=
          SortKey.connected (by simpa using hge) (by simpa using hle)
        refine List.pairwise_cons.2 ⟨fun entry hentry => ?_, hrest⟩
        simpa [heq] using hfirst entry hentry

/-- The table without entries. -/
def empty : Table κ ν := ⟨[], List.Pairwise.nil⟩

instance : Inhabited (Table κ ν) := ⟨empty⟩

/-- `table` with `value` stored at `key`, in place of any value stored there. -/
def insert (table : Table κ ν) (key : κ) (value : ν) : Table κ ν :=
  ⟨insertEntry key value table.entries, insertEntry_ascending key value table.ascending⟩

/-- The table of a list of insertions, the first one first. -/
def ofList (insertions : List (κ × ν)) : Table κ ν :=
  insertions.foldl (fun table entry => table.insert entry.1 entry.2) empty

/-- The value stored at `key` in a list of entries. -/
def find? (key : κ) : List (κ × ν) → Option ν
  | [] => none
  | entry :: rest =>
    if SortKey.before entry.1 key || SortKey.before key entry.1 then find? key rest
    else some entry.2

/-- The value stored at `key`. -/
def get? (table : Table κ ν) (key : κ) : Option ν := find? key table.entries

/-- The number of keys. -/
def size (table : Table κ ν) : Nat := table.entries.length

/-- Whether the table has no entries. -/
def isEmpty (table : Table κ ν) : Bool := table.entries.isEmpty

/-- Tables with the same entries are equal. -/
theorem ext {first second : Table κ ν} (h : first.entries = second.entries) :
    first = second := by
  cases first
  cases second
  simp_all

/-- A key holds the value of the first entry with this key. -/
theorem find?_cons [DecidableEq κ] (key : κ) (entry : κ × ν) (rest : List (κ × ν)) :
    find? key (entry :: rest) = if entry.1 = key then some entry.2 else find? key rest := by
  rw [find?, SortKey.before_or_before]
  by_cases heq : entry.1 = key <;> simp [heq]

/-- After an insertion the key holds the inserted value, and other keys what they held. -/
theorem find?_insertEntry [DecidableEq κ] (key other : κ) (value : ν)
    (entries : List (κ × ν)) :
    find? other (insertEntry key value entries)
      = if other = key then some value else find? other entries := by
  induction entries with
  | nil =>
    rw [insertEntry, find?_cons]
    simp only [eq_comm]
  | cons first rest ih =>
    simp only [insertEntry]
    split
    · rename_i hlt
      have hne : first.1 ≠ key := by
        intro heq
        simp [heq, SortKey.irrefl] at hlt
      rw [find?_cons, find?_cons, ih]
      by_cases hother : first.1 = other
      · simp [hother, hother ▸ hne]
      · simp [hother]
    · split
      · rw [find?_cons]
        simp only [eq_comm]
      · rename_i hge hle
        have heq : first.1 = key := SortKey.connected (by simpa using hge) (by simpa using hle)
        rw [find?_cons, find?_cons, heq]
        by_cases hother : key = other <;> simp [hother, eq_comm]

/-- After an insertion the key holds the inserted value, and other keys what they held. -/
theorem get?_insert [DecidableEq κ] (table : Table κ ν) (key other : κ) (value : ν) :
    (table.insert key value).get? other = if other = key then some value else table.get? other :=
  find?_insertEntry key other value table.entries

/-- What a key holds in a list of ascending entries is listed with it. -/
theorem find?_eq_some_iff {key : κ} {value : ν} {entries : List (κ × ν)}
    (h : entries.Pairwise fun a b => SortKey.before a.1 b.1 = true) :
    find? key entries = some value ↔ (key, value) ∈ entries := by
  classical
  induction entries with
  | nil => simp [find?]
  | cons first rest ih =>
    obtain ⟨hfirst, hrest⟩ := List.pairwise_cons.1 h
    obtain ⟨place, held⟩ := first
    rw [find?_cons, List.mem_cons, ← ih hrest]
    by_cases hkey : place = key
    · subst hkey
      have hnot : (place, value) ∉ rest := fun hmem => by
        simpa [SortKey.irrefl] using hfirst _ hmem
      simp [ih hrest, hnot, eq_comm]
    · simp [hkey, Ne.symm hkey]

/-- The entries of a table are the keys with what they hold. -/
theorem mem_entries_iff {table : Table κ ν} {key : κ} {value : ν} :
    (key, value) ∈ table.entries ↔ table.get? key = some value :=
  (find?_eq_some_iff table.ascending).symm

/-- Storing what a key holds changes nothing. -/
theorem insert_eq_self {table : Table κ ν} {key : κ} {value : ν}
    (h : table.get? key = some value) : table.insert key value = table := by
  obtain ⟨entries, hascending⟩ := table
  apply ext
  show insertEntry key value entries = entries
  have hlisted : (key, value) ∈ entries := mem_entries_iff.2 h
  clear h
  induction entries with
  | nil => cases hlisted
  | cons first rest ih =>
    obtain ⟨hfirst, hrest⟩ := List.pairwise_cons.1 hascending
    rw [insertEntry]
    rcases List.mem_cons.1 hlisted with rfl | hlisted
    · simp [SortKey.irrefl]
    · rw [if_pos (hfirst _ hlisted), ih hrest hlisted]

end Table
end MaterialNode
