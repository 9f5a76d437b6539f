import Mathlib.Data.List.Forall2
import Mathlib.Data.List.Nodup
import MaterialNode.Json.Record
import MaterialNode.Proofs.Code.BufferBlocks
import MaterialNode.Proofs.Text.Numeral

/-!
# The Order of Members

The members of an object may be written in any order, and so may those of the objects within it. A reader
is free of this order if it takes a value and its reorderings for the same (`IsOrderFree`). Fields are
looked up by their names, and the entries of a table come by ascending key, so the readers of records and
of maps are free of the order of members as soon as those of the fields and of the entries are. The names
of the members have to be different, since of repeated entries the last one counts.

## Main definitions

* `Value.Reorders`: the members of any objects within a value in another order.
* `Value.hasDistinctNames`: no object within a value repeats a name.
* `IsOrderFree`: readers that take reordered values for the same.

## Main results

* `rel_fields?`: the fields of a record and of a reordering of it.
* `readTable?_congr`: a map and a reordering of it are read as the same table.
-/

namespace MaterialNode

/-! ## Tables with Distinct Keys -/

namespace Table

variable {κ ν : Type} [SortKey κ]

/-- A new key is added to the entries. -/
theorem insertEntry_perm {key : κ} {entries : List (κ × ν)} (h : key ∉ entries.map (·.1))
    (value : ν) : (insertEntry key value entries).Perm ((key, value) :: entries) := by
  induction entries with
  | nil => exact List.Perm.refl _
  | cons first rest ih =>
    rw [List.map_cons, List.mem_cons, not_or] at h
    rw [insertEntry]
    split
    · exact ((ih h.2).cons first).trans (List.Perm.swap ..)
    · rename_i hfirst
      split
      · exact List.Perm.refl _
      · rename_i hkey
        exact absurd (SortKey.connected (by simpa using hkey) (by simpa using hfirst)) h.1

/-- A table of insertions with distinct keys has these as its entries. -/
theorem entries_ofList_perm {insertions : List (κ × ν)} (h : (insertions.map (·.1)).Nodup) :
    (ofList insertions).entries.Perm insertions := by
  induction insertions using List.reverseRecOn with
  | nil => exact List.Perm.refl _
  | append_singleton insertions entry ih =>
    rw [List.map_append, List.map_singleton, List.nodup_append] at h
    obtain ⟨hnodup, -, hnew⟩ := h
    have hperm := ih hnodup
    have hkey : entry.1 ∉ (ofList insertions).entries.map (·.1) := by
      intro hmem
      exact hnew entry.1 ((hperm.map _).mem_iff.1 hmem) entry.1 (List.mem_singleton_self _) rfl
    rw [ofList_append_singleton]
    exact ((insertEntry_perm hkey entry.2).trans (hperm.cons entry)).trans
      (List.perm_append_singleton entry insertions).symm

/-- The order of insertions with distinct keys does not matter. -/
theorem ofList_eq_of_perm {first second : List (κ × ν)} (h : first.Perm second)
    (hnodup : (first.map (·.1)).Nodup) : ofList first = ofList second := by
  have hsecond : (second.map (·.1)).Nodup := (h.map _).nodup_iff.1 hnodup
  apply ext
  -- Ascending entries are determined by which they are.
  refine List.Perm.eq_of_pairwise (fun a b _ _ hab hba => ?_) (ofList first).ascending
    (ofList second).ascending
    (((entries_ofList_perm hnodup).trans h).trans (entries_ofList_perm hsecond).symm)
  rw [SortKey.asymm hab] at hba
  cases hba

end Table

namespace Json

variable {α β κ ν : Type} {name : Text} {members others shuffled : List (Key × Value)}

/-! ## Reordered Values -/

/-- Whether two members have one name and related values. -/
inductive SameName (related : Value → Value → Prop) : Key × Value → Key × Value → Prop where
  /-- The members have one name. -/
  | mk (key : Key) {first second : Value} (h : related first second) :
    SameName related (key, first) (key, second)

namespace Value

/-- `first.Reorders second` holds if the values are the same but for the order of the members of objects:
the members of any object in them, however deep, may come in another order. -/
inductive Reorders : Value → Value → Prop where
  /-- Nothing is reordered. -/
  | same (value : Value) : Reorders value value
  /-- The items of an array are reordered each by itself and keep their places. -/
  | array {items others : List Value} (h : List.Forall₂ Reorders items others) :
    Reorders (.array items) (.array others)
  /-- The values of the members are reordered each by itself, and then the members. -/
  | object {members others shuffled : List (Key × Value)}
    (h : List.Forall₂ (SameName Reorders) members others) (hshuffled : others.Perm shuffled) :
    Reorders (.object members) (.object shuffled)

/-- The names of members, except those that do not consist of characters. -/
def memberNames (members : List (Key × Value)) : List Text :=
  (members.filter fun entry => entry.1.spelling != .broken).map (·.1.text)

mutual

/-- Whether the members of each object in a value have different names. -/
def hasDistinctNames : Value → Bool
  | .null | .bool _ | .number _ | .string _ | .brokenString => true
  | .array items => haveDistinctNames items
  | .object members => decide (memberNames members).Nodup && membersHaveDistinctNames members

/-- Whether this is so in every item of an array. -/
def haveDistinctNames : List Value → Bool
  | [] => true
  | item :: rest => hasDistinctNames item && haveDistinctNames rest

/-- Whether this is so in the value of every member of an object. -/
def membersHaveDistinctNames : List (Key × Value) → Bool
  | [] => true
  | (_, value) :: rest => hasDistinctNames value && membersHaveDistinctNames rest

end

theorem hasDistinctNames_array_iff {items : List Value} :
    (array items).hasDistinctNames = true ↔ ∀ item ∈ items, item.hasDistinctNames = true := by
  rw [hasDistinctNames]
  induction items with
  | nil => simp [haveDistinctNames]
  | cons item items ih => rw [haveDistinctNames, Bool.and_eq_true, ih, List.forall_mem_cons]

theorem hasDistinctNames_object_iff : (object members).hasDistinctNames = true
    ↔ (memberNames members).Nodup ∧ ∀ member ∈ members, member.2.hasDistinctNames = true := by
  have hvalues : membersHaveDistinctNames members = true
      ↔ ∀ member ∈ members, member.2.hasDistinctNames = true := by
    induction members with
    | nil => simp [membersHaveDistinctNames]
    | cons member members ih =>
      rw [membersHaveDistinctNames, Bool.and_eq_true, ih, List.forall_mem_cons]
  rw [hasDistinctNames, Bool.and_eq_true, decide_eq_true_eq, hvalues]

/-- Whether a value is a reordering of one in which the members of each object have different names. -/
structure IsReordering (first second : Value) : Prop where
  /-- The members are reordered. -/
  reorders : first.Reorders second
  /-- Their names are different. -/
  distinct : first.hasDistinctNames = true

variable {first second : Value}

/-- A reordering of an array is an array of reorderings. -/
theorem IsReordering.exists_items {items : List Value} (h : IsReordering (array items) second) :
    ∃ others, second = array others ∧ List.Forall₂ IsReordering items others := by
  obtain ⟨hreorders, hdistinct⟩ := h
  rw [hasDistinctNames_array_iff] at hdistinct
  cases hreorders with
  | same =>
    refine ⟨items, rfl, List.forall₂_same.2 fun item hitem => ?_⟩
    exact ⟨.same item, hdistinct item hitem⟩
  | array hitems =>
    refine ⟨_, rfl, ((List.forall₂_and_left _ _).2 ⟨hdistinct, hitems⟩).imp ?_⟩
    exact fun _ _ hitem => ⟨hitem.2, hitem.1⟩

/-- A reordering of an object is an object with the reordered members in any order. -/
theorem IsReordering.exists_members (h : IsReordering (object members) second) :
    ∃ others shuffled, second = object shuffled ∧ others.Perm shuffled
      ∧ List.Forall₂ (SameName IsReordering) members others ∧ (memberNames members).Nodup := by
  obtain ⟨hreorders, hdistinct⟩ := h
  obtain ⟨hnames, hvalues⟩ := hasDistinctNames_object_iff.1 hdistinct
  cases hreorders with
  | same =>
    refine ⟨members, members, rfl, List.Perm.refl _, List.forall₂_same.2 ?_, hnames⟩
    exact fun member hmember => .mk member.1 ⟨.same member.2, hvalues member hmember⟩
  | object hmembers hshuffled =>
    have hreordered := (List.forall₂_and_left _ _).2 ⟨hvalues, hmembers⟩
    refine ⟨_, _, rfl, hshuffled, hreordered.imp ?_, hnames⟩
    rintro _ _ ⟨hvalue, ⟨key, hreordered⟩⟩
    exact .mk key ⟨hreordered, hvalue⟩

end Value

open Value

/-! ## Names -/

/-- The keys of reordered values are the same. -/
theorem map_key_eq_of_forall₂ {related : Value → Value → Prop}
    (h : List.Forall₂ (SameName related) members others) :
    members.map (·.1) = others.map (·.1) := by
  induction h with
  | nil => rfl
  | cons hmember _ ih =>
    cases hmember
    rw [List.map_cons, List.map_cons, ih]

theorem keysAreSound_eq_all_map (members : List (Key × Value)) :
    keysAreSound members = (members.map (·.1)).all (·.spelling != .broken) := by
  rw [List.all_map]
  rfl

theorem memberCount_eq_countP_map (name : Text) (members : List (Key × Value)) :
    memberCount name members = (members.map (·.1)).countP fun key => decide (key.text = name) := by
  rw [List.countP_map]
  rfl

theorem keysAreSound_eq_of_perm (hkeys : members.map (·.1) = others.map (·.1))
    (hshuffled : others.Perm shuffled) : keysAreSound members = keysAreSound shuffled := by
  rw [keysAreSound_eq_all_map, hkeys, keysAreSound_eq_all_map, (hshuffled.map _).all_eq]

theorem memberCount_eq_of_perm (hkeys : members.map (·.1) = others.map (·.1))
    (hshuffled : others.Perm shuffled) (name : Text) :
    memberCount name members = memberCount name shuffled := by
  rw [memberCount_eq_countP_map, hkeys, memberCount_eq_countP_map, (hshuffled.map _).countP_eq]

/-- If all names consist of characters, then none is left out. -/
theorem memberNames_of_keysAreSound (h : keysAreSound members = true) :
    memberNames members = members.map (·.1.text) := by
  rw [memberNames, List.filter_eq_self.2]
  exact List.all_eq_true.1 h

/-- The place of a member does not matter if no other has its name. -/
theorem member?_eq_of_perm (h : members.Perm shuffled) (hcount : memberCount name members ≤ 1) :
    member? name members = member? name shuffled := by
  induction h with
  | nil => rfl
  | @cons member members shuffled _ ih =>
    obtain ⟨key, value⟩ := member
    rw [memberCount, List.countP_cons] at hcount
    rw [member?, member?, ih (by rw [memberCount]; omega)]
  | swap first second members =>
    rw [memberCount, List.countP_cons, List.countP_cons] at hcount
    simp only [member?]
    -- The two members change places, and at most one of them has the name.
    by_cases hfirst : first.1.text = name
    · have hsecond : second.1.text ≠ name := by
        intro heq
        simp [hfirst, heq] at hcount
      simp [hfirst, hsecond]
    · simp [hfirst]
  | trans hfirst _ ih ih' =>
    rw [ih hcount, ih' (by rwa [memberCount, ← hfirst.countP_eq])]

/-- A member is looked up in reordered values as a reordering. -/
theorem rel_member? {related : Value → Value → Prop}
    (h : List.Forall₂ (SameName related) members others) (name : Text) :
    Option.Rel related (member? name members) (member? name others) := by
  induction h with
  | nil => exact .none
  | cons hmember _ ih =>
    obtain ⟨key, hvalue⟩ := hmember
    rw [member?, member?]
    split
    · exact .some hvalue
    · exact ih

/-! ## Reading Parts -/

/-- Related results are passed on to the same effect. -/
theorem bind_eq_of_rel {related : α → α → Prop} {first second : Option α}
    {read read' : α → Option β} (h : Option.Rel related first second)
    (hread : ∀ a b, related a b → read a = read' b) : first.bind read = second.bind read' := by
  cases h with
  | none => rfl
  | some hrelated => exact hread _ _ hrelated

/-- Related items stand at the same places. -/
theorem rel_getElem? {related : α → α → Prop} {items others : List α}
    (h : List.Forall₂ related items others) (index : Nat) :
    Option.Rel related items[index]? others[index]? := by
  induction h generalizing index with
  | nil => exact .none
  | cons hitem _ ih =>
    cases index with
    | zero => exact .some hitem
    | succ index => exact ih index

/-- Related items are read one by one to the same effect. -/
theorem mapM_eq_of_forall₂ {related : α → α → Prop} {items others : List α} {read : α → Option β}
    (h : List.Forall₂ related items others) (hread : ∀ a b, related a b → read a = read b) :
    items.mapM read = others.mapM read := by
  induction h with
  | nil => rfl
  | cons hitem _ ih => rw [List.mapM_cons, List.mapM_cons, hread _ _ hitem, ih]

/-- Items in another order are read to the same effect, and what is read comes in another order. -/
theorem rel_mapM_of_perm {items others : List α} (h : items.Perm others) (read : α → Option β) :
    Option.Rel List.Perm (items.mapM read) (others.mapM read) := by
  induction h with
  | nil => exact .some (List.Perm.refl _)
  | @cons item items others _ ih =>
    rw [List.mapM_cons, List.mapM_cons]
    generalize items.mapM read = results, others.mapM read = shuffled at ih ⊢
    cases read item with
    | none => exact .none
    | some result =>
      cases ih with
      | none => exact .none
      | some hresults => exact .some (hresults.cons result)
  | swap first second items =>
    simp only [List.mapM_cons]
    -- If either of the two is refused, then both lists are, whichever comes first.
    cases read first with
    | none => cases read second <;> exact .none
    | some result =>
      cases read second with
      | none => exact .none
      | some other =>
        cases items.mapM read with
        | none => exact .none
        | some results => exact .some (List.Perm.swap ..)
  | @trans items between others _ _ ih ih' =>
    generalize items.mapM read = results, between.mapM read = middle, others.mapM read = shuffled
      at ih ih' ⊢
    cases ih with
    | none => exact ih'
    | some hresults =>
      cases ih' with
      | some hshuffled => exact .some (hresults.trans hshuffled)

/-! ## Readers -/

/-- Whether a reader takes a value and its reorderings for the same. -/
def IsOrderFree (read : Value → Option α) : Prop :=
  ∀ first second : Value, IsReordering first second → read first = read second

variable {first second : Value}

/-- Only arrays and objects have other reorderings than themselves. -/
theorem isOrderFree_of_eq_none {read : Value → Option α} (harray : ∀ items, read (array items) = none)
    (hobject : ∀ members, read (object members) = none) : IsOrderFree read := by
  rintro _ _ ⟨hreorders, -⟩
  cases hreorders with
  | same => rfl
  | array => rw [harray, harray]
  | object => rw [hobject, hobject]

theorem isOrderFree_text? : IsOrderFree text? :=
  isOrderFree_of_eq_none (fun _ => rfl) fun _ => rfl

theorem isOrderFree_bool? : IsOrderFree bool? :=
  isOrderFree_of_eq_none (fun _ => rfl) fun _ => rfl

theorem isOrderFree_binary64? : IsOrderFree binary64? :=
  isOrderFree_of_eq_none (fun _ => rfl) fun _ => rfl

theorem orDefault_eq_of_rel {read : Value → Option α} (hread : IsOrderFree read) (default : α)
    {field other : Option Value} (h : Option.Rel IsReordering field other) :
    orDefault read default field = orDefault read default other := by
  cases h with
  | none => rfl
  | some hvalue => exact hread _ _ hvalue

theorem required_eq_of_rel {read : Value → Option α} (hread : IsOrderFree read)
    {field other : Option Value} (h : Option.Rel IsReordering field other) :
    required read field = required read other := by
  cases h with
  | none => rfl
  | some hvalue => exact hread _ _ hvalue

/-- The items of an array and of a reordering of it. -/
theorem rel_items? (h : IsReordering first second) :
    Option.Rel (List.Forall₂ IsReordering) first.items? second.items? := by
  cases first with
  | array items =>
    obtain ⟨others, rfl, hitems⟩ := h.exists_items
    exact .some hitems
  | null | bool | number | string | brokenString | object =>
    obtain ⟨hreorders, -⟩ := h
    cases hreorders <;> exact .none

/-- The fields of a record and of a reordering of it. -/
theorem rel_fields? (names : List Text) (h : IsReordering first second) :
    Option.Rel (List.Forall₂ (Option.Rel IsReordering)) (first.fields? names)
      (second.fields? names) := by
  cases first with
  | array items =>
    obtain ⟨others, rfl, hitems⟩ := h.exists_items
    rw [fields?, fields?, hitems.length_eq]
    split
    · refine .some (List.forall₂_map_left_iff.2 (List.forall₂_map_right_iff.2 ?_))
      exact List.forall₂_same.2 fun index _ => rel_getElem? hitems index
    · exact .none
  | object members =>
    obtain ⟨others, shuffled, rfl, hshuffled, hmembers, -⟩ := h.exists_members
    have hkeys := map_key_eq_of_forall₂ hmembers
    simp only [fields?, keysAreSound_eq_of_perm hkeys hshuffled,
      memberCount_eq_of_perm hkeys hshuffled]
    split
    · rename_i hfields
      rw [Bool.and_eq_true, List.all_eq_true] at hfields
      refine .some (List.forall₂_map_left_iff.2 (List.forall₂_map_right_iff.2 ?_))
      refine List.forall₂_same.2 fun name hname => ?_
      -- No name of a field is repeated, so it does not matter where its member stands.
      have hcount : memberCount name others ≤ 1 := by
        rw [memberCount_eq_of_perm rfl hshuffled]
        exact of_decide_eq_true (hfields.2 name hname)
      rw [← member?_eq_of_perm hshuffled hcount]
      exact rel_member? hmembers name
    · exact .none
  | null | bool | number | string | brokenString =>
    obtain ⟨hreorders, -⟩ := h
    cases hreorders
    exact .none

/-! ## Maps -/

section Maps

variable {readKey : Key → Option κ} {readValue : Value → Option ν} {spell : κ → Text}

/-- The entry of a map that a member stands for. -/
def readMember? (readKey : Key → Option κ) (readValue : Value → Option ν) (member : Key × Value) :
    Option (κ × ν) := do
  return (← readKey member.1, ← readValue member.2)

/-- If each key has one spelling only, then the names of members are those of the keys. -/
theorem map_text_eq_of_mapM (hspell : ∀ key read, readKey key = some read → key.text = spell read)
    {entries : List (κ × ν)} (h : members.mapM (readMember? readKey readValue) = some entries) :
    members.map (·.1.text) = (entries.map (·.1)).map spell := by
  induction members generalizing entries with
  | nil =>
    cases h
    rfl
  | cons member members ih =>
    rw [List.mapM_cons] at h
    obtain ⟨entry, hentry, h⟩ := Option.bind_eq_some_iff.1 h
    obtain ⟨rest, hrest, h⟩ := Option.bind_eq_some_iff.1 h
    obtain ⟨read, hkey, hentry⟩ := Option.bind_eq_some_iff.1 hentry
    obtain ⟨value, -, hentry⟩ := Option.bind_eq_some_iff.1 hentry
    cases h
    cases hentry
    rw [List.map_cons, ih hrest, hspell _ _ hkey]
    rfl

variable [SortKey κ]

/-- The table of a map is that of its entries. -/
theorem readTable?_eq_map (readKey : Key → Option κ) (readValue : Value → Option ν)
    (members : List (Key × Value)) : readTable? readKey readValue members .empty
      = (members.mapM (readMember? readKey readValue)).map Table.ofList := by
  have general : ∀ table : Table κ ν, readTable? readKey readValue members table
      = (members.mapM (readMember? readKey readValue)).map
        (List.foldl (fun table entry => table.insert entry.1 entry.2) table) := by
    -- The members that are left are inserted into the table of those before.
    induction members with
    | nil => exact fun _ => rfl
    | cons member members ih =>
      intro table
      obtain ⟨key, value⟩ := member
      rw [readTable?, List.mapM_cons]
      simp only [readMember?, ih]
      cases readKey key with
      | none => rfl
      | some read =>
        cases readValue value with
        | none => rfl
        | some result => cases members.mapM (readMember? readKey readValue) <;> rfl
  exact general .empty

/-- The keys of a table that was read from distinct names are those that the names spell. -/
theorem keys_perm_of_readTable? (hspell : ∀ key read, readKey key = some read → key.text = spell read)
    (hnames : (members.map (·.1.text)).Nodup) {table : Table κ ν}
    (h : readTable? readKey readValue members .empty = some table) :
    ((table.entries.map (·.1)).map spell).Perm (members.map (·.1.text)) := by
  rw [readTable?_eq_map] at h
  obtain ⟨entries, hentries, rfl⟩ := Option.map_eq_some_iff.1 h
  have hspelled := map_text_eq_of_mapM hspell hentries
  rw [hspelled] at hnames ⊢
  exact ((Table.entries_ofList_perm (List.Nodup.of_map spell hnames)).map _).map _

/-- If each key has one spelling only and values are read without regard to the order of members, then
a map with distinct names and a reordering of it are read as the same table. -/
theorem readTable?_congr (hspell : ∀ key read, readKey key = some read → key.text = spell read)
    (hvalue : IsOrderFree readValue) (hmembers : List.Forall₂ (SameName IsReordering) members others)
    (hshuffled : others.Perm shuffled) (hnames : (members.map (·.1.text)).Nodup) :
    readTable? readKey readValue members .empty = readTable? readKey readValue shuffled .empty := by
  have hentries : members.mapM (readMember? readKey readValue)
      = others.mapM (readMember? readKey readValue) := by
    refine mapM_eq_of_forall₂ hmembers ?_
    rintro _ _ ⟨key, hreordered⟩
    simp only [readMember?, hvalue _ _ hreordered]
  rw [readTable?_eq_map, readTable?_eq_map]
  have hperm := rel_mapM_of_perm hshuffled (readMember? readKey readValue)
  rw [← hentries] at hperm
  generalize hread : members.mapM (readMember? readKey readValue) = entries,
    shuffled.mapM (readMember? readKey readValue) = results at hperm ⊢
  cases hperm with
  | none => rfl
  | some hperm =>
    rw [map_text_eq_of_mapM hspell hread] at hnames
    rw [Option.map_some, Option.map_some,
      Table.ofList_eq_of_perm hperm (List.Nodup.of_map spell hnames)]

/-- A map with distinct names and a reordering of it are read as the same table. -/
theorem isOrderFree_readTable? (hspell : ∀ key read, readKey key = some read → key.text = spell read)
    (hvalue : IsOrderFree readValue) : IsOrderFree fun value =>
      value.members?.bind fun members => readTable? readKey readValue members .empty := by
  intro first second h
  cases first with
  | object members =>
    obtain ⟨others, shuffled, rfl, hshuffled, hmembers, hnames⟩ := h.exists_members
    have hsound := keysAreSound_eq_of_perm (map_key_eq_of_forall₂ hmembers) hshuffled
    simp only [Value.members?, ← hsound]
    split
    · rename_i hkeys
      rw [memberNames_of_keysAreSound hkeys] at hnames
      exact readTable?_congr hspell hvalue hmembers hshuffled hnames
    · rfl
  | null | bool | number | string | brokenString | array =>
    obtain ⟨hreorders, -⟩ := h
    cases hreorders <;> rfl

end Maps

end Json

end MaterialNode
