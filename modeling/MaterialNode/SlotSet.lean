/-!
# Sets of Register Slots

A slot set lists register numbers in ascending order, each once. The rank of a slot is its
place in that list: a material binds its textures densely in ascending slot order, so slot
5 of the slots 1, 2 and 5 becomes binding 2.
-/

namespace MaterialNode

/-- A finite set of register slots. -/
structure SlotSet where
  /-- The slots in ascending order. -/
  slots : List Nat
  /-- Each slot is smaller than all that follow it. -/
  ascending : slots.Pairwise (· < ·)
  deriving DecidableEq

namespace SlotSet

/-- The list `slots` with `slot` put in its place, unless it is there already. -/
def insertSlot (slot : Nat) : List Nat → List Nat
  | [] => [slot]
  | first :: rest =>
    if first < slot then first :: insertSlot slot rest
    else if slot < first then slot :: first :: rest
    else first :: rest

/-- Insertion adds the slot and nothing else. -/
theorem mem_insertSlot {slot other : Nat} {slots : List Nat} :
    other ∈ insertSlot slot slots ↔ other = slot ∨ other ∈ slots := by
  induction slots with
  | nil => simp [insertSlot]
  | cons first rest ih =>
    simp only [insertSlot]
    split
    · simp only [List.mem_cons, ih]
      grind
    · split
      · simp
      · have : first = slot := by omega
        simp [this]

/-- Insertion keeps the slots ascending. -/
theorem insertSlot_ascending (slot : Nat) {slots : List Nat} (h : slots.Pairwise (· < ·)) :
    (insertSlot slot slots).Pairwise (· < ·) := by
  induction slots with
  | nil => simp [insertSlot]
  | cons first rest ih =>
    obtain ⟨hfirst, hrest⟩ := List.pairwise_cons.1 h
    simp only [insertSlot]
    split
    · rename_i hlt
      refine List.pairwise_cons.2 ⟨fun other hother => ?_, ih hrest⟩
      rcases mem_insertSlot.1 hother with rfl | hother
      · exact hlt
      · exact hfirst other hother
    · split
      · rename_i hlt
        refine List.pairwise_cons.2 ⟨fun other hother => ?_, h⟩
        rcases List.mem_cons.1 hother with rfl | hother
        · exact hlt
        · exact Nat.lt_trans hlt (hfirst other hother)
      · exact h

/-- The set without slots. -/
def empty : SlotSet := ⟨[], List.Pairwise.nil⟩

instance : Inhabited SlotSet := ⟨empty⟩

/-- `set` with `slot` added. -/
def insert (set : SlotSet) (slot : Nat) : SlotSet :=
  ⟨insertSlot slot set.slots, insertSlot_ascending slot set.ascending⟩

/-- The set of the slots in a list, in which order and repeats do not matter. Its list is what
sorting the slots and dropping repeats gives. -/
def ofList (slots : List Nat) : SlotSet := slots.foldl insert empty

/-- The number of slots. -/
def size (set : SlotSet) : Nat := set.slots.length

/-- Whether there are no slots. -/
def isEmpty (set : SlotSet) : Bool := set.slots.isEmpty

/-- The place of `slot` in a list of slots. An ascending list has it at one place at most, which
is the one that a binary search finds. -/
def placeIn (slot : Nat) : List Nat → Option Nat
  | [] => none
  | first :: rest => if first = slot then some 0 else (placeIn slot rest).map (· + 1)

/-- The dense binding index of `slot`: its place in ascending order, if it is a member. -/
def rank? (set : SlotSet) (slot : Nat) : Option Nat := placeIn slot set.slots

/-- Sets with the same slots are equal. -/
theorem ext {first second : SlotSet} (h : first.slots = second.slots) : first = second := by
  cases first
  cases second
  simp_all

/-- The members of `ofList slots` are the members of `slots`. -/
theorem mem_ofList {slot : Nat} {slots : List Nat} :
    slot ∈ (ofList slots).slots ↔ slot ∈ slots := by
  have general : ∀ (rest : List Nat) (set : SlotSet),
      slot ∈ (rest.foldl insert set).slots ↔ slot ∈ set.slots ∨ slot ∈ rest := by
    intro rest
    induction rest with
    | nil => simp
    | cons first rest ih =>
      intro set
      rw [List.foldl_cons, ih]
      simp only [insert, mem_insertSlot, List.mem_cons]
      grind
  simpa [ofList, empty] using general slots empty

end SlotSet
end MaterialNode
