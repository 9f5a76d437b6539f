import Mathlib.Data.Finset.Card
import Mathlib.Data.Fintype.EquivFin
import Mathlib.Data.List.Sort
import Mathlib.Order.Hom.Set
import MaterialNode.Shader.Body

/-!
# Ranks of Slots

The slots of a set are listed in ascending order without repeats, so the place of a slot counts
the smaller slots. Ranks are therefore an order isomorphism from the declared slots onto the
bindings, whatever the order of the declarations and however often a slot is declared.
-/

namespace MaterialNode

namespace SlotSet

variable {slot other : Nat} {slots : List Nat}

/-! ## Places Count Smaller Slots -/

/-- The place of a slot in an ascending list is the number of smaller slots. -/
theorem placeIn_eq_countP (h : slots.Pairwise (· < ·)) (hmem : slot ∈ slots) :
    placeIn slot slots = some (slots.countP (· < slot)) := by
  induction slots with
  | nil => cases hmem
  | cons first rest ih =>
    obtain ⟨hfirst, hrest⟩ := List.pairwise_cons.1 h
    rw [placeIn]
    by_cases heq : first = slot
    · -- No slot after the first is smaller than it.
      subst heq
      have hzero : rest.countP (· < first) = 0 := by
        rw [List.countP_eq_zero]
        intro other hother
        have := hfirst other hother
        simp only [decide_eq_true_eq]
        omega
      rw [if_pos rfl, List.countP_cons_of_neg (by simp), hzero]
    · -- The first slot is smaller and counts, as it does for the place.
      have hmem' : slot ∈ rest := List.mem_of_ne_of_mem (Ne.symm heq) hmem
      have hlt : first < slot := hfirst slot hmem'
      rw [if_neg heq, ih hrest hmem', List.countP_cons_of_pos (by simpa using hlt)]
      rfl

theorem placeIn_eq_none (hmem : slot ∉ slots) : placeIn slot slots = none := by
  induction slots with
  | nil => rfl
  | cons first rest ih =>
    rw [List.mem_cons, not_or] at hmem
    rw [placeIn, if_neg (Ne.symm hmem.1), ih hmem.2]
    rfl

/-- The number of distinct slots in a list that are smaller than a slot. -/
def countBelow (slots : List Nat) (slot : Nat) : Nat := {other ∈ slots.toFinset | other < slot}.card

/-- The slots of a set are those of the list that it was made of, each once. -/
theorem toFinset_ofList (slots : List Nat) : (ofList slots).slots.toFinset = slots.toFinset := by
  ext slot
  rw [List.mem_toFinset, List.mem_toFinset, mem_ofList]

theorem size_ofList (slots : List Nat) : (ofList slots).size = slots.toFinset.card := by
  rw [← toFinset_ofList, List.toFinset_card_of_nodup]
  · rfl
  · exact (ofList slots).ascending.imp Nat.ne_of_lt

/-- The rank of a declared slot is the number of distinct declared slots that are smaller; a slot
that is not declared has none. -/
theorem rank?_ofList (slots : List Nat) (slot : Nat) :
    (ofList slots).rank? slot = if slot ∈ slots then some (countBelow slots slot) else none := by
  rw [rank?]
  split
  · rename_i hmem
    have hcount : (ofList slots).slots.countP (· < slot) = countBelow slots slot := by
      rw [countBelow, ← toFinset_ofList, List.filter_toFinset, List.toFinset_card_of_nodup,
        List.countP_eq_length_filter]
      exact ((ofList slots).ascending.imp Nat.ne_of_lt).filter _
    rw [placeIn_eq_countP (ofList slots).ascending (mem_ofList.2 hmem), hcount]
  · rename_i hmem
    exact placeIn_eq_none fun h => hmem (mem_ofList.1 h)

/-! ## Ranks as an Order Isomorphism -/

/-- A larger slot has more smaller ones. -/
theorem countBelow_lt_countBelow (hmem : slot ∈ slots) (hlt : slot < other) :
    countBelow slots slot < countBelow slots other := by
  refine Finset.card_lt_card ?_
  rw [Finset.ssubset_iff_of_subset]
  · -- The smaller slot itself is counted for the larger one only.
    exact ⟨slot, by simpa using ⟨hmem, hlt⟩, by simp⟩
  · intro smaller hsmaller
    simp only [Finset.mem_filter] at hsmaller ⊢
    exact ⟨hsmaller.1, hsmaller.2.trans hlt⟩

/-- A declared slot has fewer smaller ones than there are slots. -/
theorem countBelow_lt_size (hmem : slot ∈ slots) : countBelow slots slot < (ofList slots).size := by
  rw [size_ofList]
  refine Finset.card_lt_card ?_
  rw [Finset.filter_ssubset]
  exact ⟨slot, List.mem_toFinset.2 hmem, Nat.lt_irrefl slot⟩

/-- The rank of a declared slot as a binding. -/
def binding (slots : List Nat) (slot : {slot // slot ∈ slots}) : Fin (ofList slots).size :=
  ⟨countBelow slots slot.1, countBelow_lt_size slot.2⟩

theorem strictMono_binding (slots : List Nat) : StrictMono (binding slots) :=
  fun slot _ hlt => countBelow_lt_countBelow slot.2 hlt

/-- Every binding is the rank of a declared slot, since there are as many of both. -/
theorem surjective_binding (slots : List Nat) : Function.Surjective (binding slots) := by
  have hcard : Fintype.card {slot // slot ∈ slots} = Fintype.card (Fin (ofList slots).size) := by
    rw [Fintype.card_of_subtype slots.toFinset fun _ => List.mem_toFinset, Fintype.card_fin,
      size_ofList]
  exact ((Fintype.bijective_iff_injective_and_card (binding slots)).2
    ⟨(strictMono_binding slots).injective, hcard⟩).surjective

/-! ## Sets with the Same Members -/

/-- Lists with the same slots make the same set. -/
theorem ofList_congr {first second : List Nat} (h : ∀ slot, slot ∈ first ↔ slot ∈ second) :
    ofList first = ofList second := by
  refine ext ((ofList first).ascending.eq_of_mem_iff (ofList second).ascending ?_)
  intro slot
  rw [mem_ofList, mem_ofList, h]

/-- The slots of a set are those of the list, sorted and without repeats. -/
theorem slots_ofList (slots : List Nat) :
    (ofList slots).slots = (slots.mergeSort (· ≤ ·)).dedup := by
  have hsorted : (slots.mergeSort (· ≤ ·)).dedup.Pairwise (· ≤ ·) :=
    (slots.pairwise_mergeSort' (· ≤ ·)).sublist (List.dedup_sublist _)
  have hascending : (slots.mergeSort (· ≤ ·)).dedup.Pairwise (· < ·) :=
    (hsorted.and (List.nodup_dedup _)).imp fun h => lt_of_le_of_ne h.1 h.2
  -- Only one ascending list has these members.
  refine (ofList slots).ascending.eq_of_mem_iff hascending ?_
  intro slot
  rw [mem_ofList, List.mem_dedup, List.mem_mergeSort]

end SlotSet

/-- Ranks are an order isomorphism from the declared slots onto the bindings, the rank of a slot
is the number of smaller ones, and texture lists with the same slots lead to the same body. -/
theorem rank?_remap (slots : List Nat) :
    (∀ slot, (SlotSet.ofList slots).rank? slot
        = if slot ∈ slots then some {other ∈ slots.toFinset | other < slot}.card else none)
      ∧ (∃ bindings : {slot // slot ∈ slots} ≃o Fin (SlotSet.ofList slots).size,
          ∀ slot : {slot // slot ∈ slots},
            (SlotSet.ofList slots).rank? slot.1 = some (bindings slot).1)
      ∧ ∀ first second : List Texture,
          (∀ slot, slot ∈ first.map (·.slot) ↔ slot ∈ second.map (·.slot)) →
          ∀ lines, Body.convert lines first = Body.convert lines second := by
  refine ⟨SlotSet.rank?_ofList slots, ?_, ?_⟩
  · refine ⟨(SlotSet.strictMono_binding slots).orderIsoOfSurjective _
      (SlotSet.surjective_binding slots), ?_⟩
    intro slot
    rw [SlotSet.rank?_ofList, if_pos slot.2]
    rfl
  · intro first second hslots lines
    rw [Body.convert, Body.convert, Body.boundSlots, Body.boundSlots, SlotSet.ofList_congr hslots]

/-- Declaring two textures in another order, one of them twice, does not change the body. -/
theorem rank?_remap_two :
    (SlotSet.ofList [5, 2, 5]).rank? 5 = some 1
      ∧ Body.convert ["// ps_5_0", "float4 r0,r1;", "r0 = t5.Sample(s1_s, v0.xy).xyzw;"]
          [⟨"Texture2D", "float4", "t5", 5⟩, ⟨"Texture2D", "float4", "t2", 2⟩]
        = Body.convert ["// ps_5_0", "float4 r0,r1;", "r0 = t5.Sample(s1_s, v0.xy).xyzw;"]
          [⟨"Texture2D", "float4", "t2", 2⟩, ⟨"Texture2D", "float3", "t5", 5⟩,
            ⟨"Texture2D", "float4", "t2", 2⟩] := by
  refine ⟨((rank?_remap [5, 2, 5]).1 5).trans (by decide), (rank?_remap []).2.2 _ _ ?_ _⟩
  intro slot
  simp only [List.map_cons, List.map_nil, List.mem_cons, List.not_mem_nil, or_false]
  omega

end MaterialNode
