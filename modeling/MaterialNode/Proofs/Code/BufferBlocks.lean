import Mathlib.Data.List.Basic
import Mathlib.Data.List.Induction
import MaterialNode.Code.Buffers

/-!
# Constant Buffer Blocks

The block of a constant buffer has a row for each of its elements, whatever the number of sample rows:
surplus rows are cut, and missing ones are filled (`rows_eq_map_range`). The sample rows are those that
were inserted last under the number of elements, since an insertion replaces what its key held
(`Table.get?_ofList`). A block therefore depends on its buffer and on these rows alone, and what was
inserted under other keys does not matter (`ConstantBuffer.blocks_ofList`).

## Main definitions

* `lastRows`: the rows that were inserted last under a number of elements.
* `rowLine`: the line of an element, from its sample row or filled.
* `ConstantBuffer.filledBlock`: the block of a buffer, with a line for each element.
-/

namespace MaterialNode

namespace Table

variable {κ ν : Type} [SortKey κ]

theorem ofList_append_singleton (insertions : List (κ × ν)) (entry : κ × ν) :
    ofList (insertions ++ [entry]) = (ofList insertions).insert entry.1 entry.2 := by
  rw [ofList, List.foldl_append]
  rfl

/-- A key holds what was inserted last at it. -/
theorem get?_ofList [DecidableEq κ] (insertions : List (κ × ν)) (key : κ) :
    (ofList insertions).get? key
      = ((insertions.filter fun entry => entry.1 = key).getLast?).map (·.2) := by
  -- The last insertion decides what its own key holds, and leaves the others as they were.
  induction insertions using List.reverseRecOn with
  | nil => rfl
  | append_singleton insertions entry ih =>
    rw [ofList_append_singleton, get?_insert, List.filter_append]
    by_cases hkey : key = entry.1
    · simp [hkey]
    · simp [hkey, Ne.symm hkey, ih]

end Table

/-- The rows that were inserted last under a number of elements, or none. -/
def lastRows (insertions : List (Nat × List SampleRow)) (count : Nat) : List SampleRow :=
  (((insertions.filter fun entry => entry.1 = count).getLast?).map (·.2)).getD []

/-- Insertions under keys that are not looked up do not matter. -/
theorem lastRows_filter {keys : List Nat} {count : Nat} (h : count ∈ keys)
    (insertions : List (Nat × List SampleRow)) :
    lastRows (insertions.filter fun entry => entry.1 ∈ keys) count = lastRows insertions count := by
  have hfilter : (insertions.filter fun entry => entry.1 ∈ keys).filter (fun entry => entry.1 = count)
      = insertions.filter fun entry => entry.1 = count := by
    rw [List.filter_filter]
    refine List.filter_congr fun entry _ => ?_
    by_cases hcount : entry.1 = count
    · simp [hcount, h]
    · simp [hcount]
  rw [lastRows, hfilter, lastRows]

/-- The line of an element: the sample row with its index, or a row of ones where there is none. -/
def rowLine (rows : List SampleRow) (index : Nat) : Text :=
  if h : index < rows.length then rows[index].write else onesRow

/-- Rows that are cut or filled up to a number of elements have a line for each element. -/
theorem rows_eq_map_range (rows : List SampleRow) (count : Nat) :
    (rows.take count).map SampleRow.write ++ List.replicate (count - rows.length) onesRow
      = (List.range count).map (rowLine rows) := by
  apply List.ext_getElem
  · simp only [List.length_append, List.length_map, List.length_take, List.length_replicate,
      List.length_range]
    omega
  · intro index hleft hright
    have hcount : index < count := by simpa using hright
    rw [List.getElem_map, List.getElem_range, rowLine]
    -- The lines are sample rows up to the last of these, and rows of ones after it.
    by_cases hrow : index < rows.length
    · rw [List.getElem_append_left (by simp; omega), List.getElem_map,
        List.getElem_take, dif_pos hrow]
    · rw [List.getElem_append_right (by simp; omega), List.getElem_replicate, dif_neg hrow]

namespace ConstantBuffer

/-- The block of a buffer: a header, a line for each element between braces, and an empty line. -/
def filledBlock (buffer : ConstantBuffer) (rows : List SampleRow) : List Text :=
  ("static " ++ buffer.elementType ++ " " ++ buffer.name ++ "[" ++ Text.ofNat buffer.count
      ++ "] = " : Text)
    :: "\x7b" :: ((List.range buffer.count).map (rowLine rows) ++ (["\x7d;", ""] : List Text))

theorem length_filledBlock (buffer : ConstantBuffer) (rows : List SampleRow) :
    (buffer.filledBlock rows).length = buffer.count + 4 := by
  simp [filledBlock]

/-- A block is filled with the rows that were inserted last under the number of elements. -/
theorem block_ofList (buffer : ConstantBuffer) (insertions : List (Nat × List SampleRow)) :
    buffer.block (some (.ofList insertions))
      = buffer.filledBlock (lastRows insertions buffer.count) := by
  have hrows : buffer.sampleRows (some (.ofList insertions)) = lastRows insertions buffer.count := by
    rw [sampleRows, Option.bind_some, Table.get?_ofList, lastRows]
  rw [block, hrows, rows_eq_map_range]
  rfl

/-- Blocks that differ in their headers alone if their buffers have as many elements. -/
theorem tail_filledBlock {first second : ConstantBuffer} (h : first.count = second.count)
    (rows : List SampleRow) : (first.filledBlock rows).tail = (second.filledBlock rows).tail := by
  simp [filledBlock, h]

/-- The code of the buffers consists of their blocks in order, each with four lines and one for each
element, filled with the rows that were inserted last under the number of elements. What was inserted
under other keys does not matter, and buffers with as many elements have the same rows. -/
theorem blocks_ofList (buffers : List ConstantBuffer) (insertions : List (Nat × List SampleRow)) :
    blocks buffers (some (.ofList insertions))
        = buffers.flatMap (fun buffer => buffer.filledBlock (lastRows insertions buffer.count))
      ∧ (∀ buffer : ConstantBuffer,
        (buffer.filledBlock (lastRows insertions buffer.count)).length = buffer.count + 4)
      ∧ blocks buffers
          (some (.ofList (insertions.filter fun entry => entry.1 ∈ buffers.map (·.count))))
        = blocks buffers (some (.ofList insertions))
      ∧ ∀ first second : ConstantBuffer, first.count = second.count →
        (first.block (some (.ofList insertions))).tail
          = (second.block (some (.ofList insertions))).tail := by
  refine ⟨?_, fun buffer => buffer.length_filledBlock _, ?_, fun first second hcount => ?_⟩
  · exact List.flatMap_congr fun buffer _ => buffer.block_ofList insertions
  · -- Each buffer looks up its own number of elements, and the insertions under it are kept.
    refine List.flatMap_congr fun buffer hbuffer => ?_
    rw [block_ofList, block_ofList, lastRows_filter (List.mem_map_of_mem hbuffer)]
  · rw [block_ofList, block_ofList, hcount, tail_filledBlock hcount]

/-- A row of halves. -/
def halvesRow : SampleRow :=
  let half : Binary64 := ⟨0x3FE0000000000000⟩
  ⟨half, half, half, half⟩

/-- Two buffers with as many elements share the one row that was inserted last for them. -/
theorem blocks_ofList_overwritten :
    let first : ConstantBuffer := ⟨"cb0", "float4", 2, 0⟩
    let second : ConstantBuffer := ⟨"cb3", "float4", 2, 3⟩
    let insertions := [(2, List.replicate 3 halvesRow), (2, [halvesRow]), (7, [])]
    blocks [first, second] (some (.ofList insertions))
        = ["static float4 cb0[2] = ", "\x7b", "float4(0.500000, 0.500000, 0.500000, 0.500000),",
          "float4(1, 1, 1, 1),", "\x7d;", "",
          "static float4 cb3[2] = ", "\x7b", "float4(0.500000, 0.500000, 0.500000, 0.500000),",
          "float4(1, 1, 1, 1),", "\x7d;", ""]
      ∧ (first.block (some (.ofList insertions))).tail
        = (second.block (some (.ofList insertions))).tail := by
  intro first second insertions
  obtain ⟨hblocks, -, -, hrows⟩ := blocks_ofList [first, second] insertions
  exact ⟨hblocks.trans (by decide +kernel), hrows first second rfl⟩

end ConstantBuffer

end MaterialNode
