import MaterialNode.Proofs.Text.Characters
import MaterialNode.Proofs.Text.Replace

/-!
# Nested Braces

An opening brace leads one level deeper and a closing brace one level back. The depth of a text is
additive, so how a text moves between levels follows from how its parts do (`Moves.append`), and a
block of matching braces changes nothing wherever it is put (`KeepsDepth`).
-/

namespace MaterialNode.Text

/-! ## Depth -/

/-- How much deeper a text ends than it starts: its opening braces less its closing ones. -/
def depth (text : Text) : Int := text.count '\x7b' - text.count '\x7d'

/-- Whether a text holds no brace. -/
def HasNoBraces (text : Text) : Prop := '\x7b' ∉ text ∧ '\x7d' ∉ text

instance (text : Text) : Decidable (HasNoBraces text) :=
  inferInstanceAs (Decidable ('\x7b' ∉ text ∧ '\x7d' ∉ text))

/-- Whether no start of a text leads below the bound. -/
def StaysAbove (bound : Int) (text : Text) : Prop := ∀ count, bound ≤ depth (text.take count)

variable {low net bound : Int} {text first second left right pattern replacement result : Text}
  {lines : List Text}

@[simp] theorem depth_nil : depth [] = 0 := rfl

@[simp] theorem depth_append (left right : Text) :
    depth (left ++ right) = depth left + depth right := by
  simp only [depth, List.count_append]
  omega

theorem depth_cons (c : Char) (text : Text) : depth (c :: text) = depth [c] + depth text :=
  depth_append [c] text

theorem HasNoBraces.of_subset (h : HasNoBraces text) (hsubset : left ⊆ text) : HasNoBraces left :=
  ⟨fun hmem => h.1 (hsubset hmem), fun hmem => h.2 (hsubset hmem)⟩

@[simp] theorem hasNoBraces_append_iff :
    HasNoBraces (left ++ right) ↔ HasNoBraces left ∧ HasNoBraces right := by
  simp only [HasNoBraces, List.mem_append, not_or]
  exact and_and_and_comm

@[simp] theorem hasNoBraces_ofNat (n : Nat) : HasNoBraces (ofNat n) :=
  ⟨(isDigits_ofNat n).not_mem (by decide), (isDigits_ofNat n).not_mem (by decide)⟩

@[simp] theorem hasNoBraces_ofInt (i : Int) : HasNoBraces (ofInt i) :=
  ⟨not_mem_ofInt (by decide) (by decide) i, not_mem_ofInt (by decide) (by decide) i⟩

theorem HasNoBraces.depth_eq (h : HasNoBraces text) : depth text = 0 := by
  rw [depth, List.count_eq_zero.2 h.1, List.count_eq_zero.2 h.2]
  rfl

/-- The empty start of a text is at the level where the text starts. -/
theorem StaysAbove.le_zero (h : StaysAbove bound text) : bound ≤ 0 := h 0

theorem StaysAbove.le_depth (h : StaysAbove bound text) : bound ≤ depth text := by
  have hwhole := h text.length
  rwa [List.take_length] at hwhole

@[simp] theorem staysAbove_nil_iff : StaysAbove bound [] ↔ bound ≤ 0 := by
  simp [StaysAbove]

/-- The starts of a text are the empty one and those that begin with its first character. -/
theorem staysAbove_cons_iff {c : Char} :
    StaysAbove bound (c :: text) ↔ bound ≤ 0 ∧ StaysAbove (bound - depth [c]) text := by
  constructor
  · intro h
    refine ⟨h.le_zero, fun count => ?_⟩
    have hstart := h (count + 1)
    rw [List.take_succ_cons, depth_cons] at hstart
    omega
  · rintro ⟨hzero, hrest⟩ count
    cases count with
    | zero => exact hzero
    | succ count =>
      have hstart := hrest count
      rw [List.take_succ_cons, depth_cons]
      omega

/-- The second of two texts starts at the level where the first ends. -/
theorem staysAbove_append_iff :
    StaysAbove bound (left ++ right)
      ↔ StaysAbove bound left ∧ StaysAbove (bound - depth left) right := by
  induction left generalizing bound with
  | nil => simpa using fun h : StaysAbove bound right => h.le_zero
  | cons c left ih =>
    rw [List.cons_append, staysAbove_cons_iff, ih, staysAbove_cons_iff, depth_cons c left,
      Int.sub_sub, and_assoc]

/-- A text is scanned once to see how low it leads. -/
instance decidableStaysAbove : ∀ (bound : Int) (text : Text), Decidable (StaysAbove bound text)
  | _, [] => decidable_of_iff _ staysAbove_nil_iff.symm
  | bound, c :: text =>
    have := decidableStaysAbove (bound - depth [c]) text
    decidable_of_iff _ staysAbove_cons_iff.symm

/-! ## Moves -/

/-- A text moves from the level where it starts: no start of it leads below `low`, and it ends at
`net`. -/
structure Moves (low net : Int) (text : Text) : Prop where
  /-- No start leads below the lowest level. -/
  staysAbove : StaysAbove low text
  /-- The text ends at the last level. -/
  depth_eq : depth text = net

instance (low net : Int) (text : Text) : Decidable (Moves low net text) :=
  decidable_of_iff (StaysAbove low text ∧ depth text = net)
    ⟨fun h => ⟨h.1, h.2⟩, fun h => ⟨h.1, h.2⟩⟩

/-- Whether the braces of a text match: no start of it leads below the level where it starts, and it
ends at that level. -/
abbrev IsBalanced (text : Text) : Prop := Moves 0 0 text

/-- One move after another. The second starts where the first ends, so it has to stay above the
lowest level from there. -/
theorem Moves.append {low' net' : Int} (hleft : Moves low net left) (hright : Moves low' net' right)
    (h : low ≤ net + low') : Moves low (net + net') (left ++ right) where
  staysAbove := by
    refine staysAbove_append_iff.2 ⟨hleft.staysAbove, fun count => ?_⟩
    have hstart := hright.staysAbove count
    rw [hleft.depth_eq]
    omega
  depth_eq := by rw [depth_append, hleft.depth_eq, hright.depth_eq]

theorem Moves.joinLines_append {before after : List Text} {low' net' : Int}
    (hbefore : Moves low net (joinLines before)) (hafter : Moves low' net' (joinLines after))
    (h : low ≤ net + low') : Moves low (net + net') (joinLines (before ++ after)) := by
  rw [Text.joinLines_append]
  exact hbefore.append hafter h

theorem HasNoBraces.isBalanced (h : HasNoBraces text) : IsBalanced text where
  staysAbove count := Int.le_of_eq (h.of_subset (List.take_subset count text)).depth_eq.symm
  depth_eq := h.depth_eq

theorem IsBalanced.append (hleft : IsBalanced left) (hright : IsBalanced right) :
    IsBalanced (left ++ right) := Moves.append hleft hright (by decide)

theorem isBalanced_lineEnd : IsBalanced lineEnd := by decide

/-- Lines of matching braces match when they are joined. -/
theorem isBalanced_joinLines (h : ∀ line ∈ lines, IsBalanced line) :
    IsBalanced (joinLines lines) := by
  induction lines with
  | nil => decide
  | cons line lines ih =>
    obtain ⟨hline, hlines⟩ := List.forall_mem_cons.1 h
    rw [joinLines_cons]
    exact hline.append (isBalanced_lineEnd.append (ih hlines))

/-! ## Keeping the Depth -/

/-- `KeepsDepth first second` holds if the second text can stand for the first: it ends at the same
level and leads no lower. -/
structure KeepsDepth (first second : Text) : Prop where
  /-- Both texts end at the same level. -/
  depth_eq : depth second = depth first
  /-- The second text leads no lower than the first. -/
  staysAbove : ∀ bound, StaysAbove bound first → StaysAbove bound second

namespace KeepsDepth

theorem refl (text : Text) : KeepsDepth text text := ⟨rfl, fun _ h => h⟩

theorem append {first' second' : Text} (h : KeepsDepth first second)
    (h' : KeepsDepth first' second') : KeepsDepth (first ++ first') (second ++ second') where
  depth_eq := by rw [depth_append, depth_append, h.depth_eq, h'.depth_eq]
  staysAbove bound habove := by
    rw [staysAbove_append_iff] at habove ⊢
    rw [h.depth_eq]
    exact ⟨h.staysAbove bound habove.1, h'.staysAbove _ habove.2⟩

/-- Matching braces can stand for a text without braces. -/
theorem of_hasNoBraces (hfirst : HasNoBraces first) (hsecond : IsBalanced second) :
    KeepsDepth first second where
  depth_eq := by rw [hfirst.depth_eq, hsecond.depth_eq]
  staysAbove bound habove count := Int.le_trans habove.le_zero (hsecond.staysAbove count)

theorem isBalanced (h : KeepsDepth first second) (hfirst : IsBalanced first) :
    IsBalanced second where
  staysAbove := h.staysAbove 0 hfirst.staysAbove
  depth_eq := by rw [h.depth_eq, hfirst.depth_eq]

/-- The lines of a text can be changed one by one. -/
theorem joinLines_map {change : Text → Text} (h : ∀ line ∈ lines, KeepsDepth line (change line)) :
    KeepsDepth (joinLines lines) (joinLines (lines.map change)) := by
  induction lines with
  | nil => exact refl []
  | cons line lines ih =>
    obtain ⟨hline, hlines⟩ := List.forall_mem_cons.1 h
    rw [List.map_cons, joinLines_cons, joinLines_cons]
    exact hline.append ((refl lineEnd).append (ih hlines))

end KeepsDepth

/-- A pattern without braces can be replaced by matching braces. -/
theorem ReplacesAll.keepsDepth (h : ReplacesAll pattern replacement text result)
    (hpattern : HasNoBraces pattern) (hreplacement : IsBalanced replacement) :
    KeepsDepth text result := by
  -- What stands before an occurrence is kept, the occurrence is replaced, and the rest follows.
  induction h with
  | keep => exact .refl _
  | @step left _ _ _ _ ih =>
    have hfirst : KeepsDepth (left ++ pattern) (left ++ replacement) :=
      (KeepsDepth.refl left).append (.of_hasNoBraces hpattern hreplacement)
    exact hfirst.append ih

end MaterialNode.Text
