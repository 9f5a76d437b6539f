/-!
# Ordered Keys

A key type carries a strict total order that can be computed. Lists are ordered by the
first item in which they differ, so that texts, locations and paths inherit their order
from characters, names and components.
-/

namespace MaterialNode

/-- Keys with a strict total order that can be computed. -/
class SortKey (κ : Type) where
  /-- Whether the first key comes before the second. -/
  before : κ → κ → Bool
  /-- No key comes before itself. -/
  irrefl : ∀ a, before a a = false
  /-- Coming before is transitive. -/
  trans : ∀ {a b c}, before a b = true → before b c = true → before a c = true
  /-- Of two different keys one comes before the other. -/
  connected : ∀ {a b}, before a b = false → before b a = false → a = b

instance : SortKey Nat where
  before a b := decide (a < b)
  irrefl := by simp
  trans := by simp only [decide_eq_true_eq]; omega
  connected := by simp only [decide_eq_false_iff_not]; omega

instance : SortKey Char where
  before c d := decide (c.toNat < d.toNat)
  irrefl := by simp
  trans := by simp only [decide_eq_true_eq]; omega
  connected h h' := by
    simp only [decide_eq_false_iff_not] at h h'
    exact Char.toNat_inj.1 (by omega)

namespace SortKey

variable {κ : Type} [SortKey κ]

/-- Two keys do not come before each other. -/
theorem asymm {a b : κ} (h : before a b = true) : before b a = false := by
  cases hba : before b a with
  | false => rfl
  | true => exact absurd (trans h hba) (by simp [irrefl])

/-- Of two keys one comes before the other exactly if they are different. -/
theorem before_or_before [DecidableEq κ] (a b : κ) :
    (before a b || before b a) = !decide (a = b) := by
  by_cases heq : a = b
  · simp [heq, irrefl]
  · cases hab : before a b with
    | true => simp [heq]
    | false =>
      cases hba : before b a with
      | true => simp [heq]
      | false => exact absurd (connected hab hba) heq

/-- Whether the first list comes before the second: by the first item in which they
differ, and a list comes before its extensions. -/
def listBefore : List κ → List κ → Bool
  | _, [] => false
  | [], _ :: _ => true
  | a :: as, b :: bs =>
    if before a b then true else if before b a then false else listBefore as bs

/-- Lists with the same first item are ordered by their rests. -/
theorem listBefore_cons_cons (a : κ) (as bs : List κ) :
    listBefore (a :: as) (a :: bs) = listBefore as bs := by
  simp [listBefore, irrefl]

/-- A list comes before another with a different first item if its first item does. -/
theorem listBefore_cons_of_ne {a b : κ} (as bs : List κ) (h : a ≠ b) :
    listBefore (a :: as) (b :: bs) = before a b := by
  simp only [listBefore]
  split
  · simp_all
  · rename_i hab
    split
    · simpa using hab
    · rename_i hba
      exact absurd (connected (by simpa using hab) (by simpa using hba)) h

/-- No list comes before itself. -/
theorem listBefore_irrefl (as : List κ) : listBefore as as = false := by
  induction as with
  | nil => rfl
  | cons a as ih => rw [listBefore_cons_cons, ih]

/-- The order of lists is transitive. -/
theorem listBefore_trans {as bs cs : List κ} (hab : listBefore as bs = true)
    (hbc : listBefore bs cs = true) : listBefore as cs = true := by
  induction bs generalizing as cs with
  | nil => simp [listBefore] at hab
  | cons b bs ih =>
    cases cs with
    | nil => simp [listBefore] at hbc
    | cons c cs =>
      cases as with
      | nil => rfl
      | cons a as =>
        by_cases hEqAB : a = b
        -- The first items of the first two lists agree, so those of the last two decide.
        · subst hEqAB
          by_cases hEqBC : a = c
          · subst hEqBC
            rw [listBefore_cons_cons] at hab hbc ⊢
            exact ih hab hbc
          · rw [listBefore_cons_of_ne _ _ hEqBC] at hbc ⊢
            exact hbc
        -- They differ, so the first item of the first list comes before both others.
        · rw [listBefore_cons_of_ne _ _ hEqAB] at hab
          by_cases hEqBC : b = c
          · subst hEqBC
            rwa [listBefore_cons_of_ne _ _ hEqAB]
          · rw [listBefore_cons_of_ne _ _ hEqBC] at hbc
            have hac := trans hab hbc
            have hne : a ≠ c := by
              rintro rfl
              simp [irrefl] at hac
            rwa [listBefore_cons_of_ne _ _ hne]

/-- Of two different lists one comes before the other. -/
theorem listBefore_connected {as bs : List κ} (hab : listBefore as bs = false)
    (hba : listBefore bs as = false) : as = bs := by
  induction as generalizing bs with
  | nil =>
    cases bs with
    | nil => rfl
    | cons b bs => simp [listBefore] at hab
  | cons a as ih =>
    cases bs with
    | nil => simp [listBefore] at hba
    | cons b bs =>
      by_cases h : a = b
      · subst h
        rw [listBefore_cons_cons] at hab hba
        rw [ih hab hba]
      · rw [listBefore_cons_of_ne _ _ h] at hab
        rw [listBefore_cons_of_ne _ _ (Ne.symm h)] at hba
        exact absurd (connected hab hba) h

instance : SortKey (List κ) where
  before := listBefore
  irrefl := listBefore_irrefl
  trans := listBefore_trans
  connected := listBefore_connected

end SortKey
end MaterialNode
