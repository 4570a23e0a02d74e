/-!
# PageLandmarks.Limit

**How many problems are reported.** A limit counts from the beginning of the
list, or from its end if it is negative (`cut`). It may also turn out to be no
number at all, which matters only once something has to be cut.
-/

namespace PageLandmarks

/-- How many problems are reported. -/
inductive Limit
  /-- All of them. -/
  | unlimited
  /-- Up to a number. -/
  | atMost (n : Int)
  /-- What stands for the limit is no number. -/
  | unusable
  deriving Repr, DecidableEq

/-- The first `n` items; a negative number leaves that many off the end. Without a
number all items are left. -/
def cut {α : Type} (n : Option Int) (xs : List α) : List α :=
  match n with
  | none => xs
  | some n => if 0 ≤ n then xs.take n.toNat else xs.take (xs.length - n.natAbs)

/-! ### What is left -/

theorem cut_of_nonneg {α : Type} {c : Int} (hc : 0 ≤ c) (xs : List α) :
    cut (some c) xs = xs.take c.toNat := if_pos hc

theorem exists_cut_eq_take {α : Type} (limit : Option Int) (xs : List α) :
    ∃ count, cut limit xs = xs.take count := by
  unfold cut
  split
  · exact ⟨xs.length, by simp⟩
  · split <;> exact ⟨_, rfl⟩

theorem cut_isPrefix {α : Type} (limit : Option Int) (xs : List α) : cut limit xs <+: xs := by
  obtain ⟨count, hcut⟩ := exists_cut_eq_take limit xs
  rw [hcut]
  exact List.take_prefix count xs

theorem length_cut {α : Type} (c : Int) (xs : List α) :
    (cut (some c) xs).length =
      if 0 ≤ c then min c.toNat xs.length else xs.length - c.natAbs := by
  unfold cut
  dsimp only
  split
  · rw [List.length_take]
  · rw [List.length_take, Nat.min_eq_left (Nat.sub_le _ _)]

end PageLandmarks
