/-!
# Binary search

`bisect` finds where a test begins to hold, if it holds at every number behind one at which it
holds. `partitionPoint` finds by it where the rows with some property end, if they stand in front of
all others; that they do is up to the rows, and `drop_partitionPoint` is where it is needed.
-/

namespace ClusterProxy

/-- The first of `count` numbers from `low` on at which a test holds, or the number behind them. -/
def bisect (test : Nat → Bool) (low count : Nat) : Nat :=
  if count = 0 then low
  else if test (low + count / 2) then bisect test low (count / 2)
  else bisect test (low + count / 2 + 1) (count - count / 2 - 1)
termination_by count

theorem le_bisect (test : Nat → Bool) (low count : Nat) : low ≤ bisect test low count := by
  fun_induction bisect test low count <;> omega

theorem bisect_le (test : Nat → Bool) (low count : Nat) : bisect test low count ≤ low + count := by
  fun_induction bisect test low count <;> omega

/-- The test holds from the number that bisection finds on, and not before. -/
theorem bisect_le_iff {test : Nat → Bool} {low count n : Nat}
    (lasting : ∀ i j, i ≤ j → test i → test j) (above : low ≤ n) (below : n < low + count) :
    bisect test low count ≤ n ↔ test n := by
  fun_induction bisect test low count with
  | case1 low => omega
  | case2 low count _ holds ih =>
    by_cases near : n < low + count / 2
    · exact ih above near
    · have bound := bisect_le test low (count / 2)
      exact ⟨fun _ => lasting _ _ (by omega) holds, fun _ => by omega⟩
  | case3 low count _ fails ih =>
    by_cases far : low + count / 2 < n
    · exact ih far (by omega)
    · have bound := le_bisect test (low + count / 2 + 1) (count - count / 2 - 1)
      exact ⟨fun _ => by omega, fun holds => absurd (lasting _ _ (by omega) holds) fails⟩

/-- The number of rows at the front for which a test holds. -/
def partitionPoint {α : Type} (test : α → Bool) (rows : List α) : Nat :=
  bisect (fun place => !rows[place]?.any test) 0 rows.length

section

variable {α : Type} {test : α → Bool} {rows : List α}

theorem partitionPoint_le_length (test : α → Bool) (rows : List α) :
    partitionPoint test rows ≤ rows.length := by
  simpa [partitionPoint] using bisect_le (fun place => !rows[place]?.any test) 0 rows.length

variable (parted : rows.Pairwise fun one two => test two → test one)
include parted

/-- Where no row passes a test any more, no later row does. -/
theorem fails_of_le {i j : Nat} (order : i ≤ j) (ends : !rows[i]?.any test) :
    !rows[j]?.any test := by
  rcases Nat.eq_or_lt_of_le order with rfl | before
  · exact ends
  · cases behind : rows[j]? with
    | none => rfl
    | some two =>
      obtain ⟨inside, rfl⟩ := List.getElem?_eq_some_iff.1 behind
      have holds := List.pairwise_iff_getElem.1 parted i j (by omega) inside before
      rw [List.getElem?_eq_getElem (by omega)] at ends
      cases test rows[j] <;> simp_all

theorem partitionPoint_le_iff {n : Nat} (inside : n < rows.length) :
    partitionPoint test rows ≤ n ↔ test rows[n] = false := by
  rw [partitionPoint, bisect_le_iff (fun _ _ => fails_of_le parted) (Nat.zero_le n) (by omega),
    List.getElem?_eq_getElem inside]
  simp

/-- Behind the partition point are the rows from the first one on for which the test does not hold,
if it holds for no row behind that one. -/
theorem drop_partitionPoint : rows.drop (partitionPoint test rows) = rows.dropWhile test := by
  have first : rows.findIdx (fun row => !test row) = partitionPoint test rows := by
    rcases Nat.eq_or_lt_of_le (partitionPoint_le_length test rows) with past | inside
    · rw [past, List.findIdx_eq_length]
      intro row listed
      obtain ⟨n, inside, rfl⟩ := List.mem_iff_getElem.1 listed
      simpa [past, Nat.not_le.2 inside] using partitionPoint_le_iff parted inside
    · refine (List.findIdx_eq inside).2 ⟨?_, fun n before => ?_⟩
      · simpa using (partitionPoint_le_iff parted inside).1 (Nat.le_refl _)
      · simpa [Nat.not_le.2 before] using partitionPoint_le_iff parted (n := n) (by omega)
  rw [List.dropWhile_eq_drop_findIdx_not, first]

end

end ClusterProxy
