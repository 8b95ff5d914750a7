import Mathlib.Data.List.Induction
import Mathlib.Data.List.Nodup

/-!
# Lists without their repeats

Leaving out what is met again keeps the first occurrence of each element, so the elements that are
left stand in the order in which they first occur (`pairwise_idxOf_eraseDups`).
-/

namespace ClusterProxy

variable {α : Type} [DecidableEq α]

/-- What is met again is left out. -/
theorem eraseDups_concat (front : List α) (last : α) :
    (front ++ [last]).eraseDups =
      if last ∈ front then front.eraseDups else front.eraseDups ++ [last] := by
  rw [List.eraseDups_append]
  by_cases met : last ∈ front
  · simp [List.removeAll, met]
  · simp [List.removeAll, met, List.eraseDups_cons]

/-- What is left stands in the order of the first occurrences. -/
theorem pairwise_idxOf_eraseDups (list : List α) :
    list.eraseDups.Pairwise fun one other => list.idxOf one < list.idxOf other := by
  induction list using List.reverseRecOn with
  | nil => simp
  | append_singleton front last ih =>
    have kept : front.eraseDups.Pairwise fun one other =>
        (front ++ [last]).idxOf one < (front ++ [last]).idxOf other := by
      refine ih.imp_of_mem fun first second before => ?_
      rw [List.idxOf_append_of_mem (List.mem_eraseDups.1 first),
        List.idxOf_append_of_mem (List.mem_eraseDups.1 second)]
      exact before
    rw [eraseDups_concat]
    split
    · exact kept
    · next fresh =>
      refine List.pairwise_append.2 ⟨kept, List.pairwise_singleton _ _, ?_⟩
      intro one listed other new
      obtain rfl := List.mem_singleton.1 new
      have met := List.mem_eraseDups.1 listed
      rw [List.idxOf_append_of_mem met, List.idxOf_append_of_notMem fresh]
      exact Nat.lt_add_right _ (List.idxOf_lt_length_of_mem met)

theorem nodup_eraseDups (list : List α) : list.eraseDups.Nodup :=
  (pairwise_idxOf_eraseDups list).imp fun before same => by
    rw [same] at before
    exact Nat.lt_irrefl _ before

end ClusterProxy
