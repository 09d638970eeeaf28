/-!
# The last one counts

Tables are read entry by entry and configurations file by file, and what comes
later takes the place of what came before.  `lastSaid` is that rule by itself:
the last thing that any element of a list says.  `lastSaid_concat` is its step
along the list, and `lastSaid_eq_some_iff` the element that had the last word.
-/

namespace ScriptQuote

variable {α γ : Type}

/-- The last thing that an element of the list says. -/
def lastSaid (say : α → Option γ) (l : List α) : Option γ := l.reverse.findSome? say

variable {say : α → Option γ}

theorem lastSaid_concat (l : List α) (a : α) :
    lastSaid say (l ++ [a]) = (say a).or (lastSaid say l) := by
  rw [lastSaid, List.reverse_concat, List.findSome?_cons]
  cases say a <;> rfl

theorem lastSaid_eq_none_iff {l : List α} :
    lastSaid say l = none ↔ ∀ a ∈ l, say a = none := by
  rw [lastSaid, List.findSome?_eq_none_iff]
  simp only [List.mem_reverse]

/-- An element says it, and no later one says anything. -/
theorem lastSaid_eq_some_iff {l : List α} {c : γ} :
    lastSaid say l = some c ↔
      ∃ before a after, l = before ++ a :: after ∧ say a = some c ∧
        ∀ x ∈ after, say x = none := by
  rw [lastSaid, List.findSome?_eq_some_iff]
  constructor
  · rintro ⟨after, a, before, hl, ha, hafter⟩
    refine ⟨before.reverse, a, after.reverse, ?_, ha, ?_⟩
    · rw [List.reverse_eq_iff.mp hl, List.reverse_append, List.reverse_cons,
        List.append_assoc]
      rfl
    · intro x hx
      exact hafter x (List.mem_reverse.mp hx)
  · rintro ⟨before, a, after, rfl, ha, hafter⟩
    refine ⟨after.reverse, a, before.reverse, ?_, ha, ?_⟩
    · rw [List.reverse_append, List.reverse_cons, List.append_assoc]
      rfl
    · intro x hx
      exact hafter x (List.mem_reverse.mp hx)

end ScriptQuote
