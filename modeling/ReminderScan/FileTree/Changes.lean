import ReminderScan.FileTree.Basic

/-! The differences between two trees of files, as what has to be done to get from one to the
other. -/

namespace ReminderScan.FileTree

/-- The places where nothing is left, the deepest first. -/
def removed (before after : FileTree) : List (Place × Node) :=
  (before.nodes.filter fun e => (after.get? e.1).isNone).mergeSort
    fun a b => b.1.length ≤ a.1.length

/-- What stands at places where it did not stand before, a directory before what is in it. -/
def placed (before after : FileTree) : List (Place × Node) :=
  (after.nodes.filter fun e => before.get? e.1 ≠ some e.2).mergeSort
    fun a b => a.1.length ≤ b.1.length

/-- A tree with the same content needs no change. -/
theorem placed_eq_nil_iff {before after : FileTree} :
    placed before after = [] ↔ ∀ e ∈ after.nodes, before.get? e.1 = some e.2 := by
  constructor
  · intro h e he
    by_cases hd : before.get? e.1 = some e.2
    · exact hd
    have hm : e ∈ placed before after :=
      List.mem_mergeSort.2 (List.mem_filter.2 ⟨he, by simpa using hd⟩)
    rw [h] at hm
    exact absurd hm List.not_mem_nil
  · intro h
    refine List.eq_nil_iff_forall_not_mem.2 fun e he => ?_
    have hm := List.mem_filter.1 (List.mem_mergeSort.1 he)
    simp [h e hm.1] at hm

end ReminderScan.FileTree
