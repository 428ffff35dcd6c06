import ReminderScan.Text.Blank

/-! Texts without certain characters at their ends: those that stripping leaves as they are. -/

namespace ReminderScan.Text

variable {p : Char → Bool} {text : List Char}

/-- The text neither starts nor ends with a character for which `p` holds. -/
def Bare (p : Char → Bool) (text : List Char) : Prop :=
  (∀ c ∈ text.head?, p c = false) ∧ ∀ c ∈ text.getLast?, p c = false

instance : Decidable (Bare p text) :=
  decidable_of_iff (text.head?.all (!p ·) = true ∧ text.getLast?.all (!p ·) = true) (by
    simp only [Bare, Option.all_eq_true, Option.mem_def, Bool.not_eq_true'])

theorem dropWhile_of_head? (h : ∀ c ∈ text.head?, p c = false) : text.dropWhile p = text := by
  cases text with
  | nil => rfl
  | cons c rest =>
    have hc := h c rfl
    rw [List.dropWhile_cons, hc]
    rfl

theorem head?_dropWhile (p : Char → Bool) (text : List Char) :
    ∀ c ∈ (text.dropWhile p).head?, p c = false := by
  intro c hc
  have hnot := List.head?_dropWhile_not p text
  rw [Option.mem_def.1 hc] at hnot
  exact hnot

theorem dropWhile_eq_self_iff : text.dropWhile p = text ↔ ∀ c ∈ text.head?, p c = false := by
  constructor
  · intro h
    rw [← h]
    exact head?_dropWhile p text
  · exact dropWhile_of_head?

theorem stripBoth_of_bare (h : Bare p text) : stripBoth p text = text := by
  have hend : ∀ c ∈ text.reverse.head?, p c = false := by
    intro c hc
    rw [List.head?_reverse] at hc
    exact h.2 c hc
  rw [stripBoth, dropWhile_of_head? h.1, dropWhile_of_head? hend, List.reverse_reverse]

theorem getLast?_stripBoth (p : Char → Bool) (text : List Char) :
    ∀ c ∈ (stripBoth p text).getLast?, p c = false := by
  intro c hc
  rw [stripBoth, List.getLast?_reverse] at hc
  exact head?_dropWhile p _ c hc

theorem stripBoth_isPrefix_dropWhile (p : Char → Bool) (text : List Char) :
    (stripBoth p text).IsPrefix (text.dropWhile p) := by
  have hsuffix := List.dropWhile_suffix p (l := (text.dropWhile p).reverse)
  rw [← List.reverse_prefix, List.reverse_reverse] at hsuffix
  exact hsuffix

theorem bare_stripBoth (p : Char → Bool) (text : List Char) : Bare p (stripBoth p text) := by
  refine ⟨?_, getLast?_stripBoth p text⟩
  intro c hc
  obtain ⟨rest, hrest⟩ := stripBoth_isPrefix_dropWhile p text
  apply head?_dropWhile p text c
  rw [← hrest, List.head?_append, Option.mem_def.1 hc]
  rfl

theorem stripBoth_sublist (p : Char → Bool) (text : List Char) : (stripBoth p text).Sublist text :=
  (stripBoth_isPrefix_dropWhile p text).sublist.trans (List.dropWhile_suffix p).sublist

theorem stripBoth_eq_self_iff : stripBoth p text = text ↔ Bare p text := by
  constructor
  · intro h
    rw [← h]
    exact bare_stripBoth p text
  · exact stripBoth_of_bare

end ReminderScan.Text
