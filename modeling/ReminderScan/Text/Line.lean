/-! Line ends: a line feed, a carriage return, or the two together. No other separator ends a
line. -/

namespace ReminderScan.Text

/-- Every line end written as a line feed, as a text file is read. -/
def unifyLineEnds : List Char → List Char
  | [] => []
  | '\r' :: '\n' :: rest => '\n' :: unifyLineEnds rest
  | '\r' :: rest => '\n' :: unifyLineEnds rest
  | c :: rest => c :: unifyLineEnds rest

def prependToFirst (c : Char) : List (List Char) → List (List Char)
  | [] => [[c]]
  | line :: lines => (c :: line) :: lines

/-- The lines of a text without their ends. A text that ends with a line end has an empty last
line, so there is always at least one. -/
def lines : List Char → List (List Char)
  | [] => [[]]
  | '\r' :: '\n' :: rest => [] :: lines rest
  | '\r' :: rest => [] :: lines rest
  | '\n' :: rest => [] :: lines rest
  | c :: rest => prependToFirst c (lines rest)

@[simp] theorem prependToFirst_ne_nil (c : Char) (ls : List (List Char)) :
    prependToFirst c ls ≠ [] := by
  cases ls <;> simp [prependToFirst]

theorem lines_ne_nil (text : List Char) : lines text ≠ [] := by
  fun_cases lines text <;> simp

theorem not_end_of_mem_lines {text line : List Char} (h : line ∈ lines text) :
    ∀ c ∈ line, c ≠ '\r' ∧ c ≠ '\n' := by
  fun_induction lines text generalizing line with
  | case1 =>
    obtain rfl := List.mem_singleton.1 h
    simp
  | case2 rest ih =>
    rcases List.mem_cons.1 h with rfl | h
    · simp
    · exact ih h
  | case3 rest _ ih =>
    rcases List.mem_cons.1 h with rfl | h
    · simp
    · exact ih h
  | case4 rest ih =>
    rcases List.mem_cons.1 h with rfl | h
    · simp
    · exact ih h
  | case5 c rest _ hr hn ih =>
    obtain ⟨first, others, hlines⟩ := List.exists_cons_of_ne_nil (lines_ne_nil rest)
    rw [hlines] at h ih
    rcases List.mem_cons.1 h with rfl | h
    · intro d hd
      rcases List.mem_cons.1 hd with rfl | hd
      · exact ⟨hr, hn⟩
      · exact ih List.mem_cons_self d hd
    · exact ih (List.mem_cons_of_mem first h)

end ReminderScan.Text
