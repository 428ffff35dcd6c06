import ReminderScan.Text.Reader

/-! A reader that stops at a character reads the part of a text before that character as if nothing
were behind it. So a text that is read around the character is read in its two parts. -/

namespace ReminderScan.Text.Reader

variable {α β : Type} {c between : Char} {read first : Reader α} {second : Reader β}
  {text : List Char}

theorem whole_eq_some_iff {a : α} : read.whole text = some a ↔ read text = some (a, []) := by
  rw [whole]
  constructor
  · intro h
    split at h
    · rename_i hread
      obtain rfl := Option.some.inj h
      exact hread
    · cases h
  · intro h
    rw [h]

theorem whole_around_eq_some_iff {a : α} {b : β} :
    (around between first second).whole text = some (a, b) ↔
      ∃ rest, first text = some (a, between :: rest) ∧ second.whole rest = some b := by
  simp only [whole_eq_some_iff, around]
  constructor
  · intro h
    split at h
    · rename_i d rest hfirst
      split at h
      · rename_i hbetween
        obtain ⟨⟨b, left⟩, hsecond, heq⟩ := Option.map_eq_some_iff.1 h
        cases heq
        exact ⟨rest, hbetween ▸ hfirst, hsecond⟩
      · cases h
    · cases h
  · rintro ⟨rest, hfirst, hsecond⟩
    rw [hfirst]
    dsimp only
    rw [if_pos rfl, hsecond]
    rfl

/-- The reader never takes the character, and what is behind the character decides nothing. -/
def StopsAt (c : Char) (read : Reader α) : Prop :=
  ∀ text rest, read (text ++ c :: rest) = (read text).map fun (a, left) => (a, left ++ c :: rest)

theorem stopsAt_upToTwo {together : Char → Char → Bool} {alone : Char → Bool}
    (hfirst : ∀ b, together c b = false) (hsecond : ∀ a, together a c = false)
    (halone : alone c = false) :
    StopsAt c (upToTwo together alone) := by
  intro text rest
  rcases text with _ | ⟨a, _ | ⟨b, text⟩⟩
  · cases rest with
    | nil => simp [upToTwo, halone]
    | cons b rest => simp [upToTwo, hfirst, halone]
  · simp only [List.cons_append, List.nil_append, upToTwo, hsecond, Bool.false_eq_true, if_false]
    split
    · rfl
    · rfl
  · simp only [List.cons_append, upToTwo]
    split
    · rfl
    · split
      · rfl
      · rfl

theorem StopsAt.around (hfirst : StopsAt c first) (hsecond : StopsAt c second) (hc : c ≠ between) :
    StopsAt c (around between first second) := by
  intro text rest
  rw [Reader.around, Reader.around, hfirst]
  rcases first text with _ | ⟨a, _ | ⟨d, left⟩⟩
  · rfl
  · exact if_neg hc
  · simp only [Option.map_some, List.cons_append]
    split
    · rw [hsecond, Option.map_map, Option.map_map]
      rfl
    · rfl

theorem StopsAt.whole_append (h : StopsAt c read) (text rest : List Char) :
    read.whole (text ++ c :: rest) = none := by
  apply Option.eq_none_iff_forall_ne_some.2
  intro a hwhole
  rw [whole_eq_some_iff, h] at hwhole
  obtain ⟨⟨_, left⟩, -, heq⟩ := Option.map_eq_some_iff.1 hwhole
  exact List.append_ne_nil_of_right_ne_nil left (List.cons_ne_nil c rest) (Prod.mk.inj heq).2

/-- The two parts of a text are read for themselves. -/
theorem whole_around_append (hfirst : StopsAt c first) {rest : List Char}
    (hagain : ∀ a left, first text = some (a, c :: left) →
      second.whole (left ++ c :: rest) = none) :
    (around c first second).whole (text ++ c :: rest) =
      (first.whole text).bind fun a => (second.whole rest).map fun b => (a, b) := by
  apply Option.ext
  rintro ⟨a, b⟩
  rw [whole_around_eq_some_iff, hfirst, Option.bind_eq_some_iff]
  constructor
  · rintro ⟨behind, hbehind, hsecond⟩
    obtain ⟨⟨_, left⟩, hread, heq⟩ := Option.map_eq_some_iff.1 hbehind
    obtain ⟨rfl, hleft⟩ := Prod.mk.inj heq
    cases left with
    | nil =>
      obtain rfl := (List.cons.inj hleft).2
      exact ⟨_, whole_eq_some_iff.2 hread, Option.map_eq_some_iff.2 ⟨b, hsecond, rfl⟩⟩
    | cons d left =>
      -- The first value ends early, at the same character: then the second would have to read over
      -- it.
      obtain ⟨rfl, rfl⟩ := List.cons.inj hleft
      cases (hagain _ left hread).symm.trans hsecond
  · rintro ⟨_, hread, hboth⟩
    obtain ⟨_, hsecond, heq⟩ := Option.map_eq_some_iff.1 hboth
    obtain ⟨rfl, rfl⟩ := Prod.mk.inj heq
    exact ⟨rest, Option.map_eq_some_iff.2 ⟨_, whole_eq_some_iff.1 hread, rfl⟩, hsecond⟩

end ReminderScan.Text.Reader
