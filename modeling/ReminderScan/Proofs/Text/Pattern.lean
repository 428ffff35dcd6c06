import ReminderScan.Text.Pattern

/-! What a pattern reads, apart from the order in which the ways to read it are tried. A match is a
reading, and where there is a reading that can go on there is a match. -/

namespace ReminderScan.Text.Pattern

variable {α : Type} {kind : Char → Bool} {groups after : Groups} {text taken rest : List Char}

/-- The pattern can read a text, and then has these groups. -/
def Reads : Pattern → Groups → List Char → Groups → Prop
  | nothing, groups, taken, after => taken = [] ∧ after = groups
  | one kind, groups, taken, after => ∃ c, taken = [c] ∧ kind c = true ∧ after = groups
  | many kind, groups, taken, after => (∀ c ∈ taken, kind c = true) ∧ after = groups
  | both first second, groups, taken, after =>
    ∃ start between finish, taken = start ++ finish ∧ first.Reads groups start between ∧
      second.Reads between finish after
  | optional part, groups, taken, after =>
    part.Reads groups taken after ∨ taken = [] ∧ after = groups
  | group number part, groups, taken, after =>
    ∃ inside, part.Reads groups taken inside ∧ after = (number, taken) :: inside

theorem reads_sequence_cons {p : Pattern} {parts : List Pattern} :
    (sequence (p :: parts)).Reads groups taken after ↔
      ∃ start between finish, taken = start ++ finish ∧ p.Reads groups start between ∧
        (sequence parts).Reads between finish after := Iff.rfl

theorem reads_sequence_nil : (sequence []).Reads groups taken after ↔ taken = [] ∧ after = groups :=
  Iff.rfl

theorem reads_many : (many kind).Reads groups taken after ↔
    (∀ c ∈ taken, kind c = true) ∧ after = groups := Iff.rfl

theorem reads_group {number : Nat} {part : Pattern} :
    (group number part).Reads groups taken after ↔
      ∃ inside, part.Reads groups taken inside ∧ after = (number, taken) :: inside := Iff.rfl

@[simp] theorem reads_literal {word : List Char} :
    (literal word).Reads groups taken after ↔ taken = word ∧ after = groups := by
  induction word generalizing taken with
  | nil => exact Iff.rfl
  | cons c word ih =>
    rw [literal, List.map_cons, reads_sequence_cons]
    constructor
    · rintro ⟨start, between, finish, rfl, ⟨d, rfl, hd, rfl⟩, hrest⟩
      obtain ⟨rfl, rfl⟩ := ih.1 hrest
      obtain rfl : d = c := by simpa using hd
      exact ⟨rfl, rfl⟩
    · rintro ⟨rfl, rfl⟩
      exact ⟨[c], after, word, rfl, ⟨c, rfl, by simp, rfl⟩, ih.2 ⟨rfl, rfl⟩⟩

@[simp] theorem reads_times {n : Nat} : (times n kind).Reads groups taken after ↔
    (taken.length = n ∧ ∀ c ∈ taken, kind c = true) ∧ after = groups := by
  induction n generalizing taken with
  | zero =>
    rw [times, List.replicate_zero, reads_sequence_nil]
    constructor
    · rintro ⟨rfl, rfl⟩
      simp
    · rintro ⟨⟨hlength, -⟩, rfl⟩
      exact ⟨List.length_eq_zero_iff.1 hlength, rfl⟩
  | succ n ih =>
    rw [times, List.replicate_succ, reads_sequence_cons]
    constructor
    · rintro ⟨start, between, finish, rfl, ⟨c, rfl, hc, rfl⟩, hrest⟩
      obtain ⟨⟨hlength, hall⟩, rfl⟩ := ih.1 hrest
      exact ⟨⟨by simp [hlength], by simpa using ⟨hc, hall⟩⟩, rfl⟩
    · rintro ⟨⟨hlength, hall⟩, rfl⟩
      obtain ⟨c, finish, rfl⟩ := List.exists_cons_of_length_eq_add_one hlength
      obtain ⟨hc, hrest⟩ := List.forall_mem_cons.1 hall
      exact ⟨[c], after, finish, rfl, ⟨c, rfl, hc, rfl⟩,
        ih.2 ⟨⟨by simpa using hlength, hrest⟩, rfl⟩⟩

@[simp] theorem reads_some : (some kind).Reads groups taken after ↔
    (taken ≠ [] ∧ ∀ c ∈ taken, kind c = true) ∧ after = groups := by
  constructor
  · rintro ⟨start, between, finish, rfl, ⟨c, rfl, hc, rfl⟩, hall, rfl⟩
    exact ⟨⟨by simp, by simpa using ⟨hc, hall⟩⟩, rfl⟩
  · rintro ⟨⟨hne, hall⟩, rfl⟩
    obtain ⟨c, finish, rfl⟩ := List.exists_cons_of_ne_nil hne
    obtain ⟨hc, hrest⟩ := List.forall_mem_cons.1 hall
    exact ⟨[c], after, finish, rfl, ⟨c, rfl, hc, rfl⟩, hrest, rfl⟩

/-- The parts of a sequence are tried one after another. -/
theorem attempt_sequence_append (parts more : List Pattern) (groups : Groups) (text : List Char)
    (next : Groups → List Char → Option α) :
    (sequence (parts ++ more)).attempt groups text next =
      (sequence parts).attempt groups text fun groups rest =>
        (sequence more).attempt groups rest next := by
  induction parts generalizing groups text with
  | nil => rfl
  | cons p parts ih =>
    change p.attempt groups text _ = p.attempt groups text _
    congr 1
    funext between rest
    exact ih between rest

theorem attemptMany_sound {next : List Char → Option α} {a : α}
    (h : attemptMany kind next text = .some a) :
    ∃ taken rest, text = taken ++ rest ∧ (∀ c ∈ taken, kind c = true) ∧ next rest = .some a := by
  induction text with
  | nil => exact ⟨[], [], rfl, by simp, h⟩
  | cons c text ih =>
    rw [attemptMany] at h
    split at h
    · next hc =>
      rw [Option.orElse_eq_orElse, Option.orElse_eq_or, Option.or_eq_some_iff] at h
      rcases h with hmore | ⟨-, hnow⟩
      · obtain ⟨taken, rest, rfl, hall, hnext⟩ := ih hmore
        exact ⟨c :: taken, rest, rfl, by simpa using ⟨hc, hall⟩, hnext⟩
      · exact ⟨[], c :: text, rfl, by simp, hnow⟩
    · exact ⟨[], c :: text, rfl, by simp, h⟩

theorem attemptMany_complete {next : List Char → Option α} (hall : ∀ c ∈ taken, kind c = true)
    (hnext : (next rest).isSome) : (attemptMany kind next (taken ++ rest)).isSome := by
  induction taken with
  | nil =>
    cases rest with
    | nil => exact hnext
    | cons c rest =>
      rw [List.nil_append, attemptMany]
      split
      · simp [hnext]
      · exact hnext
  | cons c taken ih =>
    obtain ⟨hc, hrest⟩ := List.forall_mem_cons.1 hall
    rw [List.cons_append, attemptMany, if_pos hc]
    simp [ih hrest]

/-- If what stands behind all characters of the kind is accepted, then none is given back. -/
theorem attemptMany_of_longest {next : List Char → Option α} {a : α}
    (h : next (text.dropWhile kind) = .some a) : attemptMany kind next text = .some a := by
  induction text with
  | nil => exact h
  | cons c text ih =>
    rw [List.dropWhile_cons] at h
    rw [attemptMany]
    split
    · next hc =>
      rw [if_pos hc] at h
      simp [ih h]
    · next hc => rwa [if_neg hc] at h

/-- A match is a reading of the start of the text, from which it goes on. -/
theorem attempt_sound (p : Pattern) {next : Groups → List Char → Option α} {a : α}
    (h : p.attempt groups text next = .some a) :
    ∃ taken rest after, text = taken ++ rest ∧ p.Reads groups taken after ∧
      next after rest = .some a := by
  induction p generalizing groups text next with
  | nothing => exact ⟨[], text, groups, rfl, ⟨rfl, rfl⟩, h⟩
  | one kind =>
    cases text with
    | nil => simp [attempt] at h
    | cons c rest =>
      rw [attempt] at h
      split at h
      · next hc => exact ⟨[c], rest, groups, rfl, ⟨c, rfl, hc, rfl⟩, h⟩
      · simp at h
  | many kind =>
    obtain ⟨taken, rest, rfl, hall, hnext⟩ := attemptMany_sound h
    exact ⟨taken, rest, groups, rfl, ⟨hall, rfl⟩, hnext⟩
  | both first second ihf ihs =>
    obtain ⟨start, middle, between, rfl, hstart, h⟩ := ihf h
    obtain ⟨finish, rest, after, rfl, hfinish, h⟩ := ihs h
    exact ⟨start ++ finish, rest, after, by simp, ⟨start, between, finish, rfl, hstart, hfinish⟩, h⟩
  | optional part ih =>
    rw [attempt, Option.orElse_eq_orElse, Option.orElse_eq_or, Option.or_eq_some_iff] at h
    rcases h with hpart | ⟨-, hnext⟩
    · obtain ⟨taken, rest, after, rfl, hreads, hnext⟩ := ih hpart
      exact ⟨taken, rest, after, rfl, Or.inl hreads, hnext⟩
    · exact ⟨[], text, groups, rfl, Or.inr ⟨rfl, rfl⟩, hnext⟩
  | group number part ih =>
    obtain ⟨taken, rest, inside, rfl, hreads, hnext⟩ := ih h
    refine ⟨taken, rest, (number, taken) :: inside, rfl, ⟨inside, hreads, rfl⟩, ?_⟩
    simpa using hnext

/-- Where a reading can go on, there is a match. -/
theorem attempt_complete (p : Pattern) {next : Groups → List Char → Option α}
    (hreads : p.Reads groups taken after) (hnext : (next after rest).isSome) :
    (p.attempt groups (taken ++ rest) next).isSome := by
  induction p generalizing groups taken rest after next with
  | nothing =>
    obtain ⟨rfl, rfl⟩ := hreads
    exact hnext
  | one kind =>
    obtain ⟨c, rfl, hc, rfl⟩ := hreads
    simp [attempt, hc, hnext]
  | many kind =>
    obtain ⟨hall, rfl⟩ := hreads
    exact attemptMany_complete hall hnext
  | both first second ihf ihs =>
    obtain ⟨start, between, finish, rfl, hstart, hfinish⟩ := hreads
    rw [List.append_assoc]
    exact ihf hstart (ihs hfinish hnext)
  | optional part ih =>
    rcases hreads with hpart | ⟨rfl, rfl⟩
    · simp [attempt, ih hpart hnext]
    · simp [attempt, hnext]
  | group number part ih =>
    obtain ⟨inside, hpart, rfl⟩ := hreads
    refine ih hpart ?_
    simpa using hnext

theorem matchesTo_eq_true_iff {p : Pattern} {ends : List Char → Bool} :
    p.matchesTo ends text = true ↔
    ∃ taken rest after, text = taken ++ rest ∧ p.Reads [] taken after ∧ ends rest = true := by
  rw [matchesTo]
  constructor
  · intro h
    obtain ⟨found, hfound⟩ := Option.isSome_iff_exists.1 h
    obtain ⟨taken, rest, after, htext, hreads, hends⟩ := attempt_sound p hfound
    exact ⟨taken, rest, after, htext, hreads, (Option.ite_none_right_eq_some.1 hends).1⟩
  · rintro ⟨taken, rest, after, rfl, hreads, hends⟩
    apply attempt_complete p hreads
    rw [if_pos hends]
    rfl

theorem exists_match?_of_search? {p : Pattern} {rest : List Char}
    (h : p.search? text = .some (groups, rest)) : ∃ i, p.match? (text.drop i) = .some groups := by
  induction text with
  | nil => cases h
  | cons c text ih =>
    rw [search?] at h
    split at h
    · rename_i found hfound
      obtain ⟨rfl, -⟩ := Prod.mk.inj (Option.some.inj h)
      exact ⟨0, hfound⟩
    · obtain ⟨i, hi⟩ := ih h
      exact ⟨i + 1, hi⟩

theorem search?_eq_none {p : Pattern} (h : ∀ i, p.match? (text.drop i) = none) :
    p.search? text = none := by
  induction text with
  | nil => rfl
  | cons c text ih =>
    have hc := h 0
    rw [List.drop_zero] at hc
    rw [search?, hc]
    exact ih fun i => h (i + 1)

theorem match?_of_search?_eq_none {p : Pattern} (h : p.search? text = none) {i : Nat}
    (hi : i < text.length) : p.match? (text.drop i) = none := by
  induction text generalizing i with
  | nil => simp at hi
  | cons c text ih =>
    rw [search?] at h
    split at h
    · simp at h
    · next hnone =>
      cases i with
      | zero => exact hnone
      | succ i => exact ih h (by simpa using hi)

/-- The search finds the match at the first character where there is one. -/
theorem search?_eq_some {p : Pattern} {i : Nat} (hi : i < text.length)
    (hm : p.match? (text.drop i) = .some groups) (hfirst : ∀ j < i, p.match? (text.drop j) = none) :
    p.search? text = .some (groups, text.drop (i + 1)) := by
  induction text generalizing i with
  | nil => simp at hi
  | cons c text ih =>
    cases i with
    | zero =>
      rw [List.drop_zero] at hm
      rw [search?, hm]
      rfl
    | succ i =>
      have hc := hfirst 0 (by omega)
      rw [List.drop_zero] at hc
      rw [search?, hc]
      exact ih (by simpa using hi) hm fun j hj => hfirst (j + 1) (by omega)

end ReminderScan.Text.Pattern
