import Mathlib.Data.List.TakeWhile
import ReminderScan.Proofs.Tag.Grammar

/-! The first tag in a line. A match in the digits of all scripts that is not in ASCII is passed
over, and what is found in the end is what a search for ASCII digits alone would find. -/

namespace ReminderScan.Tag

open Text Pattern Calendar

variable {digit : Char → Bool} {groups : Groups} {text body : List Char}

/-- The message: from the first character that is not blank to the end of its line, without the
blanks at its end. -/
def messageOf (body : List Char) : List Char :=
  trimEnd ((trimStart body).takeWhile fun c => c ≠ '\n')

/-- What is left to match behind a header. -/
def note? (groups : Groups) (body : List Char) : Option Groups :=
  (sequence noteParts).attempt groups body fun groups _ => .some groups

/-- What stands before the rest of a text is taken. -/
theorem take_length_sub (kind : Char → Bool) (text : List Char) :
    text.take (text.length - (text.dropWhile kind).length) = text.takeWhile kind := by
  have hsplit := List.takeWhile_append_dropWhile (p := kind) (l := text)
  have hlength : text.length - (text.dropWhile kind).length = (text.takeWhile kind).length := by
    rw [← congrArg List.length hsplit, List.length_append]
    omega
  rw [hlength]
  exact (List.prefix_iff_eq_take.1 (List.takeWhile_prefix kind)).symm

/-- The group of the message, where the text starts with it. -/
theorem attempt_message (groups : Groups) (text : List Char) :
    (Pattern.group 3 (.some (· ≠ '\n'))).attempt groups text (fun groups _ => Option.some groups) =
      match text with
      | [] => none
      | c :: rest =>
        if c = '\n' then none
        else .some ((3, (c :: rest).takeWhile fun c => c ≠ '\n') :: groups) := by
  cases text with
  | nil => rfl
  | cons c rest =>
    by_cases hc : c = '\n'
    · simp [Pattern.some, attempt, hc]
    · simp only [Pattern.some, attempt, hc, ne_eq, not_false_eq_true, decide_true, if_true,
        if_false]
      refine attemptMany_of_longest ?_
      have htake := take_length_sub (fun c => !decide (c = '\n')) (c :: rest)
      rw [List.dropWhile_cons_of_pos (by simpa using hc)] at htake
      simpa using htake

theorem note?_eq (groups : Groups) (body : List Char) : note? groups body =
    attemptMany isBlank (fun text => (Pattern.group 3 (.some (· ≠ '\n'))).attempt groups text
      fun groups _ => Option.some groups) body := rfl

/-- There is a message where not only line feeds are left. -/
theorem isSome_note? : (note? groups body).isSome ↔ ∃ c ∈ body, c ≠ '\n' := by
  constructor
  · intro h
    obtain ⟨after, ha⟩ := Option.isSome_iff_exists.1 h
    obtain ⟨blanks, rest, rfl, -, hrest⟩ := attemptMany_sound (note?_eq groups body ▸ ha)
    rw [attempt_message] at hrest
    cases rest with
    | nil => simp at hrest
    | cons c rest =>
      refine ⟨c, by simp, fun hc => ?_⟩
      simp [hc] at hrest
  · rintro ⟨c, hc, hne⟩
    have hfind : (body.find? fun c => c ≠ '\n').isSome :=
      List.find?_isSome.2 ⟨c, hc, decide_eq_true hne⟩
    obtain ⟨d, hfirst⟩ := Option.isSome_iff_exists.1 hfind
    obtain ⟨hd, feeds, rest, rfl, hfeeds⟩ := List.find?_eq_some_iff_append.1 hfirst
    have hblank : ∀ x ∈ feeds, isBlank x = true := by
      intro x hx
      obtain rfl : x = '\n' := by simpa using hfeeds x hx
      decide
    rw [note?_eq]
    refine attemptMany_complete hblank ?_
    rw [attempt_message]
    simp [of_decide_eq_true hd]

theorem trim_of_blank {text : List Char} (h : ∀ c ∈ text, isBlank c = true) : trim text = [] := by
  have hstart : trimStart text = [] := List.dropWhile_eq_nil_iff.2 h
  rw [trim, hstart]
  rfl

/-- The message is trimmed to what stands in its line, wherever its group begins. -/
theorem of_note? {after : Groups} (h : note? groups body = .some after) :
    ∃ message, after = (3, message) :: groups ∧ trim message = messageOf body := by
  cases hstart : trimStart body with
  | cons c rest =>
    -- No blank is given back, so the group begins with the first that is not blank.
    have hc : isBlank c = false := by
      have hhead := List.head?_dropWhile_not isBlank body
      rw [show body.dropWhile isBlank = c :: rest from hstart] at hhead
      exact hhead
    have hne : c ≠ '\n' := by
      rintro rfl
      exact absurd hc (by decide)
    have hlongest :
        note? groups body = .some ((3, (c :: rest).takeWhile (· ≠ '\n')) :: groups) := by
      rw [note?_eq]
      refine attemptMany_of_longest ?_
      rw [show body.dropWhile isBlank = c :: rest from hstart, attempt_message]
      simp [hne]
    obtain rfl := Option.some.inj (hlongest.symm.trans h)
    refine ⟨_, rfl, ?_⟩
    rw [messageOf, hstart, trim, List.takeWhile_cons_of_pos (by simpa using hne)]
    congr 1
    simp [trimStart, hc]
  | nil =>
    have hblank : ∀ c ∈ body, isBlank c = true := List.dropWhile_eq_nil_iff.1 hstart
    obtain ⟨blanks, rest, rfl, -, hrest⟩ := attemptMany_sound (note?_eq groups body ▸ h)
    rw [attempt_message] at hrest
    cases rest with
    | nil => simp at hrest
    | cons c rest =>
      simp only [ne_eq, Option.ite_none_left_eq_some, Option.some.injEq] at hrest
      refine ⟨_, hrest.2.symm, ?_⟩
      rw [messageOf, hstart, trim_of_blank]
      · rfl
      · intro d hd
        exact hblank d (List.mem_append_right blanks ((List.takeWhile_prefix _).subset hd))

/-- A match is a header and what the pattern finds behind it. -/
theorem match?_eq_some_iff (hd : Digits digit) : (pattern digit).match? text = .some groups ↔
    ∃ header day time body, text = header ++ body ∧ IsHeader digit header day time ∧
      note? (headerGroups day time) body = .some groups := by
  have hsound : ∀ {after}, (pattern digit).match? text = .some after →
      ∃ header day time body, text = header ++ body ∧ IsHeader digit header day time ∧
        note? (headerGroups day time) body = .some after := by
    intro after h
    rw [match?, pattern_eq, attempt_sequence_append] at h
    obtain ⟨header, body, _, rfl, hreads, hnote⟩ := attempt_sound _ h
    obtain ⟨day, time, hheader, rfl⟩ := reads_header.1 hreads
    exact ⟨header, day, time, body, rfl, hheader, hnote⟩
  refine ⟨hsound, ?_⟩
  rintro ⟨header, day, time, body, rfl, hheader, hnote⟩
  have hsome : ((pattern digit).match? (header ++ body)).isSome := by
    rw [match?, pattern_eq, attempt_sequence_append]
    exact attempt_complete _ (reads_header.2 ⟨day, time, hheader, rfl⟩)
      (Option.isSome_iff_exists.2 ⟨groups, hnote⟩)
  obtain ⟨after, hafter⟩ := Option.isSome_iff_exists.1 hsome
  obtain ⟨header', day', time', body', hsplit, hheader', hnote'⟩ := hsound hafter
  obtain ⟨rfl, rfl, rfl⟩ := isHeader_inj hd hheader hheader' hsplit
  rw [hafter, ← hnote', hnote]

theorem isPlain_iff {day : List Char} {time : Option (List Char)}
    (h : note? (headerGroups day time) body = .some groups) :
    isPlain groups = true ↔ IsAscii day ∧ ∀ t ∈ time, IsAscii t := by
  obtain ⟨message, rfl, -⟩ := of_note? h
  cases time <;> simp [isPlain, headerGroups, List.lookup_cons, IsAscii]

/-- The groups of a match in ASCII digits are those of a match in all digits, if they are in
ASCII. -/
theorem match?_ascii (text : List Char) : (pattern isAsciiDigit).match? text =
    ((pattern isDecimalDigit).match? text).filter isPlain := by
  refine Option.ext fun groups => ?_
  rw [Option.filter_eq_some_iff, match?_eq_some_iff digits_isAsciiDigit,
    match?_eq_some_iff digits_isDecimalDigit]
  constructor
  · rintro ⟨header, day, time, body, htext, hheader, hnote⟩
    obtain ⟨hheader, ha⟩ := (isHeader_ascii_iff header day time).1 hheader
    exact ⟨⟨header, day, time, body, htext, hheader, hnote⟩, (isPlain_iff hnote).2 ha⟩
  · rintro ⟨⟨header, day, time, body, htext, hheader, hnote⟩, hplain⟩
    exact ⟨header, day, time, body, htext,
      (isHeader_ascii_iff header day time).2 ⟨hheader, (isPlain_iff hnote).1 hplain⟩, hnote⟩

theorem firstPlain?_eq (line : List Char) : firstPlain? line =
    match (pattern isDecimalDigit).search? line with
    | none => none
    | .some (groups, rest) => if isPlain groups then .some groups else firstPlain? rest := by
  rw [firstPlain?]
  split <;> simp [*]

/-- The search for a match in ASCII goes on behind the start of any other match. -/
theorem firstPlain?_cons (c : Char) (rest : List Char) : firstPlain? (c :: rest) =
    match ((pattern isDecimalDigit).match? (c :: rest)).filter isPlain with
    | .some groups => .some groups
    | none => firstPlain? rest := by
  rw [firstPlain?_eq, search?]
  cases (pattern isDecimalDigit).match? (c :: rest) with
  | none => exact (firstPlain?_eq rest).symm
  | some groups => cases hp : isPlain groups <;> simp [hp, Option.filter]

/-- Passing over the matches that are not in ASCII comes to a search for ASCII digits alone. -/
theorem firstPlain?_eq_search? (line : List Char) :
    firstPlain? line = ((pattern isAsciiDigit).search? line).map Prod.fst := by
  induction line with
  | nil => exact firstPlain?_eq []
  | cons c rest ih =>
    rw [firstPlain?_cons, ← match?_ascii, search?]
    cases (pattern isAsciiDigit).match? (c :: rest) with
    | none => exact ih
    | some groups => rfl

/-- A tag starts the text, with a day, perhaps a time, and what stands behind its colon. -/
def Annotates (text day : List Char) (time : Option (List Char)) (body : List Char) : Prop :=
  (∃ header, text = header ++ body ∧ IsHeader isAsciiDigit header day time) ∧ ∃ c ∈ body, c ≠ '\n'

theorem match?_of_annotates {day : List Char} {time : Option (List Char)}
    (h : Annotates text day time body) : ∃ message, trim message = messageOf body ∧
      (pattern isAsciiDigit).match? text = .some ((3, message) :: headerGroups day time) := by
  obtain ⟨⟨header, rfl, hheader⟩, hbody⟩ := h
  have hsome : (note? (headerGroups day time) body).isSome := isSome_note?.2 hbody
  obtain ⟨groups, hnote⟩ := Option.isSome_iff_exists.1 hsome
  obtain ⟨message, rfl, hmessage⟩ := of_note? hnote
  exact ⟨message, hmessage,
    (match?_eq_some_iff digits_isAsciiDigit).2 ⟨header, day, time, body, rfl, hheader, hnote⟩⟩

theorem match?_eq_none_iff (text : List Char) : (pattern isAsciiDigit).match? text = none ↔
    ∀ day time body, ¬ Annotates text day time body := by
  constructor
  · intro hnone day time body h
    obtain ⟨message, -, hmatch⟩ := match?_of_annotates h
    simp [hnone] at hmatch
  · intro h
    refine Option.eq_none_iff_forall_ne_some.2 fun groups hmatch => ?_
    obtain ⟨header, day, time, body, htext, hheader, hnote⟩ :=
      (match?_eq_some_iff digits_isAsciiDigit).1 hmatch
    exact h day time body ⟨⟨header, htext, hheader⟩,
      isSome_note?.1 (Option.isSome_iff_exists.2 ⟨groups, hnote⟩)⟩

theorem ofGroups_headerGroups (defaultTime : String) (message day : List Char)
    {time : Option (List Char)} (htime : time ≠ .some []) :
    ofGroups defaultTime ((3, message) :: headerGroups day time) =
      { date := String.ofList day
        time := String.ofList (time.getD defaultTime.toList)
        message := String.ofList (trim message)
        scheduled := Timestamp.ofDateAndTime? day (time.getD defaultTime.toList) } := by
  rcases time with _ | _ | ⟨c, rest⟩
  · rfl
  · exact absurd rfl htime
  · rfl

theorem time_ne_nil_of_annotates {day : List Char} {time : Option (List Char)}
    (h : Annotates text day time body) : time ≠ .some [] := by
  obtain ⟨⟨_, -, _, _, _, -, -, -, -, hbracket⟩, -⟩ := h
  rcases hbracket with ⟨-, rfl⟩ | ⟨_, t, -, -, ⟨hne, -⟩, rfl⟩
  · simp
  · simpa using hne

theorem lt_length_of_annotates {line day : List Char} {time : Option (List Char)} {i : Nat}
    (h : Annotates (line.drop i) day time body) : i < line.length := by
  refine Nat.lt_of_not_le fun hle => ?_
  obtain ⟨⟨_, hsplit, _, _, _, rfl, -⟩, -⟩ := h
  simp [List.drop_eq_nil_of_le hle] at hsplit

/-- The first tag in a line. -/
def Leads (line day : List Char) (time : Option (List Char)) (body : List Char) : Prop :=
  ∃ i, Annotates (line.drop i) day time body ∧
    ∀ j < i, ∀ day time body, ¬Annotates (line.drop j) day time body

/-- The first tag in a line decides. -/
theorem read?_of_leads {line day body : List Char} {time : Option (List Char)}
    (h : Leads line day time body) (defaultTime : String) : read? defaultTime line = .some
      { date := String.ofList day
        time := String.ofList (time.getD defaultTime.toList)
        message := String.ofList (messageOf body)
        scheduled := Timestamp.ofDateAndTime? day (time.getD defaultTime.toList) } := by
  obtain ⟨i, hannotates, hfirst⟩ := h
  obtain ⟨message, hmessage, hmatch⟩ := match?_of_annotates hannotates
  have hsearch := search?_eq_some (lt_length_of_annotates hannotates) hmatch
    fun j hj => (match?_eq_none_iff _).2 (hfirst j hj)
  rw [read?, firstPlain?_eq_search?, hsearch, Option.map_some, Option.map_some,
    ofGroups_headerGroups _ _ _ (time_ne_nil_of_annotates hannotates), hmessage]

theorem leads_of_annotates {line day body : List Char} {time : Option (List Char)}
    (h : Annotates line day time body) : Leads line day time body :=
  ⟨0, h, fun j hj => absurd hj j.not_lt_zero⟩

/-- A tag at the start of a line decides. -/
theorem read?_of_annotates {line day body : List Char} {time : Option (List Char)}
    (h : Annotates line day time body) (defaultTime : String) : read? defaultTime line = .some
      { date := String.ofList day
        time := String.ofList (time.getD defaultTime.toList)
        message := String.ofList (messageOf body)
        scheduled := Timestamp.ofDateAndTime? day (time.getD defaultTime.toList) } :=
  read?_of_leads (leads_of_annotates h) defaultTime

theorem isDay_of_leads {line day body : List Char} {time : Option (List Char)}
    (h : Leads line day time body) : IsDay isAsciiDigit day := by
  obtain ⟨_, ⟨⟨_, -, _, _, _, -, -, -, hday, -⟩, -⟩, -⟩ := h
  exact hday

/-- What is read of a line is a tag that some place in the line starts. -/
theorem exists_annotates_of_read? {defaultTime : String} {line : List Char} {tag : Tag}
    (h : read? defaultTime line = .some tag) :
    ∃ i day time body, Annotates (line.drop i) day time body ∧
      tag = { date := String.ofList day
              time := String.ofList (time.getD defaultTime.toList)
              message := String.ofList (messageOf body)
              scheduled := Timestamp.ofDateAndTime? day (time.getD defaultTime.toList) } := by
  rw [read?, firstPlain?_eq_search?] at h
  obtain ⟨groups, hfirst, rfl⟩ := Option.map_eq_some_iff.1 h
  obtain ⟨⟨found, rest⟩, hsearch, rfl⟩ := Option.map_eq_some_iff.1 hfirst
  obtain ⟨i, hmatch⟩ := Pattern.exists_match?_of_search? hsearch
  obtain ⟨header, day, time, body, htext, hheader, hnote⟩ :=
    (match?_eq_some_iff digits_isAsciiDigit).1 hmatch
  have hannotates : Annotates (line.drop i) day time body :=
    ⟨⟨header, htext, hheader⟩, isSome_note?.1 (Option.isSome_iff_exists.2 ⟨found, hnote⟩)⟩
  obtain ⟨message, rfl, hmessage⟩ := of_note? hnote
  refine ⟨i, day, time, body, hannotates, ?_⟩
  rw [ofGroups_headerGroups _ _ _ (time_ne_nil_of_annotates hannotates), hmessage]

/-- A line is read by the grammar of tags in ASCII digits. There is none if no place in the line
starts one; of several the first decides, and gives the day, the time, the message and the point in
time. Passing over other digits comes to the same as not searching for them. -/
theorem read?_exact (defaultTime : String) (line : List Char) :
    (read? defaultTime line = none ↔
      ∀ i day time body, ¬ Annotates (line.drop i) day time body) ∧
    (∀ i day time body, Annotates (line.drop i) day time body →
      (∀ j < i, ∀ day time body, ¬ Annotates (line.drop j) day time body) →
      read? defaultTime line = .some
        { date := String.ofList day
          time := String.ofList (time.getD defaultTime.toList)
          message := String.ofList (messageOf body)
          scheduled := Timestamp.ofDateAndTime? day (time.getD defaultTime.toList) }) ∧
    firstPlain? line = ((pattern isAsciiDigit).search? line).map Prod.fst := by
  refine ⟨?_, ?_, firstPlain?_eq_search? line⟩
  · rw [read?, Option.map_eq_none_iff, firstPlain?_eq_search?, Option.map_eq_none_iff]
    constructor
    · intro hnone i day time body h
      have hmatch := match?_of_search?_eq_none hnone (lt_length_of_annotates h)
      exact (match?_eq_none_iff _).1 hmatch day time body h
    · intro h
      exact search?_eq_none fun i => (match?_eq_none_iff _).2 (h i)
  · intro i day time body h hfirst
    obtain ⟨message, hmessage, hmatch⟩ := match?_of_annotates h
    have hsearch := search?_eq_some (lt_length_of_annotates h) hmatch
      fun j hj => (match?_eq_none_iff _).2 (hfirst j hj)
    rw [read?, firstPlain?_eq_search?, hsearch, Option.map_some, Option.map_some,
      ofGroups_headerGroups _ _ _ (time_ne_nil_of_annotates h), hmessage]

/-- A tag in the digits of another script, and behind it one in ASCII. -/
def twoTags : List Char := "// @reminder ٢٠٢٤-٠١-٠١: a // @reminder 2024-01-02 [08:30]: b ".toList

theorem read?_twoTags :
    Annotates (twoTags.drop 27) "2024-01-02".toList (.some "08:30".toList) " b ".toList ∧
    read? standardTime twoTags = .some
      { date := "2024-01-02"
        time := "08:30"
        message := "b"
        scheduled := Timestamp.ofDateAndTime? "2024-01-02".toList "08:30".toList } := by
  have hannotates :
      Annotates (twoTags.drop 27) "2024-01-02".toList (.some "08:30".toList) " b ".toList := by
    have hday : IsDay isAsciiDigit "2024-01-02".toList :=
      ⟨"2024".toList, "01".toList, "02".toList, by decide,
        ⟨by decide, List.all_eq_true.1 (by decide)⟩,
        ⟨by decide, List.all_eq_true.1 (by decide)⟩, ⟨by decide, List.all_eq_true.1 (by decide)⟩⟩
    have hbracket : IsBracket isAsciiDigit " [08:30]".toList (.some "08:30".toList) :=
      Or.inr ⟨[' '], "08:30".toList, by decide, List.all_eq_true.1 (by decide),
        ⟨by decide, List.all_eq_true.1 (by decide)⟩, rfl⟩
    have hblank : ∀ c ∈ [' '], isBlank c = true := List.all_eq_true.1 (by decide)
    exact ⟨⟨"// @reminder 2024-01-02 [08:30]:".toList, by decide, [' '], [' '], " [08:30]".toList,
      by decide, hblank, ⟨by decide, hblank⟩, hday, hbracket⟩, 'b', by decide, by decide⟩
  have hfirst : ∀ j < 27, (pattern isAsciiDigit).match? (twoTags.drop j) = none := by
    decide +kernel
  refine ⟨hannotates, ?_⟩
  rw [(read?_exact standardTime twoTags).2.1 27 _ _ _ hannotates fun j hj =>
    (match?_eq_none_iff _).1 (hfirst j hj)]
  decide +kernel

end ReminderScan.Tag
