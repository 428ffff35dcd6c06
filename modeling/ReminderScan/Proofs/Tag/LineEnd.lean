import ReminderScan.Proofs.Tag.Search
import ReminderScan.Proofs.Text.Line

/-! Tags of a line that still has its end. The end belongs to no message, and the tag is the one
that is read without it. Only where a line stops at the colon of a tag does a carriage return count
as a message, which then is an empty one. -/

namespace ReminderScan.Tag

open Text Pattern Calendar

variable {defaultTime : String} {line header front body day : List Char} {time : Option (List Char)}

theorem getLast?_of_isHeader (h : IsHeader isAsciiDigit header day time) :
    header.getLast? = some ':' := by
  obtain ⟨blanks, more, bracket, rfl, -⟩ := h
  simp only [List.getLast?_append, List.getLast?_singleton, Option.some_or]

theorem not_slash_of_isDay (h : IsDay isAsciiDigit day) : ∀ c ∈ day, c ≠ '/' := by
  have hdigit : ∀ c, isAsciiDigit c = true → c ≠ '/' := by
    rintro c hc rfl
    exact absurd hc (by decide)
  obtain ⟨y, m, d, rfl, ⟨-, hy⟩, ⟨-, hm⟩, ⟨-, hd⟩⟩ := h
  simp only [List.forall_mem_append, List.forall_mem_cons]
  exact ⟨fun c hc => hdigit c (hy c hc), by decide, fun c hc => hdigit c (hm c hc), by decide,
    fun c hc => hdigit c (hd c hc)⟩

theorem not_slash_of_isBracket (h : IsBracket isAsciiDigit body time) : ∀ c ∈ body, c ≠ '/' := by
  rcases h with ⟨rfl, -⟩ | ⟨blanks, t, rfl, hblanks, ⟨-, ht⟩, -⟩
  · exact List.forall_mem_nil _
  · simp only [List.forall_mem_append, List.forall_mem_cons]
    refine ⟨?_, by decide, ?_, by decide, List.forall_mem_nil _⟩
    · rintro c hc rfl
      exact absurd (hblanks _ hc) (by decide)
    · rintro c hc rfl
      exact absurd (ht _ hc) (by decide)

/-- Slashes stand at the start of a header only. -/
theorem exists_rest_of_isHeader (h : IsHeader isAsciiDigit header day time) :
    ∃ rest, header = '/' :: '/' :: rest ∧ '/' ∉ rest := by
  obtain ⟨blanks, more, bracket, rfl, hblanks, ⟨-, hmore⟩, hday, hbracket⟩ := h
  have hblank : ∀ c, isBlank c = true → c ≠ '/' := by
    rintro c hc rfl
    exact absurd hc (by decide)
  refine ⟨_, rfl, ?_⟩
  suffices hrest : ∀ c ∈ blanks ++ (['@', 'r', 'e', 'm', 'i', 'n', 'd', 'e', 'r'] ++
      (more ++ (day ++ (bracket ++ [':'])))), c ≠ '/' from fun hmem => hrest _ hmem rfl
  simp only [List.forall_mem_append]
  exact ⟨fun c hc => hblank c (hblanks c hc), by simp, fun c hc => hblank c (hmore c hc),
    not_slash_of_isDay hday, not_slash_of_isBracket hbracket, by simp⟩

/-- No header starts within another. -/
theorem eq_nil_of_isHeader {before other day' : List Char} {time' : Option (List Char)}
    (h : IsHeader isAsciiDigit header day time) (h' : IsHeader isAsciiDigit other day' time')
    (hsplit : header = before ++ (other ++ body)) : before = [] := by
  obtain ⟨rest, rfl, hrest⟩ := exists_rest_of_isHeader h
  obtain ⟨rest', rfl, -⟩ := exists_rest_of_isHeader h'
  rcases before with _ | ⟨a, _ | ⟨b, before⟩⟩
  · rfl
  · obtain ⟨-, hrest'⟩ := List.cons.inj hsplit
    obtain ⟨-, rfl⟩ := List.cons.inj hrest'
    exact absurd List.mem_cons_self hrest
  · obtain ⟨-, hrest'⟩ := List.cons.inj hsplit
    obtain ⟨-, rfl⟩ := List.cons.inj hrest'
    exact absurd (List.mem_append_right _ List.mem_cons_self) hrest

theorem trimEnd_append_of_blank {text blanks : List Char} (h : ∀ c ∈ blanks, isBlank c = true) :
    trimEnd (text ++ blanks) = trimEnd text := by
  rw [trimEnd, List.reverse_append, List.dropWhile_append_of_pos]
  · rfl
  · intro c hc
    exact h c (List.mem_reverse.1 hc)

theorem isBlank_of_mem_chars {e : LineEnd} : ∀ c ∈ e.chars, isBlank c = true := by
  cases e <;> exact List.all_eq_true.1 (by decide)

/-- The end of a line is no part of a message. -/
theorem messageOf_append_chars (hfront : IsLine front) (e : LineEnd) :
    messageOf (front ++ e.chars) = messageOf front := by
  rw [messageOf, messageOf, trimStart, trimStart, List.dropWhile_append]
  split
  · rename_i hblank
    rw [List.isEmpty_iff.1 hblank, List.dropWhile_eq_nil_iff.2 isBlank_of_mem_chars]
  · have hkeep : ∀ c ∈ front.dropWhile isBlank, decide (c ≠ '\n') = true := by
      intro c hc
      exact decide_eq_true (hfront c ((List.dropWhile_suffix _).subset hc)).2
    rw [List.takeWhile_append_of_pos hkeep, List.takeWhile_eq_self_iff.2 hkeep]
    apply trimEnd_append_of_blank
    intro c hc
    exact isBlank_of_mem_chars c ((List.takeWhile_prefix _).subset hc)

/-- A tag starts a line with its end where a header starts the line. A line feed makes no
message. -/
theorem annotates_append_chars_iff (hline : IsLine line) {e : LineEnd} :
    Annotates (line ++ e.chars) day time body ↔ ∃ front, body = front ++ e.chars ∧
      (∃ header, line = header ++ front ∧ IsHeader isAsciiDigit header day time) ∧
      (front ≠ [] ∨ e ≠ .lineFeed) := by
  constructor
  · rintro ⟨⟨header, hsplit, hheader⟩, c, hc, hne⟩
    obtain ⟨front, rfl, rfl⟩ : ∃ front, line = header ++ front ∧ body = front ++ e.chars := by
      rcases List.append_eq_append_iff.1 hsplit with ⟨more, rfl, hends⟩ | ⟨front, hlines⟩
      · -- The header ends with a colon, so it takes nothing of the end of the line.
        rcases List.eq_nil_or_concat more with rfl | ⟨before, last, rfl⟩
        · exact ⟨[], by simp, hends.symm⟩
        · have hlast := getLast?_of_isHeader hheader
          rw [List.concat_eq_append, ← List.append_assoc, List.getLast?_concat] at hlast
          obtain rfl := Option.some.inj hlast
          have hmem : ':' ∈ e.chars := by simp [hends]
          exact absurd (isBlank_of_mem_chars _ hmem) (by decide)
      · exact ⟨front, hlines⟩
    refine ⟨front, rfl, ⟨header, rfl, hheader⟩, ?_⟩
    by_contra hnone
    obtain ⟨hnil, hfeed⟩ := not_or.1 hnone
    rw [Classical.not_not.1 hnil, Classical.not_not.1 hfeed] at hc
    exact hne (List.mem_singleton.1 hc)
  · rintro ⟨front, rfl, ⟨header, rfl, hheader⟩, hmessage⟩
    refine ⟨⟨header, by rw [List.append_assoc], hheader⟩, ?_⟩
    cases front with
    | cons c front =>
      exact ⟨c, by simp, (hline c (by simp)).2⟩
    | nil =>
      have hfeed : e ≠ .lineFeed := hmessage.resolve_left fun hne => hne rfl
      cases e with
      | lineFeed => exact absurd rfl hfeed
      | returnFeed => exact ⟨'\r', by simp [LineEnd.chars], by decide⟩
      | carriageReturn => exact ⟨'\r', by simp [LineEnd.chars], by decide⟩

theorem annotates_iff (hline : IsLine line) : Annotates line day time body ↔
    (∃ header, line = header ++ body ∧ IsHeader isAsciiDigit header day time) ∧ body ≠ [] := by
  constructor
  · rintro ⟨hheader, c, hc, -⟩
    exact ⟨hheader, List.ne_nil_of_mem hc⟩
  · rintro ⟨⟨header, rfl, hheader⟩, hne⟩
    obtain ⟨c, rest, rfl⟩ := List.exists_cons_of_ne_nil hne
    exact ⟨⟨header, rfl, hheader⟩, c, by simp, (hline c (by simp)).2⟩

/-- The search goes on where no tag starts. -/
theorem read?_cons {c : Char} {rest : List Char}
    (hnone : ∀ day time body, ¬Annotates (c :: rest) day time body) :
    read? defaultTime (c :: rest) = read? defaultTime rest := by
  rw [read?, read?, firstPlain?_eq_search?, firstPlain?_eq_search?, search?,
    (match?_eq_none_iff _).2 hnone]

theorem read?_eq_none {text : List Char} (hslash : '/' ∉ text) : read? defaultTime text = none := by
  refine Option.eq_none_iff_forall_ne_some.2 fun tag hread => ?_
  obtain ⟨i, _, _, _, ⟨⟨header, hsplit, hheader⟩, -⟩, -⟩ := exists_annotates_of_read? hread
  obtain ⟨rest, rfl, -⟩ := exists_rest_of_isHeader hheader
  exact hslash (List.mem_of_mem_drop (i := i) (hsplit ▸ List.mem_cons_self))

/-- A header with nothing behind it is no tag, and there is none within it. -/
theorem read?_header (h : IsHeader isAsciiDigit header day time) :
    read? defaultTime header = none := by
  refine Option.eq_none_iff_forall_ne_some.2 fun tag hread => ?_
  obtain ⟨i, _, _, body, ⟨⟨other, hsplit, hother⟩, c, hc, -⟩, -⟩ := exists_annotates_of_read? hread
  have hwhole : header = header.take i ++ (other ++ body) := by
    rw [← hsplit, List.take_append_drop]
  have hbefore := eq_nil_of_isHeader h hother hwhole
  rw [hbefore, List.nil_append] at hwhole
  obtain ⟨-, -, hnil⟩ := isHeader_inj digits_isAsciiDigit h hother
    (by rw [List.append_nil]; exact hwhole)
  rw [← hnil] at hc
  cases hc

/-- The line stops at the colon of a tag. -/
def StopsAt (line day : List Char) (time : Option (List Char)) : Prop :=
  ∃ before header, line = before ++ header ∧ IsHeader isAsciiDigit header day time

/-- The tag of a day, and perhaps a time, that says nothing. -/
def wordless (defaultTime : String) (day : List Char) (time : Option (List Char)) : Tag where
  date := String.ofList day
  time := String.ofList (time.getD defaultTime.toList)
  message := ""
  scheduled := Timestamp.ofDateAndTime? day (time.getD defaultTime.toList)

theorem stopsAt_cons_iff {c : Char} : StopsAt (c :: line) day time ↔
    IsHeader isAsciiDigit (c :: line) day time ∨ StopsAt line day time := by
  constructor
  · rintro ⟨_ | ⟨a, before⟩, header, hsplit, hheader⟩
    · rw [List.nil_append] at hsplit
      exact Or.inl (hsplit ▸ hheader)
    · exact Or.inr ⟨before, header, (List.cons.inj hsplit).2, hheader⟩
  · rintro (hheader | ⟨before, header, rfl, hheader⟩)
    · exact ⟨[], c :: line, rfl, hheader⟩
    · exact ⟨c :: before, header, rfl, hheader⟩

theorem not_stopsAt_nil : ¬StopsAt [] day time := by
  rintro ⟨before, header, hsplit, hheader⟩
  obtain ⟨rest, rfl, -⟩ := exists_rest_of_isHeader hheader
  simp at hsplit

/-- What is read of a header and a carriage return behind it. -/
theorem read?_header_append (h : IsHeader isAsciiDigit header day time) (hline : IsLine header)
    {e : LineEnd} (he : e ≠ .lineFeed) :
    read? defaultTime (header ++ e.chars) = some (wordless defaultTime day time) := by
  have hannotates : Annotates (header ++ e.chars) day time ([] ++ e.chars) :=
    (annotates_append_chars_iff hline).2
      ⟨[], rfl, ⟨header, by rw [List.append_nil], h⟩, Or.inr he⟩
  rw [read?_of_annotates hannotates, messageOf_append_chars (List.forall_mem_nil _)]
  rfl

/-- A line that stops at the colon of a tag stops at no other. -/
theorem wordless_of_stopsAt {day' : List Char} {time' : Option (List Char)}
    (h : IsHeader isAsciiDigit header day time) (hstops : StopsAt header day' time') :
    wordless defaultTime day' time' = wordless defaultTime day time := by
  obtain ⟨before, other, hsplit, hother⟩ := hstops
  have hsame : header ++ [] = before ++ (other ++ []) := by
    rw [List.append_nil, List.append_nil, hsplit]
  have hbefore : before = [] :=
    eq_nil_of_isHeader h hother ((List.append_nil header).symm.trans hsame)
  rw [hbefore, List.nil_append] at hsame
  obtain ⟨rfl, rfl, -⟩ := isHeader_inj digits_isAsciiDigit h hother hsame
  rfl

/-- The tag of a line with its end is the tag of the line, or the one that says nothing. -/
theorem read?_append_eq_some_iff (hline : IsLine line) {e : LineEnd} {tag : Tag} :
    read? defaultTime (line ++ e.chars) = some tag ↔ read? defaultTime line = some tag ∨
      read? defaultTime line = none ∧ e ≠ .lineFeed ∧
        ∃ day time, StopsAt line day time ∧ tag = wordless defaultTime day time := by
  induction line with
  | nil =>
    have hslash : '/' ∉ [] ++ e.chars := by cases e <;> decide
    rw [read?_eq_none hslash, read?_eq_none List.not_mem_nil]
    simp [not_stopsAt_nil]
  | cons c line ih =>
    by_cases hstarts : ∃ day time body, Annotates (c :: line) day time body
    · -- Both readings find the tag at the start.
      obtain ⟨day, time, body, h⟩ := hstarts
      obtain ⟨hheader, hne⟩ := (annotates_iff hline).1 h
      have hbody : IsLine body := by
        obtain ⟨header, hsplit, -⟩ := hheader
        exact fun c hc => hline c (hsplit ▸ List.mem_append_right header hc)
      have hends : Annotates (c :: line ++ e.chars) day time (body ++ e.chars) :=
        (annotates_append_chars_iff hline).2 ⟨body, rfl, hheader, Or.inl hne⟩
      rw [read?_of_annotates hends, read?_of_annotates h, messageOf_append_chars hbody]
      simp
    · have hnone : ∀ day time body, ¬Annotates (c :: line) day time body :=
        fun day time body h => hstarts ⟨day, time, body, h⟩
      by_cases hbare : e ≠ .lineFeed ∧ ∃ day time, IsHeader isAsciiDigit (c :: line) day time
      · -- The line is a header, and a carriage return stands behind it.
        obtain ⟨he, day, time, hheader⟩ := hbare
        rw [read?_header_append hheader hline he, read?_header hheader]
        constructor
        · intro htag
          exact Or.inr ⟨rfl, he, day, time, ⟨[], _, rfl, hheader⟩, (Option.some.inj htag).symm⟩
        · rintro (htag | ⟨-, -, day', time', hstops, rfl⟩)
          · cases htag
          · rw [wordless_of_stopsAt hheader hstops]
      · have hnone' : ∀ day time body, ¬Annotates (c :: (line ++ e.chars)) day time body := by
          intro day time body h
          obtain ⟨front, -, hheader, hne⟩ := (annotates_append_chars_iff hline).1 h
          by_cases hfront : front = []
          · obtain ⟨header, hsplit, hheader⟩ := hheader
            rw [hfront, List.append_nil] at hsplit
            exact hbare ⟨hne.resolve_left (not_not.2 hfront), day, time, hsplit ▸ hheader⟩
          · exact hnone day time front ((annotates_iff hline).2 ⟨hheader, hfront⟩)
        have hstops : e ≠ .lineFeed → ∀ day time,
            StopsAt (c :: line) day time ↔ StopsAt line day time := by
          intro he day time
          rw [stopsAt_cons_iff, or_iff_right]
          exact fun hheader => hbare ⟨he, day, time, hheader⟩
        rw [List.cons_append, read?_cons hnone', read?_cons hnone, ih (isLine_cons.1 hline).2]
        refine or_congr_right (and_congr_right fun _ => and_congr_right fun he => ?_)
        simp only [hstops he]

/-- A line is read with its end as it is read without it, but for one case: a carriage return
stands behind the colon of a tag, and no other tag is in the line. Then that tag is read, with no
message. -/
theorem read?_append_lineEnd (defaultTime : String) (hline : IsLine line) (e : LineEnd) :
    (read? defaultTime (line ++ e.chars) = read? defaultTime line ↔
      e = .lineFeed ∨ read? defaultTime line ≠ none ∨ ∀ day time, ¬StopsAt line day time) ∧
    ∀ day time, e ≠ .lineFeed → read? defaultTime line = none → StopsAt line day time →
      read? defaultTime (line ++ e.chars) = some (wordless defaultTime day time) := by
  have hbare : ∀ day time, e ≠ .lineFeed → read? defaultTime line = none → StopsAt line day time →
      read? defaultTime (line ++ e.chars) = some (wordless defaultTime day time) := by
    intro day time he hnone hstops
    exact (read?_append_eq_some_iff hline).2 (Or.inr ⟨hnone, he, day, time, hstops, rfl⟩)
  refine ⟨⟨?_, ?_⟩, hbare⟩
  · intro hsame
    by_contra hnot
    simp only [not_or, ne_eq, not_not, not_forall] at hnot
    obtain ⟨he, hnone, day, time, hstops⟩ := hnot
    rw [hbare day time he hnone hstops, hnone] at hsame
    cases hsame
  · intro hcase
    refine Option.ext fun tag => ?_
    rw [read?_append_eq_some_iff hline]
    constructor
    · rintro (htag | ⟨hnone, he, day, time, hstops, -⟩)
      · exact htag
      · rcases hcase with hfeed | hsome | hnever
        · exact absurd hfeed he
        · exact absurd hnone hsome
        · exact absurd hstops (hnever day time)
    · exact Or.inl

/-- A tag up to its colon. -/
def bareLine : List Char := "// @reminder 2024-06-01:".toList

theorem isLine_bareLine : IsLine bareLine := by decide

theorem isHeader_bareLine : IsHeader isAsciiDigit bareLine "2024-06-01".toList none := by
  have hday : IsDay isAsciiDigit "2024-06-01".toList :=
    ⟨"2024".toList, "06".toList, "01".toList, by decide,
      ⟨by decide, List.all_eq_true.1 (by decide)⟩,
      ⟨by decide, List.all_eq_true.1 (by decide)⟩, ⟨by decide, List.all_eq_true.1 (by decide)⟩⟩
  have hblank : ∀ c ∈ [' '], isBlank c = true := List.all_eq_true.1 (by decide)
  exact ⟨[' '], [' '], [], by decide, hblank, ⟨by decide, hblank⟩, hday, Or.inl ⟨rfl, rfl⟩⟩

/-- With a message behind the colon the end makes no difference; without one it does. -/
theorem read?_append_lineEnd_bareLine :
    IsLine (bareLine ++ " call ".toList) ∧
    read? standardTime (bareLine ++ " call ".toList ++ LineEnd.returnFeed.chars) =
      read? standardTime (bareLine ++ " call ".toList) ∧
    IsLine bareLine ∧ read? standardTime (bareLine ++ LineEnd.returnFeed.chars) =
      some (wordless standardTime "2024-06-01".toList none) := by
  have hline : IsLine (bareLine ++ " call ".toList) := by decide
  have htag : Annotates (bareLine ++ " call ".toList) "2024-06-01".toList none " call ".toList :=
    (annotates_iff hline).2 ⟨⟨bareLine, rfl, isHeader_bareLine⟩, by decide⟩
  refine ⟨hline, ?_, isLine_bareLine, ?_⟩
  · apply (read?_append_lineEnd standardTime hline .returnFeed).1.2
    rw [read?_of_annotates htag]
    exact Or.inr (Or.inl nofun)
  · exact (read?_append_lineEnd standardTime isLine_bareLine .returnFeed).2 _ _ (by decide)
      (read?_header isHeader_bareLine) ⟨[], bareLine, rfl, isHeader_bareLine⟩

/-- A line that is no tag is one when a carriage return ends it. -/
theorem read?_bareLine_carriageReturn :
    IsLine bareLine ∧ read? standardTime bareLine = none ∧
    read? standardTime (bareLine ++ LineEnd.carriageReturn.chars) =
      some { date := "2024-06-01", time := "09:00", message := ""
             scheduled := Timestamp.ofDateAndTime? "2024-06-01".toList "09:00".toList } :=
  ⟨isLine_bareLine, read?_header isHeader_bareLine,
    read?_header_append isHeader_bareLine isLine_bareLine (by decide)⟩

end ReminderScan.Tag
