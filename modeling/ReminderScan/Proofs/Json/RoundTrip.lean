import ReminderScan.Proofs.Json.Numbers
import ReminderScan.Proofs.Json.Strings
import ReminderScan.Proofs.Json.Written

/-! A value that was written as a document is read back from it. This needs of the value only what
every reading gives, and of the layout that it puts nothing but blanks between the parts. -/

namespace ReminderScan.Json

open Text Number

/-- The layout sets nothing in by anything but spaces. -/
def Layout.IsSpaced (layout : Layout) : Prop := ∀ step ∈ layout.indent, ∀ c ∈ step, c = ' '

/-- The value is read from the text, whatever stands behind it. -/
def ReadBack (v : Value) (text : List Char) : Prop :=
  ∀ fuel rest, text.length ≤ fuel → EndsNumber rest → readValue fuel (text ++ rest) = .ok (v, rest)

section

variable {layout : Layout} {depth : Nat} {c : Char} {rest text : List Char}

theorem skipSpace_of_not_space (hc : isSpace c = false) (rest : List Char) :
    skipSpace (c :: rest) = c :: rest := by
  rw [skipSpace, List.dropWhile_cons_of_neg]
  rw [hc]
  exact Bool.false_ne_true

theorem isSpace_of_mem_lineBreak (hspaced : layout.IsSpaced) (hc : c ∈ layout.lineBreak depth) :
    isSpace c = true ∧ c ≠ '\r' := by
  rw [Layout.lineBreak] at hc
  split at hc
  · cases hc
  · rename_i step hstep
    rcases List.mem_cons.1 hc with rfl | hc
    · exact ⟨rfl, by decide⟩
    · obtain ⟨l, hl, hc⟩ := List.mem_flatten.1 hc
      rw [List.eq_of_mem_replicate hl] at hc
      rw [hspaced step hstep c hc]
      exact ⟨rfl, by decide⟩

theorem skipSpace_lineBreak (hspaced : layout.IsSpaced) (depth : Nat) (rest : List Char) :
    skipSpace (layout.lineBreak depth ++ rest) = skipSpace rest :=
  List.dropWhile_append_of_pos fun _ hc => (isSpace_of_mem_lineBreak hspaced hc).1

/-- No value starts with a blank or a closing bracket. -/
theorem ReadBack.head {v : Value} (h : ReadBack v text) :
    ∃ c cs, text = c :: cs ∧ isSpace c = false ∧ c ≠ ']' ∧ c ≠ '\x7d' := by
  have hread := h text.length [] (Nat.le_refl _) endsNumber_nil
  rw [List.append_nil] at hread
  cases text with
  | nil => cases hread
  | cons c cs =>
    refine ⟨c, cs, rfl, ?_⟩
    by_contra hbad
    have hc : c = ' ' ∨ c = '\t' ∨ c = '\n' ∨ c = '\r' ∨ c = ']' ∨ c = '\x7d' := by
      simp only [isSpace, Bool.or_eq_false_iff, decide_eq_false_iff_not] at hbad
      tauto
    rcases hc with rfl | rfl | rfl | rfl | rfl | rfl
    all_goals cases hread

theorem ReadBack.skipSpace_eq {v : Value} (h : ReadBack v text) (rest : List Char) :
    skipSpace (text ++ rest) = text ++ rest := by
  obtain ⟨c, cs, rfl, hc, -, -⟩ := h.head
  exact skipSpace_of_not_space hc (cs ++ rest)

theorem endsNumber_cons (hc : isAsciiDigit c = false ∧ c ≠ '.' ∧ c ≠ 'e' ∧ c ≠ 'E')
    (rest : List Char) : EndsNumber (c :: rest) := by
  intro d hd
  obtain rfl := Option.some.inj hd
  exact hc

theorem endsNumber_lineBreak (hc : isAsciiDigit c = false ∧ c ≠ '.' ∧ c ≠ 'e' ∧ c ≠ 'E')
    (layout : Layout) (depth : Nat) (rest : List Char) :
    EndsNumber (layout.lineBreak depth ++ c :: rest) := by
  rw [Layout.lineBreak]
  split
  · exact endsNumber_cons hc rest
  · exact endsNumber_cons (by decide) _

/-- After an item there is a comma and the next one, or the end. -/
theorem separator_eq (layout : Layout) (depth : Nat) :
    ∃ blanks, layout.separator depth = ',' :: blanks ∧
      (layout.IsSpaced → ∀ c ∈ blanks, isSpace c = true ∧ c ≠ '\r') := by
  rw [Layout.separator]
  refine ⟨_, rfl, ?_⟩
  intro hspaced c hc
  split at hc
  · rw [List.mem_singleton.1 hc]
    exact ⟨rfl, by decide⟩
  · exact isSpace_of_mem_lineBreak hspaced hc

theorem ReadBack.skipSpace_blanks {v : Value} (h : ReadBack v text) {blanks : List Char}
    (hblanks : ∀ c ∈ blanks, isSpace c = true ∧ c ≠ '\r') (rest : List Char) :
    skipSpace (blanks ++ (text ++ rest)) = text ++ rest := by
  rw [skipSpace, List.dropWhile_append_of_pos fun c hc => (hblanks c hc).1]
  exact h.skipSpace_eq rest

end

section

variable {layout : Layout} {depth : Nat}

/-- The items of a list after the first, as they are written and read. -/
theorem readItems_written (hspaced : layout.IsSpaced) {items : List Value}
    (hitems : ∀ item ∈ items, ∀ text, item.write layout depth = .ok text → ReadBack item text)
    {first : Value} {firstText more : List Char} (hfirst : ReadBack first firstText)
    (hmore : writeItems layout depth items = .ok more) (outer fuel : Nat) (rest : List Char)
    (hfuel : (firstText ++ more).length < fuel) :
    readItems fuel (firstText ++ (more ++ (layout.lineBreak outer ++ ']' :: rest))) =
      .ok (first :: items, rest) := by
  induction items generalizing first firstText more fuel with
  | nil =>
    rw [writeItems] at hmore
    obtain rfl := Except.ok.inj hmore
    obtain ⟨fuel, rfl⟩ : ∃ k, fuel = k + 1 := ⟨fuel - 1, by omega⟩
    rw [List.append_nil] at hfuel
    rw [readItems, List.nil_append, hfirst fuel _ (by omega)
      (endsNumber_lineBreak (by decide) _ _ _)]
    simp only [bind, Except.bind]
    rw [skipSpace_lineBreak hspaced, skipSpace_of_not_space (by decide)]
    rfl
  | cons item items ih =>
    obtain ⟨hitem, hitems⟩ := List.forall_mem_cons.1 hitems
    rw [writeItems] at hmore
    obtain ⟨itemText, hitemText, hmore⟩ := bind_eq_ok.1 hmore
    obtain ⟨others, hothers, hmore⟩ := bind_eq_ok.1 hmore
    obtain rfl := Except.ok.inj hmore
    obtain ⟨blanks, hseparator, hblanks⟩ := separator_eq layout depth
    obtain ⟨fuel, rfl⟩ : ∃ k, fuel = k + 1 := ⟨fuel - 1, by omega⟩
    have hback := hitem itemText hitemText
    rw [hseparator] at hfuel ⊢
    simp only [List.length_append, List.length_cons] at hfuel
    rw [readItems]
    simp only [List.cons_append, List.append_assoc]
    rw [hfirst fuel _ (by omega) (endsNumber_cons (by decide) _)]
    simp only [bind, Except.bind]
    rw [skipSpace_of_not_space (by decide)]
    simp only
    rw [hback.skipSpace_blanks (hblanks hspaced), ih hitems hback hothers]
    rw [List.length_append]
    omega

theorem not_mem_of_distinct {before members : List (String × Value)} {m : String × Value}
    (hnames : ((before ++ m :: members).map Prod.fst).Nodup) : m.1 ∉ before.map Prod.fst := by
  rw [List.map_append, List.nodup_append] at hnames
  intro hmem
  exact hnames.2.2 m.1 hmem m.1 List.mem_cons_self rfl

theorem assign_of_not_mem {key : String} {members : List (String × Value)}
    (hkey : key ∉ members.map Prod.fst) (value : Value) :
    assign key value members = members ++ [(key, value)] := by
  induction members with
  | nil => rfl
  | cons m members ih =>
    rw [List.map_cons, List.mem_cons, not_or] at hkey
    rw [assign, if_neg fun heq => hkey.1 heq.symm, ih hkey.2]
    rfl

theorem skipSpace_quote {blanks : List Char} (hblanks : ∀ c ∈ blanks, isSpace c = true ∧ c ≠ '\r')
    (asciiOnly : Bool) (name : String) (rest : List Char) :
    skipSpace (blanks ++ (writtenString asciiOnly name ++ rest)) =
      writtenString asciiOnly name ++ rest := by
  rw [skipSpace, List.dropWhile_append_of_pos fun c hc => (hblanks c hc).1]
  exact skipSpace_of_not_space rfl _

/-- A name with its value is read, and with what follows it the rest of the members. -/
theorem readMembers_cons {key : String} {value : Value} {text : List Char}
    (hvalue : ReadBack value text)
    (asciiOnly : Bool) {fuel : Nat} (hfuel : text.length ≤ fuel) (before : List (String × Value))
    {rest : List Char} (hrest : EndsNumber rest) :
    readMembers (fuel + 1) before
        (writtenString asciiOnly key ++ (':' :: ' ' :: (text ++ rest))) =
      match skipSpace rest with
      | '\x7d' :: rest => .ok (assign key value before, rest)
      | ',' :: rest => readMembers fuel (assign key value before) (skipSpace rest)
      | _ => .error .malformed := by
  obtain ⟨tail, hwritten, hread⟩ :=
    readString_writtenString asciiOnly key (':' :: ' ' :: (text ++ rest))
  have hblanks : ∀ c ∈ [' '], isSpace c = true ∧ c ≠ '\r' :=
    List.forall_mem_singleton.2 ⟨rfl, by decide⟩
  have hblank : skipSpace (' ' :: (text ++ rest)) = text ++ rest :=
    hvalue.skipSpace_blanks hblanks rest
  rw [hwritten, readMembers]
  simp only [hread, bind, Except.bind]
  rw [skipSpace_of_not_space (by decide)]
  simp only
  rewrite [hblank, hvalue fuel rest hfuel hrest, String.ofList_toList]
  rfl

theorem readMembers_written (hspaced : layout.IsSpaced) {members : List (String × Value)}
    (hmembers : ∀ m ∈ members, ∀ text, m.2.write layout depth = .ok text → ReadBack m.2 text)
    {key : String} {value : Value} {text more : List Char} (hvalue : ReadBack value text)
    (hmore : writeMembers layout depth members = .ok more) (before : List (String × Value))
    (hnames : ((before ++ (key, value) :: members).map Prod.fst).Nodup) (outer fuel : Nat)
    (rest : List Char)
    (hfuel : (writtenString layout.asciiOnly key ++ (text ++ more)).length < fuel) :
    readMembers fuel before (writtenString layout.asciiOnly key ++
        (':' :: ' ' :: (text ++ (more ++ (layout.lineBreak outer ++ '\x7d' :: rest))))) =
      .ok (before ++ (key, value) :: members, rest) := by
  have hkey : key ∉ before.map Prod.fst := not_mem_of_distinct hnames
  rw [List.length_append, List.length_append] at hfuel
  obtain ⟨fuel, rfl⟩ : ∃ k, fuel = k + 1 := ⟨fuel - 1, by omega⟩
  induction members generalizing key value text more before fuel with
  | nil =>
    rw [writeMembers] at hmore
    obtain rfl := Except.ok.inj hmore
    rw [List.nil_append, readMembers_cons hvalue _ (by omega) before
      (endsNumber_lineBreak (by decide) _ _ _), skipSpace_lineBreak hspaced,
      skipSpace_of_not_space (by decide)]
    simp only
    rw [assign_of_not_mem hkey]
  | cons m members ih =>
    obtain ⟨hm, hlater⟩ := List.forall_mem_cons.1 hmembers
    obtain ⟨name, next⟩ := m
    rw [writeMembers] at hmore
    obtain ⟨nextText, hnext, hmore⟩ := bind_eq_ok.1 hmore
    obtain ⟨others, hothers, hmore⟩ := bind_eq_ok.1 hmore
    obtain rfl := Except.ok.inj hmore
    obtain ⟨blanks, hseparator, hblanks⟩ := separator_eq layout depth
    have hback := hm nextText hnext
    have hassign := assign_of_not_mem hkey value
    have hnames' :
        (((before ++ [(key, value)]) ++ (name, next) :: members).map Prod.fst).Nodup := by
      rw [List.append_assoc]
      exact hnames
    have hkey' : name ∉ (before ++ [(key, value)]).map Prod.fst := not_mem_of_distinct hnames'
    rw [hseparator] at hfuel ⊢
    simp only [List.length_append, List.length_cons, List.length_nil] at hfuel
    simp only [List.cons_append, List.append_assoc, List.nil_append]
    rw [readMembers_cons hvalue _ (by omega) before (endsNumber_cons (by decide) _),
      skipSpace_of_not_space (by decide)]
    simp only
    rw [hassign, skipSpace_quote (hblanks hspaced)]
    obtain ⟨fuel, rfl⟩ : ∃ k, fuel = k + 1 := ⟨fuel - 1, by omega⟩
    rw [ih hlater hback hothers _ hnames' hkey' fuel (by omega), List.append_assoc]
    rfl

/-- A list with items is read back if each of them is. -/
theorem readBack_list (hspaced : layout.IsSpaced) {item : Value} {items : List Value}
    (hitems : ∀ i ∈ item :: items, ∀ text, i.write layout (depth + 1) = .ok text → ReadBack i text)
    {text : List Char} (hwrite : (Value.list (item :: items)).write layout depth = .ok text) :
    ReadBack (.list (item :: items)) text := by
  obtain ⟨hitem, hitems⟩ := List.forall_mem_cons.1 hitems
  rw [Value.write] at hwrite
  obtain ⟨firstText, hfirst, hwrite⟩ := bind_eq_ok.1 hwrite
  obtain ⟨more, hmore, hwrite⟩ := bind_eq_ok.1 hwrite
  obtain rfl := Except.ok.inj hwrite
  have hback := hitem firstText hfirst
  intro fuel rest hfuel _
  obtain ⟨fuel, rfl⟩ : ∃ k, fuel = k + 1 := ⟨fuel - 1, by simp at hfuel; omega⟩
  simp only [List.cons_append, List.append_assoc, List.nil_append, List.length_cons,
    List.length_append] at hfuel ⊢
  have hread := readItems_written hspaced hitems hback hmore depth fuel rest
    (by rw [List.length_append]; omega)
  have hskip := (skipSpace_lineBreak hspaced (depth + 1)
    (firstText ++ (more ++ (layout.lineBreak depth ++ ']' :: rest)))).trans (hback.skipSpace_eq _)
  obtain ⟨c, cs, rfl, -, hc, -⟩ := hback.head
  rw [readValue]
  dsimp only
  rw [hskip]
  split
  · rename_i hmark
    exact absurd (List.cons.inj hmark).1 hc
  · rw [hread]
    rfl

/-- An object with members is read back if their values are and all names differ. -/
theorem readBack_object (hspaced : layout.IsSpaced) {member : String × Value}
    {members : List (String × Value)} (hnames : ((member :: members).map Prod.fst).Nodup)
    (hmembers : ∀ m ∈ member :: members, ∀ text, m.2.write layout (depth + 1) = .ok text →
      ReadBack m.2 text) {text : List Char}
    (hwrite : (Value.object (member :: members)).write layout depth = .ok text) :
    ReadBack (.object (member :: members)) text := by
  obtain ⟨key, value⟩ := member
  obtain ⟨hmember, hothers⟩ := List.forall_mem_cons.1 hmembers
  rw [Value.write] at hwrite
  obtain ⟨firstText, hfirst, hwrite⟩ := bind_eq_ok.1 hwrite
  obtain ⟨more, hmore, hwrite⟩ := bind_eq_ok.1 hwrite
  obtain rfl := Except.ok.inj hwrite
  have hback := hmember firstText hfirst
  intro fuel rest hfuel _
  obtain ⟨fuel, rfl⟩ : ∃ k, fuel = k + 1 := ⟨fuel - 1, by simp at hfuel; omega⟩
  simp only [List.cons_append, List.append_assoc, List.nil_append, List.length_cons,
    List.length_append] at hfuel ⊢
  have hread := readMembers_written hspaced hothers hback hmore [] hnames depth fuel rest
    (by rw [List.length_append, List.length_append]; omega)
  have hskip := (skipSpace_lineBreak hspaced (depth + 1) (writtenString layout.asciiOnly key ++
    (':' :: ' ' :: (firstText ++ (more ++ (layout.lineBreak depth ++ '\x7d' :: rest)))))).trans
      (skipSpace_of_not_space rfl _)
  rw [readValue]
  dsimp only
  rw [hskip]
  split
  · rename_i hmark
    exact absurd (List.cons.inj hmark).1 (by decide)
  · exact congrArg (Except.map fun found => (Value.object found.1, found.2)) hread

theorem readBack_of_read {v : Value} {text : List Char} (hne : text ≠ [])
    (hread : ∀ fuel rest, EndsNumber rest → readValue (fuel + 1) (text ++ rest) = .ok (v, rest)) :
    ReadBack v text := by
  intro fuel rest hfuel hrest
  have hpos := List.length_pos_iff.2 hne
  obtain ⟨fuel, rfl⟩ : ∃ k, fuel = k + 1 := ⟨fuel - 1, by omega⟩
  exact hread fuel rest hrest

theorem readBack_text (asciiOnly : Bool) (s : String) :
    ReadBack (.text s) (writtenString asciiOnly s) := by
  refine readBack_of_read (List.cons_ne_nil _ _) ?_
  intro fuel rest _
  obtain ⟨tail, hwritten, hread⟩ := readString_writtenString asciiOnly s rest
  rw [hwritten, readValue, hread]
  exact congrArg (fun text => Except.ok (Value.text text, rest)) String.ofList_toList

theorem written_ne_nil (x : Binary64) : x.written jsonStyle ≠ [] := by
  intro hnil
  have hread := readValue_written x endsNumber_nil 0
  rw [hnil] at hread
  cases hread

/-- Every value that is as a reading gives it is read back from its text. -/
theorem IsReadable.readBack {v : Value} (h : IsReadable v) (hspaced : layout.IsSpaced)
    {text : List Char} (hwrite : v.write layout depth = .ok text) : ReadBack v text := by
  induction h generalizing depth text with
  | null =>
    rw [Value.write] at hwrite
    obtain rfl := Except.ok.inj hwrite
    exact readBack_of_read (List.cons_ne_nil _ _) fun _ _ _ => rfl
  | bool b =>
    cases b with
    | false | true =>
      rw [Value.write] at hwrite
      obtain rfl := Except.ok.inj hwrite
      exact readBack_of_read (List.cons_ne_nil _ _) fun _ _ _ => rfl
  | @int n h =>
    rw [Value.write] at hwrite
    obtain rfl := Except.ok.inj hwrite
    refine readBack_of_read (List.append_ne_nil_of_right_ne_nil _ Nat.toDigits_ne_nil) ?_
    intro fuel rest hrest
    exact readValue_writtenInt h hrest fuel
  | real x =>
    rw [Value.write] at hwrite
    obtain rfl := Except.ok.inj hwrite
    exact readBack_of_read (written_ne_nil x) fun fuel rest hrest => readValue_written x hrest fuel
  | text s =>
    rw [Value.write] at hwrite
    obtain rfl := Except.ok.inj hwrite
    exact readBack_text layout.asciiOnly s
  | @list items h ih =>
    cases items with
    | nil =>
      rw [Value.write] at hwrite
      obtain rfl := Except.ok.inj hwrite
      exact readBack_of_read (List.cons_ne_nil _ _) fun _ _ _ => rfl
    | cons item items => exact readBack_list hspaced (fun i hi text => ih i hi) hwrite
  | @object members hnames h ih =>
    cases members with
    | nil =>
      rw [Value.write] at hwrite
      obtain rfl := Except.ok.inj hwrite
      exact readBack_of_read (List.cons_ne_nil _ _) fun _ _ _ => rfl
    | cons m members => exact readBack_object hspaced hnames (fun m hm text => ih m hm) hwrite

/-- The document of a value that is as a reading gives it is read as that value. -/
theorem IsReadable.parse_document {v : Value} (h : IsReadable v) (hspaced : layout.IsSpaced)
    {text : List Char} (hdocument : v.document layout = .ok text) : parse text = .ok v := by
  have hback := h.readBack hspaced hdocument
  have hskip := hback.skipSpace_eq []
  have hread := hback (text.length + 1) [] (Nat.le_succ _) endsNumber_nil
  rw [List.append_nil] at hskip hread
  rw [parse_eq_ok_iff, readDocument, hskip, hread]
  rfl

end

end ReminderScan.Json
