import ReminderScan.Proofs.Json.RoundTrip
import ReminderScan.Text.Line

/-! The lines of a document end with line feeds only, so that a file that holds one reads as it was
written. -/

namespace ReminderScan

open Text

theorem Text.unifyLineEnds_of_not_mem {text : List Char} (h : '\r' ∉ text) :
    unifyLineEnds text = text := by
  induction text with
  | nil => rfl
  | cons c cs ih =>
    rw [List.mem_cons, not_or] at h
    rw [unifyLineEnds.eq_def]
    split
    · rename_i heq
      cases heq
    · rename_i heq
      exact absurd (List.cons.inj heq).1.symm h.1
    · rename_i heq
      exact absurd (List.cons.inj heq).1.symm h.1
    · rename_i heq
      obtain ⟨rfl, rfl⟩ := List.cons.inj heq
      rw [ih h.2]

namespace Number

theorem return_not_mem_of_digits {ds : List Char} (hds : ∀ c ∈ ds, isAsciiDigit c = true) :
    '\r' ∉ ds := by
  intro hmem
  cases hds '\r' hmem

theorem return_not_mem_positional {ds : List Char} (hds : '\r' ∉ ds) (point : Int) :
    '\r' ∉ positional ds point := by
  have htake : '\r' ∉ ds.take point.toNat := fun hmem => hds (List.mem_of_mem_take hmem)
  have hdrop : '\r' ∉ ds.drop point.toNat := fun hmem => hds (List.mem_of_mem_drop hmem)
  rw [positional]
  split
  · simp [hds]
  · split
    · simp [hds]
    · simp [htake, hdrop]

theorem return_not_mem_scientific (style : Style) {ds : List Char} (hds : '\r' ∉ ds)
    (exponent : Int) :
    '\r' ∉ scientific style ds exponent := by
  have hpower : '\r' ∉ padded style.exponentWidth exponent.natAbs :=
    return_not_mem_of_digits fun c => isAsciiDigit_of_mem_padded
  rw [scientific.eq_def, List.mem_append, not_or]
  refine ⟨?_, ?_⟩
  · split
    · exact hds
    · exact hds
    · rw [List.mem_cons, not_or] at hds
      simpa using hds
  · split
    · simp [hpower]
    · simp [hpower]

theorem Decimal.return_not_mem_written (style : Style) (d : Decimal) : '\r' ∉ d.written style := by
  have hds : '\r' ∉ Nat.toDigits 10 d.digits :=
    return_not_mem_of_digits fun c => isAsciiDigit_of_mem_toDigits
  rw [Decimal.written, List.mem_append, not_or]
  refine ⟨by split <;> decide, ?_⟩
  split
  · decide
  · split
    · exact return_not_mem_positional hds _
    · exact return_not_mem_scientific style hds _

theorem Binary64.return_not_mem_written (x : Binary64) : '\r' ∉ x.written jsonStyle := by
  cases x with
  | nan => decide
  | infinite negative => cases negative <;> decide
  | finite negative m e _ =>
    rw [Binary64.written]
    split
    · exact Decimal.return_not_mem_written _ _
    · exact Decimal.return_not_mem_written _ _

theorem return_not_mem_writtenInt (n : Int) : '\r' ∉ writtenInt n := by
  rw [writtenInt, List.mem_append, not_or]
  exact ⟨by split <;> decide, return_not_mem_of_digits fun c => isAsciiDigit_of_mem_toDigits⟩

end Number

namespace Json

variable {layout : Layout}

theorem return_not_mem_unitEscape (n : Nat) : '\r' ∉ unitEscape n := by
  have hall : ∀ k : Fin 16, Nat.digitChar k ≠ '\r' := by decide
  have hdigit : ∀ k, Nat.digitChar (k % 16) ≠ '\r' :=
    fun k => hall ⟨k % 16, Nat.mod_lt _ (by decide)⟩
  simp [unitEscape, hexDigits, hdigit]

theorem return_not_mem_escapeChar (asciiOnly : Bool) (c : Char) :
    '\r' ∉ escapeChar asciiOnly c := by
  by_cases hc : c = '\r'
  · subst hc
    revert asciiOnly
    decide
  · rw [escapeChar]
    split_ifs
    all_goals first
      | decide
      | exact return_not_mem_unitEscape _
      | skip
    · rw [List.mem_append, not_or]
      exact ⟨return_not_mem_unitEscape _, return_not_mem_unitEscape _⟩
    · exact fun hmem => hc (List.mem_singleton.1 hmem).symm

theorem return_not_mem_writtenString (asciiOnly : Bool) (s : String) :
    '\r' ∉ writtenString asciiOnly s := by
  simp [writtenString, return_not_mem_escapeChar]

theorem return_not_mem_lineBreak (hspaced : layout.IsSpaced) (depth : Nat) :
    '\r' ∉ layout.lineBreak depth :=
  fun hmem => (isSpace_of_mem_lineBreak hspaced hmem).2 rfl

theorem return_not_mem_separator (hspaced : layout.IsSpaced) (depth : Nat) :
    '\r' ∉ layout.separator depth := by
  obtain ⟨blanks, hseparator, hblanks⟩ := separator_eq layout depth
  rw [hseparator, List.mem_cons, not_or]
  exact ⟨by decide, fun hmem => (hblanks hspaced '\r' hmem).2 rfl⟩

theorem return_not_mem_writeItems (hspaced : layout.IsSpaced) {depth : Nat} {items : List Value}
    (hitems : ∀ item ∈ items, ∀ text, item.write layout depth = .ok text → '\r' ∉ text)
    {text : List Char} (hwrite : writeItems layout depth items = .ok text) : '\r' ∉ text := by
  induction items generalizing text with
  | nil =>
    rw [writeItems] at hwrite
    obtain rfl := Except.ok.inj hwrite
    exact List.not_mem_nil
  | cons item items ih =>
    obtain ⟨hitem, hitems⟩ := List.forall_mem_cons.1 hitems
    rw [writeItems] at hwrite
    obtain ⟨first, hfirst, hwrite⟩ := bind_eq_ok.1 hwrite
    obtain ⟨more, hmore, hwrite⟩ := bind_eq_ok.1 hwrite
    obtain rfl := Except.ok.inj hwrite
    simp only [List.mem_append, not_or]
    exact ⟨⟨return_not_mem_separator hspaced depth, hitem first hfirst⟩, ih hitems hmore⟩

theorem return_not_mem_writeMembers (hspaced : layout.IsSpaced) {depth : Nat}
    {members : List (String × Value)}
    (hmembers : ∀ m ∈ members, ∀ text, m.2.write layout depth = .ok text → '\r' ∉ text)
    {text : List Char} (hwrite : writeMembers layout depth members = .ok text) : '\r' ∉ text := by
  induction members generalizing text with
  | nil =>
    rw [writeMembers] at hwrite
    obtain rfl := Except.ok.inj hwrite
    exact List.not_mem_nil
  | cons m members ih =>
    obtain ⟨hm, hmembers⟩ := List.forall_mem_cons.1 hmembers
    rw [writeMembers] at hwrite
    obtain ⟨first, hfirst, hwrite⟩ := bind_eq_ok.1 hwrite
    obtain ⟨more, hmore, hwrite⟩ := bind_eq_ok.1 hwrite
    obtain rfl := Except.ok.inj hwrite
    simp only [List.mem_append, not_or]
    exact ⟨⟨⟨⟨return_not_mem_separator hspaced depth, return_not_mem_writtenString _ _⟩, by decide⟩,
      hm first hfirst⟩, ih hmembers hmore⟩

theorem return_not_mem_write (hspaced : layout.IsSpaced) {v : Value} (hv : IsPlain v) {depth : Nat}
    {text : List Char} (hwrite : v.write layout depth = .ok text) : '\r' ∉ text := by
  induction hv generalizing depth text with
  | null =>
    rw [Value.write] at hwrite
    obtain rfl := Except.ok.inj hwrite
    decide
  | bool b =>
    cases b with
    | false | true =>
      rw [Value.write] at hwrite
      obtain rfl := Except.ok.inj hwrite
      decide
  | int n =>
    rw [Value.write] at hwrite
    obtain rfl := Except.ok.inj hwrite
    exact Number.return_not_mem_writtenInt n
  | real x =>
    rw [Value.write] at hwrite
    obtain rfl := Except.ok.inj hwrite
    exact x.return_not_mem_written
  | text s =>
    rw [Value.write] at hwrite
    obtain rfl := Except.ok.inj hwrite
    exact return_not_mem_writtenString _ s
  | @list items h ih =>
    cases items with
    | nil =>
      rw [Value.write] at hwrite
      obtain rfl := Except.ok.inj hwrite
      decide
    | cons item items =>
      rw [Value.write] at hwrite
      obtain ⟨first, hfirst, hwrite⟩ := bind_eq_ok.1 hwrite
      obtain ⟨more, hmore, hwrite⟩ := bind_eq_ok.1 hwrite
      obtain rfl := Except.ok.inj hwrite
      have hmore := return_not_mem_writeItems hspaced
        (fun i hi text => ih i (List.mem_cons_of_mem _ hi)) hmore
      simp [return_not_mem_lineBreak hspaced, ih item List.mem_cons_self hfirst, hmore]
  | @object members h ih =>
    cases members with
    | nil =>
      rw [Value.write] at hwrite
      obtain rfl := Except.ok.inj hwrite
      decide
    | cons m members =>
      rw [Value.write] at hwrite
      obtain ⟨first, hfirst, hwrite⟩ := bind_eq_ok.1 hwrite
      obtain ⟨more, hmore, hwrite⟩ := bind_eq_ok.1 hwrite
      obtain rfl := Except.ok.inj hwrite
      have hmore := return_not_mem_writeMembers hspaced
        (fun m hm text => ih m (List.mem_cons_of_mem _ hm)) hmore
      simp [return_not_mem_lineBreak hspaced, ih m List.mem_cons_self hfirst, hmore,
        return_not_mem_writtenString]

end Json

end ReminderScan
