import ReminderScan.Fault
import ReminderScan.Json.Parser
import ReminderScan.Json.Printer
import ReminderScan.Proofs.Number.Digits

/-! Values that have a text as a document, and among them those that are read: their whole numbers
are no longer than that, and no object has two members of one name. -/

namespace ReminderScan

namespace Json

variable {layout : Layout} {v : Value}

/-- The value holds nothing that no document can hold. -/
inductive IsPlain : Value → Prop
  | null : IsPlain .null
  | bool (b : Bool) : IsPlain (.bool b)
  | int (n : Int) : IsPlain (.int n)
  | real (x : Number.Binary64) : IsPlain (.real x)
  | text (s : String) : IsPlain (.text s)
  | list {items : List Value} (h : ∀ item ∈ items, IsPlain item) : IsPlain (.list items)
  | object {members : List (String × Value)} (h : ∀ m ∈ members, IsPlain m.2) :
      IsPlain (.object members)

theorem exists_writeItems {items : List Value} {depth : Nat} :
    (∃ text, writeItems layout depth items = .ok text) ↔
      ∀ item ∈ items, ∃ text, item.write layout depth = .ok text := by
  induction items with
  | nil => simp [writeItems]
  | cons item items ih =>
    rw [List.forall_mem_cons, ← ih]
    constructor
    · rintro ⟨text, hw⟩
      rw [writeItems] at hw
      obtain ⟨first, hfirst, hw⟩ := bind_eq_ok.1 hw
      obtain ⟨rest, hrest, -⟩ := bind_eq_ok.1 hw
      exact ⟨⟨first, hfirst⟩, rest, hrest⟩
    · rintro ⟨⟨first, hfirst⟩, rest, hrest⟩
      rw [writeItems, hfirst, hrest]
      exact ⟨_, rfl⟩

theorem exists_writeMembers {members : List (String × Value)} {depth : Nat} :
    (∃ text, writeMembers layout depth members = .ok text) ↔
      ∀ m ∈ members, ∃ text, m.2.write layout depth = .ok text := by
  induction members with
  | nil => simp [writeMembers]
  | cons m members ih =>
    rw [List.forall_mem_cons, ← ih]
    constructor
    · rintro ⟨text, hw⟩
      rw [writeMembers] at hw
      obtain ⟨first, hfirst, hw⟩ := bind_eq_ok.1 hw
      obtain ⟨rest, hrest, -⟩ := bind_eq_ok.1 hw
      exact ⟨⟨first, hfirst⟩, rest, hrest⟩
    · rintro ⟨⟨first, hfirst⟩, rest, hrest⟩
      rw [writeMembers, hfirst, hrest]
      exact ⟨_, rfl⟩

theorem IsPlain.exists_write (h : IsPlain v) (layout : Layout) (depth : Nat) :
    ∃ text, v.write layout depth = .ok text := by
  induction h generalizing depth with
  | null => exact ⟨_, by rw [Value.write]⟩
  | bool b =>
    cases b with
    | false => exact ⟨_, by rw [Value.write]⟩
    | true => exact ⟨_, by rw [Value.write]⟩
  | int n => exact ⟨_, by rw [Value.write]⟩
  | real x => exact ⟨_, by rw [Value.write]⟩
  | text s => exact ⟨_, by rw [Value.write]⟩
  | @list items h ih =>
    cases items with
    | nil => exact ⟨_, by rw [Value.write]⟩
    | cons item items =>
      obtain ⟨⟨first, hfirst⟩, hitems⟩ :=
        List.forall_mem_cons.1 fun item hitem => ih item hitem (depth + 1)
      obtain ⟨rest, hrest⟩ := exists_writeItems.2 hitems
      rw [Value.write, hfirst, hrest]
      exact ⟨_, rfl⟩
  | @object members h ih =>
    cases members with
    | nil => exact ⟨_, by rw [Value.write]⟩
    | cons m members =>
      obtain ⟨⟨first, hfirst⟩, hmembers⟩ :=
        List.forall_mem_cons.1 fun m hm => ih m hm (depth + 1)
      obtain ⟨rest, hrest⟩ := exists_writeMembers.2 hmembers
      rw [Value.write, hfirst, hrest]
      exact ⟨_, rfl⟩

theorem IsPlain.exists_document (h : IsPlain v) (layout : Layout) :
    ∃ text, v.document layout = .ok text := h.exists_write layout 0

/-- The value is as a reading gives it. -/
inductive IsReadable : Value → Prop
  | null : IsReadable .null
  | bool (b : Bool) : IsReadable (.bool b)
  | int {n : Int} (h : Number.digitCount n.natAbs ≤ Number.digitLimit) : IsReadable (.int n)
  | real (x : Number.Binary64) : IsReadable (.real x)
  | text (s : String) : IsReadable (.text s)
  | list {items : List Value} (h : ∀ item ∈ items, IsReadable item) : IsReadable (.list items)
  | object {members : List (String × Value)} (hnames : (members.map Prod.fst).Nodup)
      (h : ∀ m ∈ members, IsReadable m.2) : IsReadable (.object members)

theorem IsReadable.isPlain (h : IsReadable v) : IsPlain v := by
  induction h with
  | null => exact .null
  | bool b => exact .bool b
  | int _ => exact .int _
  | real x => exact .real x
  | text s => exact .text s
  | list _ ih => exact .list ih
  | object _ _ ih => exact .object ih

theorem haveLongNumber_eq_false {items : List Value} :
    haveLongNumber items = false ↔ ∀ item ∈ items, item.hasLongNumber = false := by
  induction items with
  | nil => simp [haveLongNumber]
  | cons item items ih => rw [haveLongNumber, Bool.or_eq_false_iff, ih, List.forall_mem_cons]

theorem membersHaveLongNumber_eq_false {members : List (String × Value)} :
    membersHaveLongNumber members = false ↔ ∀ m ∈ members, m.2.hasLongNumber = false := by
  induction members with
  | nil => simp [membersHaveLongNumber]
  | cons m members ih => rw [membersHaveLongNumber, Bool.or_eq_false_iff, ih, List.forall_mem_cons]

theorem IsReadable.hasLongNumber_eq_false (h : IsReadable v) : v.hasLongNumber = false := by
  induction h with
  | int h =>
    rw [Value.hasLongNumber]
    exact decide_eq_false (Nat.not_lt.2 h)
  | list _ ih =>
    rw [Value.hasLongNumber]
    exact haveLongNumber_eq_false.2 ih
  | object _ _ ih =>
    rw [Value.hasLongNumber]
    exact membersHaveLongNumber_eq_false.2 ih
  | _ => rw [Value.hasLongNumber.eq_def]

/-- No object in the value has two members of one name. -/
inductive HasDistinctNames : Value → Prop
  | null : HasDistinctNames .null
  | bool (b : Bool) : HasDistinctNames (.bool b)
  | int (n : Int) : HasDistinctNames (.int n)
  | real (x : Number.Binary64) : HasDistinctNames (.real x)
  | text (s : String) : HasDistinctNames (.text s)
  | foreign (kind : String) : HasDistinctNames (.foreign kind)
  | list {items : List Value} (h : ∀ item ∈ items, HasDistinctNames item) :
      HasDistinctNames (.list items)
  | object {members : List (String × Value)} (hnames : (members.map Prod.fst).Nodup)
      (h : ∀ m ∈ members, HasDistinctNames m.2) : HasDistinctNames (.object members)

theorem IsReadable.hasDistinctNames (h : IsReadable v) : HasDistinctNames v := by
  induction h with
  | null => exact .null
  | bool b => exact .bool b
  | @int n _ => exact .int n
  | real x => exact .real x
  | text s => exact .text s
  | list _ ih => exact .list ih
  | object hnames _ ih => exact .object hnames ih

theorem exists_write_items {items : List Value} {depth : Nat} {text : List Char}
    (hw : (Value.list items).write layout depth = .ok text) :
    ∀ item ∈ items, ∃ text, item.write layout (depth + 1) = .ok text := by
  cases items with
  | nil => exact List.forall_mem_nil _
  | cons item items =>
    rw [Value.write] at hw
    obtain ⟨first, hfirst, hw⟩ := bind_eq_ok.1 hw
    obtain ⟨rest, hrest, -⟩ := bind_eq_ok.1 hw
    exact List.forall_mem_cons.2 ⟨⟨first, hfirst⟩, exists_writeItems.1 ⟨rest, hrest⟩⟩

theorem exists_write_members {members : List (String × Value)} {depth : Nat} {text : List Char}
    (hw : (Value.object members).write layout depth = .ok text) :
    ∀ m ∈ members, ∃ text, m.2.write layout (depth + 1) = .ok text := by
  cases members with
  | nil => exact List.forall_mem_nil _
  | cons m members =>
    rw [Value.write] at hw
    obtain ⟨first, hfirst, hw⟩ := bind_eq_ok.1 hw
    obtain ⟨rest, hrest, -⟩ := bind_eq_ok.1 hw
    exact List.forall_mem_cons.2 ⟨⟨first, hfirst⟩, exists_writeMembers.1 ⟨rest, hrest⟩⟩

/-- What has a text, with no whole number too long to be read, is as a reading gives it. -/
theorem HasDistinctNames.isReadable (hv : HasDistinctNames v) (hshort : v.hasLongNumber = false)
    {depth : Nat} {text : List Char} (hw : v.write layout depth = .ok text) : IsReadable v := by
  induction hv generalizing depth text with
  | null => exact .null
  | bool b => exact .bool b
  | int n =>
    rw [Value.hasLongNumber] at hshort
    exact .int (Nat.not_lt.1 (of_decide_eq_false hshort))
  | real x => exact .real x
  | text s => exact .text s
  | foreign kind =>
    rw [Value.write] at hw
    cases hw
  | list _ ih =>
    rw [Value.hasLongNumber, haveLongNumber_eq_false] at hshort
    apply IsReadable.list
    intro item hitem
    obtain ⟨text, hw⟩ := exists_write_items hw item hitem
    exact ih item hitem (hshort item hitem) hw
  | object hnames _ ih =>
    rw [Value.hasLongNumber, membersHaveLongNumber_eq_false] at hshort
    apply IsReadable.object hnames
    intro m hm
    obtain ⟨text, hw⟩ := exists_write_members hw m hm
    exact ih m hm (hshort m hm) hw

theorem forall_assign {P : Value → Prop} {members : List (String × Value)} {value : Value}
    (h : ∀ m ∈ members, P m.2) (hvalue : P value) (key : String) :
    ∀ m ∈ assign key value members, P m.2 := by
  induction members with
  | nil => exact List.forall_mem_singleton.2 hvalue
  | cons m members ih =>
    obtain ⟨hm, hmembers⟩ := List.forall_mem_cons.1 h
    rw [assign]
    split
    · exact List.forall_mem_cons.2 ⟨hvalue, hmembers⟩
    · exact List.forall_mem_cons.2 ⟨hm, ih hmembers⟩

theorem names_assign (key : String) (value : Value) (members : List (String × Value)) :
    (assign key value members).map Prod.fst = if key ∈ members.map Prod.fst
      then members.map Prod.fst else members.map Prod.fst ++ [key] := by
  induction members with
  | nil => rfl
  | cons m members ih =>
    rw [assign]
    split
    · rename_i hkey
      rw [List.map_cons, List.map_cons, if_pos (List.mem_cons.2 (Or.inl hkey.symm))]
    · rename_i hkey
      have hkey' : key ≠ m.1 := fun heq => hkey heq.symm
      rw [List.map_cons, ih, List.map_cons]
      simp only [List.mem_cons, hkey', false_or]
      split
      · rfl
      · rfl

theorem nodup_assign {members : List (String × Value)} (h : (members.map Prod.fst).Nodup)
    (key : String) (value : Value) : ((assign key value members).map Prod.fst).Nodup := by
  rw [names_assign]
  split
  · exact h
  · rename_i hkey
    rw [List.nodup_append]
    refine ⟨h, List.pairwise_singleton _ key, ?_⟩
    intro a ha b hb hab
    obtain rfl := List.mem_singleton.1 hb
    exact hkey (hab ▸ ha)

theorem isReadable_object_nil : IsReadable (.object []) :=
  .object List.nodup_nil (List.forall_mem_nil _)

theorem isReadable_assign {members : List (String × Value)} {value : Value}
    (h : IsReadable (.object members)) (hvalue : IsReadable value) (key : String) :
    IsReadable (.object (assign key value members)) := by
  cases h with
  | object hnames h => exact .object (nodup_assign hnames key value) (forall_assign h hvalue key)

theorem of_lookup? {P : Value → Prop} {members : List (String × Value)} {key : String}
    {value : Value}
    (h : ∀ m ∈ members, P m.2) (hl : lookup? key members = some value) : P value := by
  induction members with
  | nil => cases hl
  | cons m members ih =>
    obtain ⟨hm, hmembers⟩ := List.forall_mem_cons.1 h
    rw [lookup?] at hl
    split at hl
    · obtain rfl := Option.some.inj hl
      exact hm
    · exact ih hmembers hl

/-- What holds of the simple values, of lists, and of objects whose names differ, if it holds of
their parts; and the other way for objects. -/
structure Inherited (P : Value → Prop) : Prop where
  null : P .null
  bool : ∀ b, P (.bool b)
  real : ∀ x, P (.real x)
  text : ∀ s, P (.text s)
  list : ∀ {items}, (∀ item ∈ items, P item) → P (.list items)
  object : ∀ {members : List (String × Value)}, (members.map Prod.fst).Nodup →
    (∀ m ∈ members, P m.2) → P (.object members)
  members : ∀ {members}, P (.object members) → ∀ m ∈ members, P m.2

theorem Inherited.empty {P : Value → Prop} (hP : Inherited P) : P (.object []) :=
  hP.object List.nodup_nil (List.forall_mem_nil _)

theorem Inherited.list_map_text {P : Value → Prop} (hP : Inherited P) (texts : List String) :
    P (.list (texts.map .text)) := by
  apply hP.list
  intro item hitem
  obtain ⟨s, -, rfl⟩ := List.mem_map.1 hitem
  exact hP.text s

theorem inherited_isPlain : Inherited IsPlain where
  null := .null
  bool := .bool
  real := .real
  text := .text
  list := .list
  object := fun _ h => .object h
  members := by
    intro members h
    cases h with
    | object h => exact h

theorem inherited_hasDistinctNames : Inherited HasDistinctNames where
  null := .null
  bool := .bool
  real := .real
  text := .text
  list := .list
  object := .object
  members := by
    intro members h
    cases h with
    | object _ h => exact h

theorem inherited_hasLongNumber_eq_false : Inherited fun v => v.hasLongNumber = false where
  null := by rw [Value.hasLongNumber.eq_def]
  bool := fun b => by rw [Value.hasLongNumber.eq_def]
  real := fun x => by rw [Value.hasLongNumber.eq_def]
  text := fun s => by rw [Value.hasLongNumber.eq_def]
  list := fun h => by rw [Value.hasLongNumber, haveLongNumber_eq_false.2 h]
  object := fun _ h => by rw [Value.hasLongNumber, membersHaveLongNumber_eq_false.2 h]
  members := fun h => by rwa [Value.hasLongNumber, membersHaveLongNumber_eq_false] at h

theorem Inherited.and {P Q : Value → Prop} (hP : Inherited P) (hQ : Inherited Q) :
    Inherited fun v => P v ∧ Q v where
  null := ⟨hP.null, hQ.null⟩
  bool := fun b => ⟨hP.bool b, hQ.bool b⟩
  real := fun x => ⟨hP.real x, hQ.real x⟩
  text := fun s => ⟨hP.text s, hQ.text s⟩
  list := fun h =>
    ⟨hP.list fun item hitem => (h item hitem).1, hQ.list fun item hitem => (h item hitem).2⟩
  object := fun hnames h =>
    ⟨hP.object hnames fun m hm => (h m hm).1, hQ.object hnames fun m hm => (h m hm).2⟩
  members := fun h m hm => ⟨hP.members h.1 m hm, hQ.members h.2 m hm⟩

theorem isReadable_iff : IsReadable v ↔ HasDistinctNames v ∧ IsPlain v ∧
    v.hasLongNumber = false := by
  constructor
  · intro h
    exact ⟨h.hasDistinctNames, h.isPlain, h.hasLongNumber_eq_false⟩
  · rintro ⟨hnames, hplain, hshort⟩
    obtain ⟨text, htext⟩ := hplain.exists_document .settings
    exact hnames.isReadable hshort htext

theorem inherited_isReadable : Inherited IsReadable := by
  have hparts :=
    inherited_hasDistinctNames.and (inherited_isPlain.and inherited_hasLongNumber_eq_false)
  simpa only [← isReadable_iff] using hparts

theorem isReadable_of_readWord? {text rest : List Char} {v : Value}
    (hr : readWord? text = some (v, rest)) : IsReadable v := by
  rw [readWord?.eq_def] at hr
  split at hr
  all_goals cases hr
  · exact IsReadable.null
  · exact IsReadable.bool true
  · exact IsReadable.bool false
  · exact IsReadable.real .nan
  · exact IsReadable.real (.infinite false)
  · exact IsReadable.real (.infinite true)

theorem isAsciiDigit_of_mem_readWhole {text : List Char} {c : Char} (hc : c ∈ (readWhole text).1) :
    Text.isAsciiDigit c = true := by
  rw [readWhole.eq_def] at hc
  split at hc
  · rw [List.mem_singleton.1 hc]
    rfl
  · exact List.all_eq_true.1 List.all_takeWhile c hc

theorem isReadable_of_readNumber {negative : Bool} {text rest : List Char} {v : Value}
    (hr : readNumber negative text = .ok (v, rest)) : IsReadable v := by
  unfold readNumber at hr
  dsimp only at hr
  split at hr
  · cases hr
  · rename_i hwhole
    split at hr
    · split at hr
      · cases hr
      · rename_i hshort
        cases hr
        apply IsReadable.int
        have hcount := Number.digitCount_digitsValue_le (fun c => isAsciiDigit_of_mem_readWhole)
          (mt List.isEmpty_iff.2 hwhole)
        split
        · rw [Int.natAbs_neg, Int.natAbs_natCast]
          omega
        · rw [Int.natAbs_natCast]
          omega
    · cases hr
      exact IsReadable.real _

/-- With this fuel only such values are read. -/
structure Reads (fuel : Nat) : Prop where
  value : ∀ text v rest, readValue fuel text = .ok (v, rest) → IsReadable v
  items : ∀ text items rest, readItems fuel text = .ok (items, rest) →
    ∀ item ∈ items, IsReadable item
  members : ∀ before text members rest, IsReadable (.object before) →
    readMembers fuel before text = .ok (members, rest) → IsReadable (.object members)

namespace Reads

variable {fuel : Nat}

theorem zero : Reads 0 where
  value := by
    intro text v rest hr
    rw [readValue] at hr
    cases hr
  items := by
    intro text items rest hr
    rw [readItems] at hr
    cases hr
  members := by
    intro before text members rest _ hr
    rw [readMembers] at hr
    cases hr

theorem succ_value (h : Reads fuel) {text rest : List Char} {v : Value}
    (hr : readValue (fuel + 1) text = .ok (v, rest)) : IsReadable v := by
  rw [readValue.eq_def] at hr
  dsimp only at hr
  split at hr
  · obtain ⟨found, -, hv⟩ := map_eq_ok.1 hr
    cases hv
    exact IsReadable.text _
  · split at hr
    · cases hr
      exact IsReadable.list (List.forall_mem_nil _)
    · obtain ⟨⟨items, rest'⟩, hitems, hv⟩ := map_eq_ok.1 hr
      cases hv
      exact IsReadable.list (h.items _ _ _ hitems)
  · split at hr
    · cases hr
      exact isReadable_object_nil
    · obtain ⟨⟨members, rest'⟩, hmembers, hv⟩ := map_eq_ok.1 hr
      cases hv
      exact h.members _ _ _ _ isReadable_object_nil hmembers
  · split at hr
    · rename_i found hfound
      cases hr
      exact isReadable_of_readWord? hfound
    · split at hr
      · exact isReadable_of_readNumber hr
      · exact isReadable_of_readNumber hr

theorem succ_items (h : Reads fuel) {text rest : List Char} {items : List Value}
    (hr : readItems (fuel + 1) text = .ok (items, rest)) : ∀ item ∈ items, IsReadable item := by
  rw [readItems] at hr
  obtain ⟨⟨item, rest'⟩, hitem, hr⟩ := bind_eq_ok.1 hr
  have hplain := h.value _ _ _ hitem
  dsimp only at hr
  split at hr
  · cases hr
    exact List.forall_mem_singleton.2 hplain
  · obtain ⟨⟨others, rest''⟩, hothers, hr⟩ := bind_eq_ok.1 hr
    cases hr
    exact List.forall_mem_cons.2 ⟨hplain, h.items _ _ _ hothers⟩
  · cases hr

theorem succ_members (h : Reads fuel) {text rest : List Char}
    {before members : List (String × Value)} (hbefore : IsReadable (.object before))
    (hr : readMembers (fuel + 1) before text = .ok (members, rest)) :
    IsReadable (.object members) := by
  rw [readMembers.eq_def] at hr
  dsimp only at hr
  split at hr
  · obtain ⟨⟨key, rest'⟩, -, hr⟩ := bind_eq_ok.1 hr
    dsimp only at hr
    split at hr
    · obtain ⟨⟨value, rest''⟩, hvalue, hr⟩ := bind_eq_ok.1 hr
      have hassigned := isReadable_assign hbefore (h.value _ _ _ hvalue)
      dsimp only at hr
      split at hr
      · cases hr
        exact hassigned _
      · exact h.members _ _ _ _ (hassigned _) hr
      · cases hr
    · cases hr
  · cases hr

end Reads

theorem parse_eq_ok_iff {text : List Char} : parse text = .ok v ↔ readDocument text = .ok v := by
  rw [parse]
  split
  · rename_i hhalf
    rw [hhalf]
    refine iff_of_false ?_ nofun
    intro hp
    obtain ⟨_, -, hp⟩ := bind_eq_ok.1 hp
    cases hp
  · rfl

theorem reads (fuel : Nat) : Reads fuel := by
  induction fuel with
  | zero => exact .zero
  | succ fuel ih =>
    exact ⟨fun _ _ _ => ih.succ_value, fun _ _ _ => ih.succ_items,
      fun _ _ _ _ hbefore => ih.succ_members hbefore⟩

/-- What was read can be written again. -/
theorem isReadable_of_parse {text : List Char} {v : Value} (hp : parse text = .ok v) :
    IsReadable v := by
  obtain ⟨⟨v', rest⟩, hread, hrest⟩ := bind_eq_ok.1 (parse_eq_ok_iff.1 hp)
  dsimp only at hrest
  split at hrest
  · cases hrest
    exact (reads _).value _ _ _ hread
  · cases hrest

end Json

end ReminderScan
