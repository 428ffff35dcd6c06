import ReminderScan.Json.Output
import ReminderScan.Proofs.Json.Written

/-! The output of a value is its text just when the value has one and no whole number in it is too
long. -/

namespace ReminderScan.Json

namespace Output

variable {o first second : Output} {before text : List Char}

theorem behind_eq_iff (before : List Char) : o.behind before = ⟨text, none⟩ ↔
    ∃ rest, o = ⟨rest, none⟩ ∧ text = before ++ rest := by
  obtain ⟨rest, fault⟩ := o
  rw [behind]
  constructor
  · intro h
    obtain ⟨rfl, rfl⟩ := Output.mk.inj h
    exact ⟨rest, rfl, rfl⟩
  · rintro ⟨rest', h, rfl⟩
    obtain ⟨rfl, rfl⟩ := Output.mk.inj h
    rfl

theorem behindPart_eq_iff (item : Value) (before : List Char) :
    o.behindPart item before = ⟨text, none⟩ ↔
    ∃ rest, o = ⟨rest, none⟩ ∧ text = before ++ rest := by
  rw [behindPart.eq_def]
  split
  · rename_i f hfault
    constructor
    · rintro rfl
      cases hfault
    · rintro ⟨rest, rfl, -⟩
      cases hfault
  · exact behind_eq_iff before

theorem andThen_eq_iff : first.andThen second = ⟨text, none⟩ ↔
    ∃ front rest, first = ⟨front, none⟩ ∧ second = ⟨rest, none⟩ ∧ text = front ++ rest := by
  obtain ⟨front, fault⟩ := first
  cases fault with
  | none =>
    constructor
    · intro h
      obtain ⟨rest, hrest, htext⟩ := (behind_eq_iff front).1 h
      exact ⟨front, rest, rfl, hrest, htext⟩
    · rintro ⟨front', rest, h, hrest, htext⟩
      obtain ⟨rfl, -⟩ := Output.mk.inj h
      exact (behind_eq_iff front).2 ⟨rest, hrest, htext⟩
  | some f =>
    constructor
    · intro h
      cases (Output.mk.inj h).2
    · rintro ⟨_, _, h, -⟩
      cases (Output.mk.inj h).2

end Output

/-- The output is that of a text which is either written in one piece or not at all, and which is
not written if something in it is too long. -/
def Agrees (o : Output) (long : Bool) (written : Except String (List Char)) : Prop :=
  ∀ text, o = ⟨text, none⟩ ↔ long = false ∧ written = .ok text

section

variable {a b c : Output} {long other : Bool} {x y : Except String (List Char)} {before : List Char}

theorem Agrees.pair (ha : Agrees a long x) (hb : Agrees b other y)
    (hc : ∀ text, c = ⟨text, none⟩ ↔ ∃ rest, a = ⟨rest, none⟩ ∧ text = before ++ rest) :
    Agrees (c.andThen b) (long || other)
      (x >>= fun first => y >>= fun rest => .ok (before ++ first ++ rest)) := by
  intro text
  simp only [Output.andThen_eq_iff, hc, Bool.or_eq_false_iff, bind_eq_ok]
  constructor
  · rintro ⟨_, rest, ⟨first, hfirst, rfl⟩, hrest, rfl⟩
    obtain ⟨hlong, hx⟩ := (ha first).1 hfirst
    obtain ⟨hother, hy⟩ := (hb rest).1 hrest
    exact ⟨⟨hlong, hother⟩, first, hx, rest, hy, rfl⟩
  · rintro ⟨⟨hlong, hother⟩, first, hx, rest, hy, htext⟩
    exact ⟨before ++ first, rest, ⟨first, (ha first).2 ⟨hlong, hx⟩, rfl⟩,
      (hb rest).2 ⟨hother, hy⟩, (Except.ok.inj htext).symm⟩

theorem Agrees.enclosed (ha : Agrees a long x) (hb : Agrees b other y)
    (hc : ∀ text, c = ⟨text, none⟩ ↔ ∃ rest, a = ⟨rest, none⟩ ∧ text = before ++ rest)
    (back close : List Char) :
    Agrees ((c.andThen b).andThen ⟨back ++ close, none⟩) (long || other)
      (x >>= fun first => y >>= fun rest => .ok (before ++ first ++ rest ++ back ++ close)) := by
  intro text
  rw [Output.andThen_eq_iff]
  simp only [ha.pair hb hc _, bind_eq_ok]
  constructor
  · rintro ⟨front, _, ⟨hlong, first, hx, rest, hy, hfront⟩, hclose, rfl⟩
    obtain ⟨rfl, -⟩ := Output.mk.inj hclose
    obtain rfl := Except.ok.inj hfront
    exact ⟨hlong, first, hx, rest, hy, by rw [← List.append_assoc]⟩
  · rintro ⟨hlong, first, hx, rest, hy, htext⟩
    obtain rfl := Except.ok.inj htext
    exact ⟨_, _, ⟨hlong, first, hx, rest, hy, rfl⟩, rfl, by rw [← List.append_assoc]⟩

theorem agrees_ok (text : List Char) : Agrees ⟨text, none⟩ false (.ok text) := by
  intro text'
  simp

end

theorem agrees_numberOutput (n : Int) :
    Agrees (numberOutput n) (Value.int n).hasLongNumber (.ok (Number.writtenInt n)) := by
  intro text
  rw [numberOutput, Value.hasLongNumber]
  split
  · rename_i hlong
    simp [hlong]
  · rename_i hshort
    simp [hshort]

mutual

theorem Value.agrees (layout : Layout) (depth : Nat) : (v : Value) →
    Agrees (v.output layout depth) v.hasLongNumber (v.write layout depth)
  | .null => agrees_ok _
  | .bool true => agrees_ok _
  | .bool false => agrees_ok _
  | .int n => agrees_numberOutput n
  | .real x => agrees_ok _
  | .text s => agrees_ok _
  | .list [] => agrees_ok _
  | .list (item :: items) =>
    (item.agrees layout (depth + 1)).enclosed (agrees_items layout (depth + 1) items)
      (fun _ => Output.behindPart_eq_iff item _) (layout.lineBreak depth) [']']
  | .object [] => agrees_ok _
  | .object ((key, value) :: members) =>
    (value.agrees layout (depth + 1)).enclosed (agrees_members layout (depth + 1) members)
      (fun _ => Output.behind_eq_iff _) (layout.lineBreak depth) ['\x7d']
  | .foreign kind => by
    intro text
    simp [Value.output, Value.write]

theorem agrees_items (layout : Layout) (depth : Nat) : (items : List Value) →
    Agrees (outputItems layout depth items) (haveLongNumber items) (writeItems layout depth items)
  | [] => agrees_ok _
  | item :: items =>
    (item.agrees layout depth).pair (agrees_items layout depth items) fun _ =>
      Output.behindPart_eq_iff item _

theorem agrees_members (layout : Layout) (depth : Nat) : (members : List (String × Value)) →
    Agrees (outputMembers layout depth members) (membersHaveLongNumber members)
      (writeMembers layout depth members)
  | [] => agrees_ok _
  | (_, value) :: members =>
    (value.agrees layout depth).pair (agrees_members layout depth members) fun _ =>
      Output.behind_eq_iff _

end

end ReminderScan.Json
