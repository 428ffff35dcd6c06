import Mathlib.Data.List.TakeWhile
import ReminderScan.FileTree.Below
import ReminderScan.Host.Basic
import ReminderScan.Proofs.Text.Strip

/-! Paths from the root on. Making a path absolute a second time changes nothing, and neither does
making one absolute that names an entry below a directory. -/

namespace ReminderScan
namespace Path

def Plain (name : List Char) : Prop :=
  name ≠ [] ∧ name ≠ ['.'] ∧ name ≠ ['.', '.'] ∧ '/' ∉ name

/-- Slashes, and then names with slashes between. -/
def rooted (slashes : Nat) (names : List (List Char)) : List Char :=
  List.replicate slashes '/' ++ List.intercalate ['/'] names

/-- A path in its shortest form from the root on. -/
def Settled (path : List Char) : Prop :=
  ∃ slashes names, (slashes = 1 ∨ slashes = 2) ∧ (∀ n ∈ names, Plain n) ∧
    path = rooted slashes names

theorem settle_of_plain (top : Bool) {names : List (List Char)} (h : ∀ n ∈ names, Plain n)
    (kept : List (List Char)) : settle top kept names = kept.reverse ++ names := by
  induction names generalizing kept with
  | nil => simp [settle]
  | cons n rest ih =>
    obtain ⟨h0, h1, h2, _⟩ := h n List.mem_cons_self
    simp [settle, h0, h1, h2, ih fun m hm => h m (List.mem_cons_of_mem n hm)]

/-- Below the root no pair of dots is kept. -/
theorem plain_of_mem_settle {names kept : List (List Char)} (hnames : ∀ n ∈ names, '/' ∉ n)
    (hkept : ∀ n ∈ kept, Plain n) : ∀ n ∈ settle true kept names, Plain n := by
  induction names generalizing kept with
  | nil => simpa [settle] using hkept
  | cons m rest ih =>
    have hrest : ∀ n ∈ rest, '/' ∉ n := fun n hn => hnames n (List.mem_cons_of_mem m hn)
    simp only [settle]
    split
    · exact ih hrest hkept
    · rename_i hm
      simp only [Bool.or_eq_true, decide_eq_true_eq, not_or] at hm
      split
      · cases kept with
        | nil => exact ih hrest hkept
        | cons last before =>
          have hlast := (hkept last List.mem_cons_self).2.2.1
          simp only [hlast, if_false]
          exact ih hrest fun n hn => hkept n (List.mem_cons_of_mem last hn)
      · rename_i hdots
        refine ih hrest fun n hn => ?_
        rcases List.mem_cons.1 hn with rfl | hn
        · exact ⟨hm.1, hm.2, hdots, hnames n List.mem_cons_self⟩
        · exact hkept n hn

/-- What is left of the names of a path was there before. -/
theorem forall_mem_settle {P : List Char → Prop} {top : Bool} {names kept : List (List Char)}
    (hnames : ∀ n ∈ names, P n) (hkept : ∀ n ∈ kept, P n) : ∀ n ∈ settle top kept names, P n := by
  induction names generalizing kept with
  | nil => simpa [settle] using hkept
  | cons m rest ih =>
    obtain ⟨hm, hrest⟩ := List.forall_mem_cons.1 hnames
    have hpush : ∀ n ∈ m :: kept, P n := List.forall_mem_cons.2 ⟨hm, hkept⟩
    simp only [settle]
    split
    · exact ih hrest hkept
    · split
      · cases kept with
        | nil =>
          dsimp only
          split
          · exact ih hrest hkept
          · exact ih hrest hpush
        | cons last before =>
          dsimp only
          split
          · exact ih hrest hpush
          · exact ih hrest (List.forall_mem_cons.1 hkept).2
      · exact ih hrest hpush

theorem not_mem_of_mem_splitOn {text name : List Char} (h : name ∈ text.splitOn '/') :
    '/' ∉ name := by
  induction text generalizing name with
  | nil => simp_all
  | cons c rest ih =>
    rw [List.splitOn_cons_eq_if_modifyHead] at h
    split at h
    · rcases List.mem_cons.1 h with rfl | h
      · simp
      · exact ih h
    · rename_i hc
      cases hs : rest.splitOn '/' with
      | nil => exact absurd hs (List.splitOn_ne_nil _ _)
      | cons first others =>
        rw [hs, List.modifyHead_cons] at h
        rcases List.mem_cons.1 h with rfl | h
        · have := ih (hs ▸ List.mem_cons_self)
          simp_all
          exact fun e => hc e.symm
        · exact ih (hs ▸ List.mem_cons_of_mem first h)

theorem splitOn_slash (text : List Char) : ('/' :: text).splitOn '/' = [] :: text.splitOn '/' := by
  simpa using List.splitOn_append_cons_self (a := '/') [] text

theorem splitOn_intercalate_of_plain {names : List (List Char)} (h : ∀ n ∈ names, Plain n) :
    (List.intercalate ['/'] names).splitOn '/' = if names = [] then [[]] else names := by
  split
  · next hn => simp [hn]
  · next hn => exact List.splitOn_intercalate '/' (fun n hm => (h n hm).2.2.2) hn

theorem head?_intercalate_ne_slash {names : List (List Char)} (h : ∀ n ∈ names, Plain n) :
    (List.intercalate ['/'] names).head? ≠ some '/' := by
  cases names with
  | nil => simp
  | cons n rest =>
    obtain ⟨h0, -, -, hslash⟩ := h n List.mem_cons_self
    cases n with
    | nil => exact absurd rfl h0
    | cons c cs => cases rest <;> simp_all [List.intercalate_cons_cons, eq_comm]

theorem leadingSlashes_rooted {slashes : Nat} {names : List (List Char)}
    (hs : slashes = 1 ∨ slashes = 2) (h : ∀ n ∈ names, Plain n) :
    leadingSlashes (rooted slashes names) = slashes := by
  have hhead := head?_intercalate_ne_slash h
  rcases hs with rfl | rfl
  all_goals
    simp only [rooted, List.replicate]
    generalize List.intercalate ['/'] names = text at hhead ⊢
    cases text <;> simp_all [leadingSlashes]

/-- The names of a settled path, read back from its text. -/
theorem settle_splitOn_rooted {slashes : Nat} {names : List (List Char)}
    (h : ∀ n ∈ names, Plain n) : settle true [] ((rooted slashes names).splitOn '/') = names := by
  induction slashes with
  | zero =>
    simp only [rooted, List.replicate_zero, List.nil_append, splitOn_intercalate_of_plain h]
    split
    · next hn => simp [settle, hn]
    · simpa using settle_of_plain true h []
  | succ n ih =>
    simp only [rooted, List.replicate_succ, List.cons_append, splitOn_slash] at ih ⊢
    simpa [settle] using ih

theorem normalise_of_settled {path : List Char} (h : Settled path) : normalise path = path := by
  obtain ⟨slashes, names, hs, hnames, rfl⟩ := h
  have hne : slashes ≠ 0 := by omega
  simp only [normalise, leadingSlashes_rooted hs hnames, hne, ne_eq, not_false_eq_true, decide_true,
    settle_splitOn_rooted hnames]
  rcases hs with rfl | rfl <;> simp [rooted, List.replicate]

theorem leadingSlashes_of_head? {path : List Char} (h : path.head? = some '/') :
    leadingSlashes path = 1 ∨ leadingSlashes path = 2 := by
  cases path with
  | nil => simp at h
  | cons c rest =>
    obtain rfl : c = '/' := by simpa using h
    unfold leadingSlashes
    split <;> simp_all

theorem settled_normalise {path : List Char} (h : path.head? = some '/') :
    Settled (normalise path) := by
  have hs := leadingSlashes_of_head? h
  have hne : leadingSlashes path ≠ 0 := by omega
  refine ⟨leadingSlashes path, settle true [] (path.splitOn '/'), hs,
    plain_of_mem_settle (fun n hn => not_mem_of_mem_splitOn hn) (by simp), ?_⟩
  rcases hs with hs | hs <;> simp [normalise, hs, rooted, List.replicate]

theorem head?_join {before path : List Char} (h : before.head? = some '/') :
    (join before path).head? = some '/' := by
  cases before with
  | nil => simp at h
  | cons c rest =>
    unfold join
    split
    · assumption
    · split <;> simpa using h

theorem head?_of_settled {path : List Char} (h : Settled path) : path.head? = some '/' := by
  obtain ⟨slashes, names, rfl | rfl, -, rfl⟩ := h <;> simp [rooted, List.replicate]

theorem join_of_settled {path : List Char} (h : Settled path) (before : List Char) :
    join before path = path := by
  simp [join, head?_of_settled h]

/-- What stands between the slashes does not end with one. -/
theorem getLast?_intercalate_ne_slash {names : List (List Char)} (h : ∀ n ∈ names, Plain n) :
    (List.intercalate ['/'] names).getLast? ≠ some '/' := by
  induction names with
  | nil => simp
  | cons n rest ih =>
    obtain ⟨h0, -, -, hslash⟩ := h n List.mem_cons_self
    cases rest with
    | nil =>
      rw [List.intercalate_singleton]
      exact fun he => hslash (List.mem_of_getLast? he)
    | cons m more =>
      have hrest := ih fun k hk => h k (List.mem_cons_of_mem n hk)
      have hm := (h m (by simp)).1
      rw [List.intercalate_cons_cons, List.getLast?_append]
      cases hl : (List.intercalate ['/'] (m :: more)).getLast? with
      | some c => simpa [hl] using hrest
      | none =>
        rw [List.getLast?_eq_none_iff] at hl
        cases more <;> simp_all [List.intercalate_cons_cons]

theorem intercalate_append {first second : List (List Char)} (h : first ≠ []) (h' : second ≠ []) :
    List.intercalate ['/'] (first ++ second) =
      List.intercalate ['/'] first ++ '/' :: List.intercalate ['/'] second := by
  induction first with
  | nil => exact absurd rfl h
  | cons n rest ih =>
    cases rest with
    | nil =>
      obtain ⟨m, more, rfl⟩ := List.exists_cons_of_ne_nil h'
      simp [List.intercalate_cons_cons]
    | cons m more =>
      have := ih (by simp)
      simp_all [List.intercalate_cons_cons]

/-- Going down by plain names from a settled path gives a settled path. -/
theorem settled_join {path : List Char} (h : Settled path) {names : List (List Char)}
    (hnames : ∀ n ∈ names, Plain n) (hne : names ≠ []) :
    Settled (join path (List.intercalate ['/'] names)) := by
  obtain ⟨slashes, before, hs, hbefore, rfl⟩ := h
  refine ⟨slashes, before ++ names, hs, ?_, ?_⟩
  · intro n hn
    exact (List.mem_append.1 hn).elim (hbefore n) (hnames n)
  · have hhead := head?_intercalate_ne_slash hnames
    by_cases hb : before = []
    · subst hb
      rcases hs with rfl | rfl <;> simp [join, rooted, hhead, List.replicate]
    · have hlast := getLast?_intercalate_ne_slash hbefore
      have htext : List.intercalate ['/'] before ≠ [] := by
        obtain ⟨n, rest, rfl⟩ := List.exists_cons_of_ne_nil hb
        have := (hbefore n List.mem_cons_self).1
        cases rest <;> simp_all [List.intercalate_cons_cons]
      have hrooted : (rooted slashes before).getLast? ≠ some '/' := by
        rw [rooted, List.getLast?_append]
        cases hl : (List.intercalate ['/'] before).getLast? with
        | some c => simpa [hl] using hlast
        | none => exact absurd (List.getLast?_eq_none_iff.1 hl) htext
      have hempty : (rooted slashes before).isEmpty = false := by simp [rooted, htext]
      have hjoin : join (rooted slashes before) (List.intercalate ['/'] names) =
          rooted slashes before ++ '/' :: List.intercalate ['/'] names := by
        simp [join, hhead, hempty, hrooted]
      rw [hjoin, rooted, rooted, intercalate_append hb hne, List.append_assoc]

theorem mem_intercalate_iff {c : Char} {names : List (List Char)} (hc : c ≠ '/') :
    c ∈ List.intercalate ['/'] names ↔ ∃ n ∈ names, c ∈ n := by
  induction names with
  | nil => simp
  | cons n rest ih =>
    cases rest with
    | nil => simp
    | cons m more =>
      rw [List.intercalate_cons_cons, List.mem_append, List.mem_append, ih]
      simp [hc]

/-- Only slashes and dots can be new in the shortest form of a path. -/
theorem mem_of_mem_normalise {c : Char} (hslash : c ≠ '/') (hdot : c ≠ '.') {path : List Char}
    (h : c ∈ normalise path) : c ∈ path := by
  have hbody : c ∈ List.replicate (leadingSlashes path) '/' ++
      List.intercalate ['/'] (settle (leadingSlashes path ≠ 0) [] (path.splitOn '/')) := by
    rw [normalise] at h
    split at h
    · exact absurd (List.mem_singleton.1 h) hdot
    · exact h
  rcases List.mem_append.1 hbody with hc | hc
  · exact absurd (List.eq_of_mem_replicate hc) hslash
  · obtain ⟨n, hn, hc⟩ := (mem_intercalate_iff hslash).1 hc
    have hwhole : List.intercalate ['/'] (path.splitOn '/') = path := List.intercalate_splitOn '/'
    have hnames : ∀ m ∈ path.splitOn '/', c ∈ m → c ∈ path := by
      intro m hm hmem
      rw [← hwhole]
      exact (mem_intercalate_iff hslash).2 ⟨m, hm, hmem⟩
    exact forall_mem_settle hnames (List.forall_mem_nil _) n hn hc

theorem mem_of_mem_join {c : Char} (hslash : c ≠ '/') {before path : List Char}
    (h : c ∈ join before path) : c ∈ before ∨ c ∈ path := by
  rw [join] at h
  split at h
  · exact Or.inr h
  · split at h
    · exact List.mem_append.1 h
    · simpa [hslash] using h

theorem takeWhile_reverse_append {c : Char} (before : List Char) {after : List Char}
    (hafter : c ∉ after) :
    ((before ++ c :: after).reverse.takeWhile (· ≠ c)).reverse = after := by
  have hother : ∀ d ∈ after.reverse, decide (d ≠ c) = true := by
    intro d hd
    simp only [ne_eq, decide_not, Bool.not_eq_true', decide_eq_false_iff_not]
    rintro rfl
    exact hafter (List.mem_reverse.1 hd)
  rw [List.reverse_append, List.reverse_cons, List.append_assoc,
    List.takeWhile_append_of_pos hother,
    List.singleton_append, List.takeWhile_cons_of_neg (by simp), List.append_nil,
      List.reverse_reverse]

/-- The extension of a name stands after its last dot, before which something else than dots has to
stand. -/
theorem extension?_eq_some_iff {name extension : List Char} : extension? name = some extension ↔
    ∃ stem, name = stem ++ '.' :: extension ∧ '.' ∉ extension ∧ ∃ c ∈ stem, c ≠ '.' := by
  rw [extension?]
  constructor
  · intro h
    split at h
    · rename_i hdot
      have hdot : '.' ∈ (name.dropWhile (· = '.')).reverse := by simpa using hdot
      obtain ⟨after, before, hbody, hafter⟩ := List.eq_append_cons_of_mem hdot
      have hbody : name.dropWhile (· = '.') = before.reverse ++ '.' :: after.reverse := by
        rw [← List.reverse_reverse (name.dropWhile _), hbody]
        simp
      have hafter : '.' ∉ after.reverse := mt List.mem_reverse.1 hafter
      rw [hbody, takeWhile_reverse_append _ hafter] at h
      obtain rfl := Option.some.inj h
      refine ⟨name.takeWhile (· = '.') ++ before.reverse, ?_, hafter, ?_⟩
      · rw [List.append_assoc, ← hbody, List.takeWhile_append_dropWhile]
      · have hhead := Text.head?_dropWhile (fun c => decide (c = '.')) name
        rw [hbody] at hhead
        cases hbefore : before.reverse with
        | nil =>
          rw [hbefore] at hhead
          exact absurd (hhead '.' rfl) (by decide)
        | cons c rest =>
          rw [hbefore] at hhead
          exact ⟨c, by simp, of_decide_eq_false (hhead c rfl)⟩
    · cases h
  · rintro ⟨stem, rfl, hextension, c, hc, hother⟩
    have hstem : (stem.dropWhile (· = '.')).isEmpty = false := by
      rw [Bool.eq_false_iff]
      intro hempty
      have hdots := List.dropWhile_eq_nil_iff.1 (List.isEmpty_iff.1 hempty) c hc
      exact hother (of_decide_eq_true hdots)
    rw [List.dropWhile_append, hstem, if_neg Bool.false_ne_true, if_pos (by simp),
      takeWhile_reverse_append _ hextension]

/-- The path is the name, or ends with a slash and the name. -/
def EndsIn (path name : List Char) : Prop := path = name ∨ ∃ before, path = before ++ '/' :: name

theorem EndsIn.join {path name : List Char} (h : EndsIn path name) (before : List Char) :
    EndsIn (Path.join before path) name := by
  rw [Path.join]
  split
  · exact h
  · split
    · rename_i hbefore
      rcases h with rfl | ⟨front, rfl⟩
      · rcases List.eq_nil_or_concat before with rfl | ⟨start, last, rfl⟩
        · exact Or.inl rfl
        · obtain rfl : last = '/' := by simpa using hbefore
          exact Or.inr ⟨start, by simp⟩
      · exact Or.inr ⟨before ++ front, by simp⟩
    · rcases h with rfl | ⟨front, rfl⟩
      · exact Or.inr ⟨before, rfl⟩
      · exact Or.inr ⟨before ++ '/' :: front, by simp⟩

theorem EndsIn.splitOn {path name : List Char} (h : EndsIn path name) (hname : '/' ∉ name) :
    ∃ before, path.splitOn '/' = before ++ [name] := by
  have hsplit : name.splitOn '/' = [name] := List.splitOn_eq_singleton hname
  rcases h with rfl | ⟨front, rfl⟩
  · exact ⟨[], hsplit⟩
  · exact ⟨front.splitOn '/', by rw [List.splitOn_append_cons_self, hsplit]⟩

theorem leadingSlashes_le (path : List Char) : leadingSlashes path ≤ 2 := by
  fun_cases leadingSlashes path
  all_goals decide

namespace Names

theorem endsIn_text {p : Names} {before : List String} {last : String}
    (hnames : p.names = before ++ [last]) (hlast : last ≠ "") :
    EndsIn p.text.toList last.toList := by
  have hbody : EndsIn (List.replicate p.slashes '/' ++
      List.intercalate ['/'] (p.names.map String.toList)) last.toList := by
    rw [hnames, List.map_append, List.map_singleton]
    by_cases hbefore : before = []
    · rw [hbefore, List.map_nil, List.nil_append, List.intercalate_singleton]
      cases p.slashes with
      | zero => exact Or.inl rfl
      | succ n => exact Or.inr ⟨List.replicate n '/', by rw [List.replicate_succ']; simp⟩
    · rw [intercalate_append (by simpa using hbefore) (by simp), List.intercalate_singleton]
      exact Or.inr ⟨_, (List.append_assoc _ _ _).symm⟩
  rw [text]
  split
  · rename_i hempty
    rw [List.isEmpty_iff.1 hempty] at hbody
    rcases hbody with hnil | ⟨front, hnil⟩
    · exact absurd (String.toList_eq_nil_iff.1 hnil.symm) hlast
    · simp at hnil
  · rw [String.toList_ofList]
    exact hbody

theorem head?_text {p : Names} (h : p.slashes ≠ 0) : p.text.toList.head? = some '/' := by
  obtain ⟨slashes, names⟩ := p
  obtain ⟨n, rfl⟩ := Nat.exists_eq_succ_of_ne_zero h
  rw [text, List.replicate_succ, List.cons_append]
  exact congrArg List.head? String.toList_ofList

theorem slashes_ofText {path : String} (h : path.toList.head? = some '/') :
    (ofText path).slashes ≠ 0 := by
  have hs := leadingSlashes_of_head? h
  change leadingSlashes path.toList ≠ 0
  omega

theorem mem_ofText {path name : String} (hname : name ∈ (ofText path).names) :
    name ≠ "" ∧ name ≠ "." ∧ '/' ∉ name.toList := by
  obtain ⟨cs, hcs, rfl⟩ := List.mem_map.1 hname
  obtain ⟨hmem, hkept⟩ := List.mem_filter.1 hcs
  have hkept : cs ≠ [] ∧ cs ≠ ['.'] := by simpa using hkept
  refine ⟨?_, ?_, ?_⟩
  · intro hempty
    exact hkept.1 (by simpa using congrArg String.toList hempty)
  · intro hdot
    exact hkept.2 (by simpa using congrArg String.toList hdot)
  · rw [String.toList_ofList]
    exact not_mem_of_mem_splitOn hmem

end Names
end Path

theorem stepsOf_of_endsIn {path : String} {name : List Char} (h : Path.EndsIn path.toList name)
    (hne : name ≠ []) (hslash : '/' ∉ name) :
    ∃ before, stepsOf path = before ++ [String.ofList name] := by
  obtain ⟨front, hsplit⟩ := h.splitOn hslash
  refine ⟨(front.filter (· ≠ [])).map String.ofList, ?_⟩
  rw [stepsOf, hsplit]
  simp [hne]

theorem FileTree.plain_of_name (n : Name) : Path.Plain n.val.toList := by
  obtain ⟨s, h0, h1, h2, hslash, -⟩ := n
  refine ⟨?_, ?_, ?_, hslash⟩ <;> intro he
  · exact h0 (String.toList_inj.1 he)
  · exact h1 (String.toList_inj.1 he)
  · exact h2 (String.toList_inj.1 he)

/-- The current directory is given from the root on. -/
def Host.IsRooted (h : Host) : Prop := h.directory.toList.head? = some '/'

instance (h : Host) : Decidable h.IsRooted :=
  inferInstanceAs (Decidable (h.directory.toList.head? = some '/'))

namespace Host

/-- A path has a form from the root on: no user in it has a name with a NUL, and the current
directory is there if the path does not start at the root. -/
structure Nameable (h : Host) (path : String) : Prop where
  user : '\x00' ∉ userOf path.toList
  full : (h.expandUser path).toList.head? = some '/' ∨ h.isDirectory h.directory = true

variable {h : Host}

theorem settled_absolute (hr : h.IsRooted) (path : String) :
    Path.Settled (h.absolute path).toList := by
  rw [absolute, Path.absolute, String.toList_ofList]
  exact Path.settled_normalise (Path.head?_join hr)

theorem absolute_of_settled {path : String} (hp : Path.Settled path.toList) :
    h.absolute path = path := by
  rw [absolute, Path.absolute, Path.join_of_settled hp, Path.normalise_of_settled hp,
    String.ofList_toList]

theorem absolute_absolute (hr : h.IsRooted) (path : String) :
    h.absolute (h.absolute path) = h.absolute path :=
  absolute_of_settled (settled_absolute hr path)

theorem absolute_absoluteUser (hr : h.IsRooted) (path : String) :
    h.absolute (h.absoluteUser path) = h.absoluteUser path :=
  absolute_absolute hr (h.expandUser path)

theorem expandUser_of_head? {path : String} (hhead : path.toList.head? ≠ some '~') :
    h.expandUser path = path := by
  rw [expandUser]
  split
  · rename_i htilde
    rw [htilde] at hhead
    exact absurd rfl hhead
  · rfl

theorem userOf_of_head? {path : List Char} (hhead : path.head? ≠ some '~') : userOf path = [] := by
  rw [userOf.eq_def]
  split
  · exact absurd rfl hhead
  · rfl

/-- A path has a form from the root on if it stands there already or the current directory does. -/
theorem absolute?_eq_ok {path full : String} : h.absolute? path = .ok full ↔
    (path.toList.head? = some '/' ∨ h.isDirectory h.directory = true) ∧ h.absolute path = full := by
  rw [absolute?]
  split
  · rename_i hgone
    simp_all
  · rename_i hthere
    rw [Except.ok.injEq, and_iff_right]
    simpa [imp_iff_or_not, or_comm] using hthere

theorem absoluteUser?_eq_ok {path full : String} :
    h.absoluteUser? path = .ok full ↔ h.Nameable path ∧ h.absoluteUser path = full := by
  rw [absoluteUser?, absoluteUser]
  split
  · rename_i hnul
    exact iff_of_false nofun fun hnamed => hnamed.1.user hnul
  · rename_i hnul
    rw [absolute?_eq_ok]
    exact and_congr_left fun _ => ⟨fun hfull => ⟨hnul, hfull⟩, Nameable.full⟩

theorem exists_absoluteUser? {path : String} :
    (∃ full, h.absoluteUser? path = .ok full) ↔ h.Nameable path := by
  simp [absoluteUser?_eq_ok]

/-- A path from the root on names no user and asks for no current directory. -/
theorem absoluteUser?_of_rooted {path : String} (hrooted : path.toList.head? = some '/') :
    h.absoluteUser? path = .ok (h.absolute path) := by
  have hhead : path.toList.head? ≠ some '~' := by
    rw [hrooted]
    decide
  rw [absoluteUser?_eq_ok, absoluteUser, expandUser_of_head? hhead]
  refine ⟨⟨?_, Or.inl ?_⟩, rfl⟩
  · rw [userOf_of_head? hhead]
    exact List.not_mem_nil
  · rw [expandUser_of_head? hhead]
    exact hrooted

theorem not_mem_absolute {path : String} {c : Char} (hslash : c ≠ '/') (hdot : c ≠ '.')
    (hdirectory : c ∉ h.directory.toList) (hpath : c ∉ path.toList) :
    c ∉ (h.absolute path).toList := by
  intro hc
  rw [absolute, Path.absolute, String.toList_ofList] at hc
  rcases Path.mem_of_mem_join hslash (Path.mem_of_mem_normalise hslash hdot hc) with hc | hc
  · exact hdirectory hc
  · exact hpath hc

theorem nul_not_mem_of_isDirectory {path : String} (hd : h.isDirectory path = true) :
    '\x00' ∉ path.toList := by
  intro hnul
  simp [isDirectory, locate, hnul] at hd

theorem nul_not_mem_of_absolute? {path full : String} (hfull : h.absolute? path = .ok full)
    (hpath : '\x00' ∉ path.toList) : '\x00' ∉ full.toList := by
  obtain ⟨hrooted | hthere, rfl⟩ := absolute?_eq_ok.1 hfull
  · intro hc
    rw [absolute, Path.absolute, String.toList_ofList, Path.join, if_pos hrooted] at hc
    exact hpath (Path.mem_of_mem_normalise (by decide) (by decide) hc)
  · exact not_mem_absolute (by decide) (by decide) (nul_not_mem_of_isDirectory hthere) hpath

end Host
end ReminderScan
