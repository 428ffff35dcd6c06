import Mathlib.Data.List.Induction
import ReminderScan.FileTree.Basic

/-! Trees that differ by new directories, and by a file at one place. -/

namespace ReminderScan.FileTree

variable {t t' before middle after : FileTree} {p q : Place} {node : Node}

/-- Each entry stands in a directory. -/
def Connected (t : FileTree) : Prop := ∀ e ∈ t.nodes, t.get? e.1.dropLast = some .directory

instance : Decidable t.Connected := by unfold Connected; infer_instance

theorem Connected.get?_dropLast (hc : t.Connected) {p : Place} {node : Node}
    (hget : t.get? p = some node) : t.get? p.dropLast = some .directory := by
  by_cases hp : p = []
  · subst hp
    rfl
  · exact hc _ ((get?_eq_some_iff hp).1 hget)

theorem connected_iff : t.Connected ↔
    ∀ p name node, t.get? (p ++ [name]) = some node → t.get? p = some .directory := by
  constructor
  · intro hc p name node hget
    have hdir := hc.get?_dropLast hget
    rw [List.dropLast_concat] at hdir
    exact hdir
  · rintro h ⟨place, node⟩ hmem
    rcases List.eq_nil_or_concat place with rfl | ⟨p, name, rfl⟩
    · rfl
    · rw [List.concat_eq_append] at hmem
      have hne := List.append_ne_nil_of_right_ne_nil p (List.cons_ne_nil name [])
      have hget := (get?_eq_some_iff hne).2 hmem
      simpa using h p name node hget

theorem Connected.get?_below (hc : t.Connected) {p : Place} (hp : t.get? p ≠ some .directory)
    {names : List Name} (hne : names ≠ []) : t.get? (p ++ names) = none := by
  induction names using List.reverseRecOn with
  | nil => exact absurd rfl hne
  | append_singleton before name ih =>
    by_contra hget
    obtain ⟨node, hget⟩ := Option.ne_none_iff_exists'.1 hget
    rw [← List.append_assoc] at hget
    have hdir := connected_iff.1 hc _ name node hget
    by_cases hbefore : before = []
    · subst hbefore
      rw [List.append_nil] at hdir
      exact hp hdir
    · rw [ih hbefore] at hdir
      cases hdir

theorem get?_insert_self (hp : p ≠ []) : (t.insert p node).get? p = some node := by
  rw [get?_insert _ _ _ _ hp, if_pos rfl]

theorem get?_insert_of_ne (hq : q ≠ p) : (t.insert p node).get? q = t.get? q := by
  by_cases hroot : q = []
  · subst hroot
    rfl
  · rw [get?_insert _ _ _ _ hroot, if_neg hq]

theorem insert_insert (t : FileTree) (p : Place) (first node : Node) :
    (t.insert p first).insert p node = t.insert p node := by
  simp [insert, List.filter_filter]

/-- Where no directory stands, an erasure takes away one entry at most. -/
theorem Connected.get?_erase (hc : t.Connected) (hp : t.get? p ≠ some .directory) (q : Place) :
    (t.erase p).get? q = if q = p then none else t.get? q := by
  have hroot : p ≠ [] := by
    rintro rfl
    exact hp rfl
  by_cases hq : q = []
  · subst hq
    rw [if_neg hroot.symm]
    rfl
  · rw [FileTree.get?_erase _ _ _ hq]
    by_cases hbelow : p.isPrefixOf q = true
    · obtain ⟨names, rfl⟩ := List.isPrefixOf_iff_prefix.1 hbelow
      rw [if_pos hbelow]
      by_cases hnames : names = []
      · subst hnames
        rw [List.append_nil, if_pos rfl]
      · rw [if_neg (by simpa using hnames), hc.get?_below hp hnames]
    · rw [if_neg hbelow, if_neg]
      rintro rfl
      exact hbelow (List.isPrefixOf_iff_prefix.2 (List.prefix_refl q))

/-- What stands at a place stood there before, or it is a directory where nothing was. -/
def GrownAt (p : Place) (before after : FileTree) : Prop :=
  after.get? p = before.get? p ∨ before.get? p = none ∧ after.get? p = some .directory

/-- All that is new in the second tree are directories. -/
def Grown (before after : FileTree) : Prop := ∀ p, GrownAt p before after

def GrownApart (q : Place) (before after : FileTree) : Prop := ∀ p, p ≠ q → GrownAt p before after

theorem GrownAt.trans (h : GrownAt p before middle) (h' : GrownAt p middle after) :
    GrownAt p before after := by
  rcases h' with hsame | ⟨hnone, hdir⟩
  · rw [GrownAt, hsame]
    exact h
  · rcases h with hsame | ⟨-, hdir'⟩
    · exact Or.inr ⟨hsame ▸ hnone, hdir⟩
    · rw [hdir'] at hnone
      cases hnone

theorem GrownAt.eq_none (h : GrownAt p before after) (hnone : after.get? p = none) :
    before.get? p = none := by
  rcases h with hsame | ⟨hnone', -⟩
  · exact hsame ▸ hnone
  · exact hnone'

theorem Grown.refl (t : FileTree) : Grown t t := fun _ => Or.inl rfl

theorem Grown.trans (h : Grown before middle) (h' : Grown middle after) : Grown before after :=
  fun p => (h p).trans (h' p)

theorem Grown.trans_apart (h : Grown before middle) (h' : GrownApart q middle after) :
    GrownApart q before after := fun p hp => (h p).trans (h' p hp)

theorem grown_insert (hnone : t.get? p = none) : Grown t (t.insert p .directory) := by
  intro q
  by_cases hq : q = p
  · subst hq
    have hroot : q ≠ [] := by
      rintro rfl
      cases hnone
    exact Or.inr ⟨hnone, get?_insert_self hroot⟩
  · exact Or.inl (get?_insert_of_ne hq)

theorem Connected.insert_directory (hc : t.Connected) {dir : Place} {name : Name}
    (hdir : t.get? dir = some .directory) (hnone : t.get? (dir ++ [name]) = none) :
    (t.insert (dir ++ [name]) .directory).Connected := by
  have hgrown := grown_insert hnone
  have hkeep : ∀ p, t.get? p = some .directory →
      (t.insert (dir ++ [name]) .directory).get? p = some .directory := by
    intro p hp
    rcases hgrown p with hsame | ⟨-, hnew⟩
    · rw [hsame]
      exact hp
    · exact hnew
  apply connected_iff.2
  intro p last node hget
  apply hkeep
  by_cases hlast : p ++ [last] = dir ++ [name]
  · obtain ⟨rfl, -⟩ := List.append_inj' hlast rfl
    exact hdir
  · rw [get?_insert_of_ne hlast] at hget
    exact connected_iff.1 hc p last node hget

/-- The second tree has a file at a place where the first has no directory; otherwise they are the
same. -/
structure Filed (q : Place) (t t' : FileTree) : Prop where
  off : ∀ p, p ≠ q → t'.get? p = t.get? p
  file : ∃ bytes modified, t'.get? q = some (.file bytes modified)
  before : t.get? q ≠ some .directory

namespace Filed

theorem get?_directory (hf : Filed q t t') {p : Place} :
    t'.get? p = some .directory ↔ t.get? p = some .directory := by
  by_cases hp : p = q
  · subst hp
    obtain ⟨bytes, modified, hfile⟩ := hf.file
    rw [hfile]
    constructor
    · intro hdir
      cases hdir
    · intro hdir
      exact absurd hdir hf.before
  · rw [hf.off p hp]

theorem ne_of_get? (hf : Filed q t t') {p : Place} {found : Option Node} (hp : t'.get? p = found)
    (hfound : ∀ bytes modified, found ≠ some (.file bytes modified)) : p ≠ q := by
  rintro rfl
  obtain ⟨bytes, modified, hfile⟩ := hf.file
  exact hfound bytes modified (hp.symm.trans hfile)

theorem connected (hf : Filed q t t') (hc : t.Connected) {dir : Place} {name : Name}
    (hq : q = dir ++ [name]) (hdir : t.get? dir = some .directory) : t'.Connected := by
  apply connected_iff.2
  intro p last node hget
  apply hf.get?_directory.2
  by_cases hlast : p ++ [last] = q
  · rw [hq] at hlast
    obtain ⟨rfl, -⟩ := List.append_inj' hlast rfl
    exact hdir
  · rw [hf.off _ hlast] at hget
    exact connected_iff.1 hc p last node hget

theorem insert (hq : t.get? q ≠ some .directory) (bytes : List UInt8) (modified : Number.Binary64) :
    Filed q t (t.insert q (.file bytes modified)) where
  off := fun _ hp => get?_insert_of_ne hp
  file := by
    have hroot : q ≠ [] := by
      rintro rfl
      exact hq rfl
    exact ⟨bytes, modified, get?_insert_self hroot⟩
  before := hq

theorem insert_again (hf : Filed q t t') (bytes : List UInt8) (modified : Number.Binary64) :
    Filed q t (t'.insert q (.file bytes modified)) := by
  have hroot : q ≠ [] := by
    rintro rfl
    exact hf.before rfl
  refine ⟨?_, ⟨bytes, modified, get?_insert_self hroot⟩, hf.before⟩
  intro p hp
  rw [get?_insert_of_ne hp]
  exact hf.off p hp

end Filed

end ReminderScan.FileTree
