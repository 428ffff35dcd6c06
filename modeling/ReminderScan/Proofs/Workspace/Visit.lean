import Mathlib.Data.List.Nodup
import ReminderScan.Proofs.FileTree.Walk
import ReminderScan.Proofs.Workspace.Candidates

/-! A search of directories from the top down. Each directory is listed in some order, unless its
path is too long; the names that are left out are dropped before its directories are searched one
after another, and links to directories are not followed. What is found does not depend on the
orders. -/

namespace ReminderScan

namespace FileTree

variable {t : FileTree} {enter : String → Bool} {here : Place}

theorem isWay_iff {names : List Name} : t.isWay enter here names = true ↔
    (∀ name ∈ names, enter name.val = true) ∧
      ∀ before, before ≠ [] → before <+: names → t.get? (here ++ before) = some .directory := by
  induction names generalizing here with
  | nil =>
    refine iff_of_true rfl ⟨List.forall_mem_nil _, ?_⟩
    intro before hne hprefix
    exact absurd (List.prefix_nil.1 hprefix) hne
  | cons name rest ih =>
    rw [isWay, Bool.and_eq_true, Bool.and_eq_true, isDirectory_iff, ih, List.forall_mem_cons]
    constructor
    · rintro ⟨⟨hname, hdir⟩, hrest, hway⟩
      refine ⟨⟨hname, hrest⟩, ?_⟩
      intro before hne hprefix
      obtain rfl | ⟨tail, rfl, htail⟩ := List.prefix_cons_iff.1 hprefix
      · exact absurd rfl hne
      · by_cases hnil : tail = []
        · rw [hnil]
          exact hdir
        · rw [List.append_cons]
          exact hway tail hnil htail
    · rintro ⟨⟨hname, hrest⟩, hway⟩
      refine ⟨⟨hname, hway [name] (by simp) (by simp)⟩, hrest, ?_⟩
      intro before hne hprefix
      rw [List.append_assoc]
      exact hway (name :: before) (by simp) (List.cons_prefix_cons.2 ⟨rfl, hprefix⟩)

/-- The names in each directory, once and in some order. -/
structure Lists (t : FileTree) (list : Place → List Name) : Prop where
  nodup : ∀ place, (list place).Nodup
  mem_iff : ∀ place name, name ∈ list place ↔ ∃ node, t.get? (place ++ [name]) = some node

def nameIn? (place : Place) (entry : Place × Node) : Option Name :=
  match relative? place entry.1 with
  | some [name] => some name
  | _ => none

theorem nameIn?_eq_some_iff {place : Place} {entry : Place × Node} {name : Name} :
    nameIn? place entry = some name ↔ entry.1 = place ++ [name] := by
  rw [← relative?_eq_some_iff, nameIn?]
  split
  · rename_i found hfound
    simp [hfound]
  · rename_i hother
    exact iff_of_false nofun fun hfound => hother name hfound

def namesIn (t : FileTree) (place : Place) : List Name := t.nodes.filterMap (nameIn? place)

theorem lists_namesIn (t : FileTree) : t.Lists t.namesIn := by
  constructor
  · intro place
    have hplaces : t.nodes.Pairwise fun a b => a.1 ≠ b.1 := List.pairwise_map.1 t.distinct
    refine hplaces.filterMap _ ?_
    intro p q hne a ha b hb hab
    rw [nameIn?_eq_some_iff.1 ha, nameIn?_eq_some_iff.1 hb, hab] at hne
    exact hne rfl
  · intro place name
    have hne : place ++ [name] ≠ [] := by simp
    simp only [namesIn, List.mem_filterMap, nameIn?_eq_some_iff, get?_eq_some_iff hne]
    constructor
    · rintro ⟨⟨_, node⟩, hmem, rfl⟩
      exact ⟨node, hmem⟩
    · rintro ⟨node, hmem⟩
      exact ⟨_, hmem, rfl⟩

end FileTree

namespace Host

/-- An entry that is no directory stands at the place, and its path does not lead to one. -/
def HoldsFile (h : Host) (place : Place) (path : String) : Prop :=
  ∃ node, h.tree.get? place = some node ∧ node ≠ .directory ∧
    ∀ target, node = .link target → h.isDirectory path = false

theorem countsAsDirectory_eq_false_iff {h : Host} {path : String} {node : Node} :
    h.countsAsDirectory path node = false ↔
      node ≠ .directory ∧ ∀ target, node = .link target → h.isDirectory path = false := by
  cases node <;> simp [countsAsDirectory]

/-- The names lead to a directory, or to a link to one. -/
def seemsDirectory (h : Host) (top : String) (place : Place) (names : List Name) : Bool :=
  match h.tree.get? (place ++ names) with
  | some node => h.countsAsDirectory (pathBelow top names) node
  | none => false

/-- The files in a directory and, one after another, those in its directories, by their names from
the top on. No more than so many directories are entered one in another. -/
def visit (h : Host) (list : Place → List Name) (enter : String → Bool) (top : String)
    (place : Place) :
    (depth : Nat) → (here : List Name) → List (List Name)
  | 0, _ => []
  | depth + 1, here =>
    let names := if canList top here then list (place ++ here) else []
    let files := names.filter fun name => !h.seemsDirectory top place (here ++ [name])
    let directories := names.filter fun name => h.seemsDirectory top place (here ++ [name])
    let entered := directories.filter fun name => enter name.val
    files.map (here ++ [·]) ++
      (entered.filter fun name => h.tree.isDirectory (place ++ here ++ [name])).flatMap fun name =>
        visit h list enter top place depth (here ++ [name])

section

variable {h : Host} {list : Place → List Name} {enter : String → Bool} {top : String}
  {place : Place}

theorem holdsFile_iff (hlist : h.tree.Lists list) {here : List Name} {name : Name} :
    h.HoldsFile (place ++ here ++ [name]) (pathBelow top (here ++ [name])) ↔
      name ∈ list (place ++ here) ∧ h.seemsDirectory top place (here ++ [name]) = false := by
  rw [hlist.mem_iff, HoldsFile, seemsDirectory, List.append_assoc]
  cases hget : h.tree.get? (place ++ (here ++ [name])) with
  | none => simp
  | some node => simp [countsAsDirectory_eq_false_iff]

theorem mem_visit_iff (hlist : h.tree.Lists list) {depth : Nat} {here names : List Name} :
    names ∈ h.visit list enter top place depth here ↔ ∃ way last, names = here ++ way ++ [last] ∧
      way.length < depth ∧ h.tree.isWay enter (place ++ here) way = true ∧
      canList top (here ++ way) = true ∧
      h.HoldsFile (place ++ here ++ way ++ [last]) (pathBelow top (here ++ way ++ [last])) := by
  induction depth generalizing here with
  | zero => simp [visit]
  | succ depth ih =>
    rw [visit]
    -- The first name of a way is entered here; what is left of it is the way from there on.
    simp only [List.mem_append, List.mem_map, List.mem_flatMap, List.mem_filter, ih]
    constructor
    · rintro (⟨last, ⟨hlast, hfile⟩, rfl⟩ |
        ⟨name, ⟨⟨⟨hname, -⟩, henter⟩, hdir⟩, way, last, rfl, hlength, hway, hshort, hfile⟩)
      · split at hlast
        · next hshort =>
          refine ⟨[], last, by simp, Nat.succ_pos _, rfl, by simpa using hshort, ?_⟩
          simp only [List.append_nil]
          exact (holdsFile_iff hlist).2 ⟨hlast, by simpa using hfile⟩
        · cases hlast
      · refine ⟨name :: way, last, by simp, by simpa using hlength, ?_, by simpa using hshort,
          by simpa using hfile⟩
        rw [FileTree.isWay, henter, hdir]
        simpa using hway
    · rintro ⟨way, last, rfl, hlength, hway, hshort, hfile⟩
      have hhere : canList top here = true := canList_mono (List.prefix_append here way) hshort
      simp only [hhere, if_true]
      cases way with
      | nil =>
        simp only [List.append_nil] at hfile ⊢
        obtain ⟨hlast, hfile⟩ := (holdsFile_iff hlist).1 hfile
        exact Or.inl ⟨last, ⟨hlast, by simpa using hfile⟩, rfl⟩
      | cons name way =>
        rw [FileTree.isWay, Bool.and_eq_true, Bool.and_eq_true] at hway
        obtain ⟨⟨henter, hdir⟩, hway⟩ := hway
        have hget := FileTree.isDirectory_iff.1 hdir
        refine Or.inr ⟨name, ⟨⟨⟨(hlist.mem_iff _ _).2 ⟨_, hget⟩, ?_⟩, henter⟩, hdir⟩, way, last,
          by simp, by simpa using hlength, by simpa using hway, by simpa using hshort,
          by simpa using hfile⟩
        rw [seemsDirectory, ← List.append_assoc, hget]
        rfl

theorem nodup_visit (hlist : h.tree.Lists list) (depth : Nat) (here : List Name) :
    (h.visit list enter top place depth here).Nodup := by
  induction depth generalizing here with
  | zero => exact List.nodup_nil
  | succ depth ih =>
    have hnames : (if canList top here then list (place ++ here) else []).Nodup := by
      split
      · exact hlist.nodup (place ++ here)
      · exact List.nodup_nil
    rw [visit, List.nodup_append']
    refine ⟨?_, ?_, ?_⟩
    · refine (hnames.filter _).map ?_
      intro a b hab
      simpa using hab
    · rw [List.nodup_flatMap]
      refine ⟨fun name _ => ih _, ?_⟩
      refine (((hnames.filter _).filter _).filter _).imp ?_
      intro a b hne found ha hb
      obtain ⟨way, last, rfl, -⟩ := (mem_visit_iff hlist).1 ha
      obtain ⟨way', last', heq, -⟩ := (mem_visit_iff hlist).1 hb
      obtain ⟨hab, -⟩ : a = b ∧ way ++ [last] = way' ++ [last'] := by simpa using heq
      exact hne hab
    · intro found hfile hdeep
      obtain ⟨name, -, rfl⟩ := List.mem_map.1 hfile
      obtain ⟨directory, -, hdeep⟩ := List.mem_flatMap.1 hdeep
      obtain ⟨way, last, heq, -⟩ := (mem_visit_iff hlist).1 hdeep
      simp at heq

end

end Host
end ReminderScan
