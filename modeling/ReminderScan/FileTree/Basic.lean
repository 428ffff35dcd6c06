import ReminderScan.Number.Binary64

/-! The files, directories and links of a machine, as a finite map from places to what stands there.
A place is the list of names from the root. Each place occurs once. -/

namespace ReminderScan

def nameLimit : Nat := 255

/-- A text that can name an entry of a directory. -/
def ValidName (s : String) : Prop :=
  s ≠ "" ∧ s ≠ "." ∧ s ≠ ".." ∧ '/' ∉ s.toList ∧ '\x00' ∉ s.toList ∧ s.utf8ByteSize ≤ nameLimit

instance (s : String) : Decidable (ValidName s) := by unfold ValidName; infer_instance

abbrev Name := { s : String // ValidName s }

abbrev Place := List Name

inductive Node where
  | directory
  | file (bytes : List UInt8) (modified : Number.Binary64)
  /-- A symbolic link, with the path it holds. -/
  | link (target : String)
deriving DecidableEq

/-- A tree of files. The root is a directory without an entry of its own. -/
structure FileTree where
  nodes : List (Place × Node)
  distinct : (nodes.map Prod.fst).Nodup

namespace FileTree

def empty : FileTree := ⟨[], by simp⟩

instance : Inhabited FileTree := ⟨empty⟩

def find? (p : Place) : List (Place × Node) → Option Node
  | [] => none
  | (q, n) :: rest => if q = p then some n else find? p rest

def get? (t : FileTree) (p : Place) : Option Node :=
  if p = [] then some .directory else find? p t.nodes

def isDirectory (t : FileTree) (p : Place) : Bool :=
  match t.get? p with
  | some .directory => true
  | _ => false

theorem nodup_map_filter {nodes : List (Place × Node)} (h : (nodes.map Prod.fst).Nodup)
    (q : Place × Node → Bool) : ((nodes.filter q).map Prod.fst).Nodup :=
  h.sublist (List.filter_sublist.map _)

def insert (t : FileTree) (p : Place) (n : Node) : FileTree where
  nodes := (p, n) :: t.nodes.filter fun e => e.1 ≠ p
  distinct := by
    simp only [List.map_cons, List.nodup_cons]
    refine ⟨?_, nodup_map_filter t.distinct _⟩
    intro h
    obtain ⟨e, he, heq⟩ := List.mem_map.1 h
    simp [heq] at he

def erase (t : FileTree) (p : Place) : FileTree where
  nodes := t.nodes.filter fun e => !p.isPrefixOf e.1
  distinct := nodup_map_filter t.distinct _

theorem find?_filter_of_keep {keep : Place × Node → Bool} {p : Place}
    (h : ∀ n, keep (p, n) = true) (nodes : List (Place × Node)) :
    find? p (nodes.filter keep) = find? p nodes := by
  induction nodes with
  | nil => rfl
  | cons e rest ih =>
    obtain ⟨q, n⟩ := e
    by_cases hq : q = p
    · subst hq; simp [find?, h]
    · by_cases hk : keep (q, n) = true <;> simp [find?, hk, hq, ih]

theorem find?_filter_of_drop {keep : Place × Node → Bool} {p : Place}
    (h : ∀ n, keep (p, n) = false) (nodes : List (Place × Node)) :
    find? p (nodes.filter keep) = none := by
  induction nodes with
  | nil => rfl
  | cons e rest ih =>
    obtain ⟨q, n⟩ := e
    by_cases hq : q = p
    · subst hq; simp [h, ih]
    · by_cases hk : keep (q, n) = true <;> simp [find?, hk, hq, ih]

theorem mem_of_find? {p : Place} {n : Node} {nodes : List (Place × Node)}
    (h : find? p nodes = some n) : (p, n) ∈ nodes := by
  induction nodes with
  | nil => simp [find?] at h
  | cons e rest ih =>
    obtain ⟨q, m⟩ := e
    by_cases hq : q = p
    · simp only [find?, hq, if_true, Option.some.injEq] at h
      subst hq h
      exact List.mem_cons_self
    · simp only [find?, hq, if_false] at h
      exact List.mem_cons_of_mem _ (ih h)

theorem find?_of_mem {p : Place} {n : Node} {nodes : List (Place × Node)}
    (distinct : (nodes.map Prod.fst).Nodup) (h : (p, n) ∈ nodes) : find? p nodes = some n := by
  induction nodes with
  | nil => simp at h
  | cons e rest ih =>
    obtain ⟨q, m⟩ := e
    rw [List.map_cons, List.nodup_cons] at distinct
    rcases List.mem_cons.1 h with h | h
    · cases h
      simp [find?]
    · have hq : q ≠ p := by
        intro hq
        subst hq
        exact distinct.1 (List.mem_map.2 ⟨(q, n), h, rfl⟩)
      simp only [find?, hq, if_false]
      exact ih distinct.2 h

/-- What stands at a place below the root is what the entries say. -/
theorem get?_eq_some_iff {t : FileTree} {p : Place} {n : Node} (hp : p ≠ []) :
    t.get? p = some n ↔ (p, n) ∈ t.nodes := by
  simp only [get?, hp, if_false]
  exact ⟨mem_of_find?, find?_of_mem t.distinct⟩

theorem get?_insert (t : FileTree) (p q : Place) (n : Node) (hq : q ≠ []) :
    (t.insert p n).get? q = if q = p then some n else t.get? q := by
  by_cases h : q = p
  · subst h; simp [get?, insert, find?, hq]
  · have h' : p ≠ q := fun e => h e.symm
    simp only [get?, hq, if_false, insert, find?, h', h]
    exact find?_filter_of_keep (fun _ => by simpa using h) _

/-- Nothing is left at an erased place and below it; all else stays. -/
theorem get?_erase (t : FileTree) (p q : Place) (hq : q ≠ []) :
    (t.erase p).get? q = if p.isPrefixOf q then none else t.get? q := by
  by_cases h : p.isPrefixOf q = true
  · simp only [get?, hq, if_false, erase, h, if_true]
    exact find?_filter_of_drop (fun _ => by simp [h]) _
  · have h' : p.isPrefixOf q = false := by simpa only [Bool.not_eq_true] using h
    simp only [get?, hq, if_false, erase, h']
    exact find?_filter_of_keep (fun _ => congrArg (!·) h') _

end FileTree
end ReminderScan
