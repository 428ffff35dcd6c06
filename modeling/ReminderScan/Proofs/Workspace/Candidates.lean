import ReminderScan.Proofs.Path
import ReminderScan.Workspace.Candidates

/-! The files that a search looks into: each is listed once, in strictly increasing order of paths,
and each path names its file from wherever the program stands. -/

namespace ReminderScan

namespace Host

theorem mem_sortTexts {texts : List String} {s : String} : s ∈ sortTexts texts ↔ s ∈ texts :=
  List.mem_mergeSort

/-- Texts that all differ are sorted without repetition. -/
theorem sortTexts_increasing {texts : List String} (h : texts.Nodup) :
    (sortTexts texts).Pairwise (· < ·) := by
  have hsorted : (sortTexts texts).Pairwise fun a b => decide (a ≤ b) = true := by
    refine List.pairwise_mergeSort ?_ ?_ texts
    · intro a b c hab hbc
      exact decide_eq_true (String.le_trans (of_decide_eq_true hab) (of_decide_eq_true hbc))
    · intro a b
      simpa using String.le_total a b
  have hdistinct : (sortTexts texts).Nodup := (List.mergeSort_perm texts _).nodup_iff.2 h
  refine (hsorted.and hdistinct).imp ?_
  rintro a b ⟨hle, hne⟩
  exact String.not_le.1 fun hba => hne (String.le_antisymm (of_decide_eq_true hle) hba)

theorem locate_ne_nullByte {h : Host} {path : String} (hnul : '\x00' ∉ path.toList)
    (follow : Bool) :
    h.locate follow path ≠ .error .nullByte := by
  simp only [locate, hnul, if_false]
  split
  · simp
  · split
    · simp
    · split <;> simp

/-- Only a NUL keeps a directory from being searched, or found missing. -/
theorem searchRoot?_ne_error {h : Host} {path : String} (hnul : '\x00' ∉ path.toList) (f : Fault) :
    h.searchRoot? path ≠ .error f := by
  have hl := locate_ne_nullByte (h := h) hnul true
  unfold searchRoot?
  split <;> simp_all

theorem searchRoot?_eq_some_iff {h : Host} {path : String} {place : Place} :
    h.searchRoot? path = .ok (some place) ↔ h.locate true path = .ok (.taken place .directory) := by
  rw [searchRoot?]
  split
  · rename_i hl
    simp [hl]
  · rename_i found hl
    simp [hl]
  · rename_i hother
    apply iff_of_false
    · simp
    · exact hother place

end Host

namespace FileTree

theorem joined_eq_intercalate (names : List Name) :
    joined names = List.intercalate ['/'] (names.map (·.val.toList)) := rfl

theorem plain_of_mem_map {names : List Name} :
    ∀ n ∈ names.map (·.val.toList), Path.Plain n := by
  intro n hn
  obtain ⟨name, -, rfl⟩ := List.mem_map.1 hn
  exact plain_of_name name

theorem joined_append {before more : List Name} (hbefore : before ≠ []) (hmore : more ≠ []) :
    joined (before ++ more) = joined before ++ '/' :: joined more := by
  simp only [joined_eq_intercalate, List.map_append]
  exact Path.intercalate_append (mt List.map_eq_nil_iff.1 hbefore) (mt List.map_eq_nil_iff.1 hmore)

theorem le_utf8ByteSize_joined {size : Nat} {names : List Name}
    (hnames : ∀ name ∈ names, size ≤ name.val.utf8ByteSize) :
    names.length * size ≤ (String.ofList (joined names)).utf8ByteSize := by
  induction names with
  | nil => simp
  | cons name rest ih =>
    obtain ⟨hname, hrest⟩ := List.forall_mem_cons.1 hnames
    by_cases hnil : rest = []
    · simpa [hnil, joined] using hname
    · have hjoined : joined (name :: rest) = name.val.toList ++ '/' :: joined rest := by
        rw [← List.singleton_append, joined_append (List.cons_ne_nil _ _) hnil]
        simp [joined]
      rw [hjoined, String.ofList_append, String.ofList_toList, String.utf8ByteSize_append,
        String.ofList_cons, String.utf8ByteSize_append, List.length_cons, Nat.succ_mul]
      have := ih hrest
      omega

theorem joined_injective {first second : List Name} (h : first ≠ []) (h' : second ≠ [])
    (heq : joined first = joined second) : first = second := by
  have hsplit := congrArg (List.splitOn '/') heq
  simp only [joined_eq_intercalate, Path.splitOn_intercalate_of_plain plain_of_mem_map,
    List.map_eq_nil_iff, h, h', if_false] at hsplit
  refine (List.map_inj_right ?_).1 hsplit
  intro a b hab
  exact Subtype.ext (String.toList_inj.1 hab)

theorem head?_joined (names : List Name) : (joined names).head? ≠ some '/' := by
  rw [joined_eq_intercalate]
  exact Path.head?_intercalate_ne_slash plain_of_mem_map

theorem nul_not_mem_joined (names : List Name) : '\x00' ∉ joined names := by
  rw [joined_eq_intercalate, Path.mem_intercalate_iff (by decide)]
  rintro ⟨n, hn, hc⟩
  obtain ⟨name, -, rfl⟩ := List.mem_map.1 hn
  exact name.property.2.2.2.2.1 hc

theorem entryBelow?_eq_some_iff {t : FileTree} {enter : String → Bool} {root : Place}
    {entry : Place × Node} {e : List Name × Node} : t.entryBelow? enter root entry = some e ↔
      e.1 ≠ [] ∧ entry = (root ++ e.1, e.2) ∧ t.isWay enter root e.1.dropLast = true := by
  obtain ⟨place, node⟩ := entry
  obtain ⟨names, below⟩ := e
  simp only [entryBelow?, Prod.mk.injEq]
  constructor
  · intro h
    split at h
    · cases h
    · cases h
    · next hrelative =>
      split at h
      · next hway =>
        obtain ⟨rfl, rfl⟩ := Prod.mk.inj (Option.some.inj h)
        exact ⟨List.cons_ne_nil _ _, ⟨relative?_eq_some_iff.1 hrelative, rfl⟩, hway⟩
      · cases h
  · rintro ⟨hne, ⟨hplace, rfl⟩, hway⟩
    obtain ⟨name, rest, rfl⟩ := List.exists_cons_of_ne_nil hne
    rw [relative?_eq_some_iff.2 hplace]
    exact if_pos hway

theorem mem_below_iff {t : FileTree} {enter : String → Bool} {root : Place} {e : List Name × Node} :
    e ∈ t.below enter root ↔
      e.1 ≠ [] ∧ (root ++ e.1, e.2) ∈ t.nodes ∧ t.isWay enter root e.1.dropLast = true := by
  simp only [below, List.mem_filterMap, entryBelow?_eq_some_iff]
  constructor
  · rintro ⟨entry, hentry, hne, rfl, hway⟩
    exact ⟨hne, hentry, hway⟩
  · rintro ⟨hne, hentry, hway⟩
    exact ⟨_, hentry, hne, rfl, hway⟩

theorem isWay_congr (t : FileTree) {enter enter' : String → Bool}
    (hsame : ∀ name : Name, enter name.val = enter' name.val) (here : Place) (names : List Name) :
    t.isWay enter here names = t.isWay enter' here names := by
  induction names generalizing here with
  | nil => rfl
  | cons name rest ih => rw [isWay, isWay, hsame, ih]

theorem below_congr (t : FileTree) {enter enter' : String → Bool}
    (hsame : ∀ name : Name, enter name.val = enter' name.val) (root : Place) :
    t.below enter root = t.below enter' root := by
  have hentry : t.entryBelow? enter root = t.entryBelow? enter' root := by
    funext entry
    apply Option.ext
    intro e
    rw [entryBelow?_eq_some_iff, entryBelow?_eq_some_iff, t.isWay_congr hsame]
  rw [below, hentry, below]

/-- The names below a place tell its entries apart. -/
theorem below_distinct (t : FileTree) (enter : String → Bool) (root : Place) :
    (t.below enter root).Pairwise fun a b => a.1 ≠ b.1 := by
  have hplaces : t.nodes.Pairwise fun a b => a.1 ≠ b.1 := List.pairwise_map.1 t.distinct
  refine hplaces.filterMap _ ?_
  intro p q hne a ha b hb hab
  obtain ⟨-, rfl, -⟩ := entryBelow?_eq_some_iff.1 ha
  obtain ⟨-, rfl, -⟩ := entryBelow?_eq_some_iff.1 hb
  exact hne (congrArg (root ++ ·) hab)

theorem ne_nil_of_mem_below {t : FileTree} {enter : String → Bool} {root : Place}
    {e : List Name × Node} (h : e ∈ t.below enter root) : e.1 ≠ [] := (mem_below_iff.1 h).1

end FileTree

theorem pathBelow_injective {top : String} {first second : List Name} (h : first ≠ [])
    (h' : second ≠ []) (heq : pathBelow top first = pathBelow top second) : first = second := by
  have hjoin := String.ofList_injective heq
  simp only [Path.join, FileTree.head?_joined, if_false] at hjoin
  refine FileTree.joined_injective h h' ?_
  split at hjoin
  · exact List.append_cancel_left hjoin
  · exact (List.cons.inj (List.append_cancel_left hjoin)).2

theorem settled_pathBelow {top : String} (h : Path.Settled top.toList) {names : List Name}
    (hne : names ≠ []) : Path.Settled (pathBelow top names).toList := by
  rw [pathBelow, String.toList_ofList]
  exact Path.settled_join h FileTree.plain_of_mem_map (mt List.map_eq_nil_iff.1 hne)

theorem nul_not_mem_pathBelow {top : String} (h : '\x00' ∉ top.toList) (names : List Name) :
    '\x00' ∉ (pathBelow top names).toList := by
  have hjoined := FileTree.nul_not_mem_joined names
  rw [pathBelow, String.toList_ofList]
  unfold Path.join
  split
  · exact hjoined
  · split <;> simp [h, hjoined]

/-- What comes between a directory and the names below it depends on the directory alone. -/
theorem exists_pathBelow (top : String) : ∃ slash, ∀ names,
    pathBelow top names = top ++ slash ++ String.ofList (FileTree.joined names) := by
  by_cases hslash : (top.toList.isEmpty || top.toList.getLast? = some '/') = true
  · refine ⟨"", fun names => ?_⟩
    rw [pathBelow, Path.join, if_neg (FileTree.head?_joined names), if_pos hslash,
      String.ofList_append, String.ofList_toList, String.append_empty]
  · refine ⟨"/", fun names => ?_⟩
    rw [pathBelow, Path.join, if_neg (FileTree.head?_joined names), if_neg hslash, List.append_cons,
      String.ofList_append, String.ofList_append, String.ofList_toList]

theorem directoryPath_of_ne_nil {top : String} {way : List Name} (h : way ≠ []) :
    directoryPath top way = pathBelow top way := by
  cases way with
  | nil => exact absurd rfl h
  | cons name rest => rfl

/-- On the way to a directory that can be listed all directories can be. -/
theorem canList_mono {top : String} {before way : List Name} (hway : before <+: way)
    (hlist : canList top way = true) : canList top before = true := by
  obtain ⟨more, rfl⟩ := hway
  rw [canList, decide_eq_true_iff] at hlist ⊢
  refine lt_of_le_of_lt ?_ hlist
  -- The path of the directory before is the start of the path of the one that is come to.
  obtain ⟨slash, hslash⟩ := exists_pathBelow top
  by_cases hmore : more = []
  · rw [hmore, List.append_nil]
  rw [directoryPath_of_ne_nil (List.append_ne_nil_of_right_ne_nil before hmore), hslash]
  by_cases hbefore : before = []
  · simp only [hbefore, directoryPath, String.utf8ByteSize_append]
    omega
  · rw [directoryPath_of_ne_nil hbefore, hslash, FileTree.joined_append hbefore hmore]
    simp only [String.ofList_append, String.utf8ByteSize_append]
    omega

/-- What is listed below a directory, before it is sorted. -/
def eligible (h : Host) (top : String) (extensions excluded : List String) (place : Place) :
    List String :=
  ((h.tree.below (fun name => !excluded.contains name) place).filter
    (isCandidate h extensions top)).map fun e => pathBelow top e.1

section Listed
variable {h : Host} {root : String} {extensions excluded files : List String}

theorem candidates_eq : candidates h root extensions excluded =
    match h.searchRoot? (h.absolute root) with
    | .error f => .error f
    | .ok none => .ok []
    | .ok (some place) =>
      .ok (Host.sortTexts (eligible h (h.absolute root) extensions excluded place)) := by
  simp only [candidates, eligible]
  cases h.searchRoot? (h.absolute root) with
  | error f => rfl
  | ok found => cases found <;> rfl

/-- Only what is left out of names that an entry can have makes a difference. -/
theorem candidates_congr (h : Host) (root : String) (extensions : List String)
    {excluded others : List String}
    (hsame : ∀ name : Name, name.val ∈ excluded ↔ name.val ∈ others) :
    candidates h root extensions excluded = candidates h root extensions others := by
  have hbelow : ∀ place, h.tree.below (fun name => !excluded.contains name) place =
      h.tree.below (fun name => !others.contains name) place := by
    intro place
    apply FileTree.below_congr
    intro name
    rw [Bool.eq_iff_iff]
    simp [hsame name]
  simp only [candidates_eq, eligible, hbelow]

theorem exists_candidates (hnul : '\x00' ∉ (h.absolute root).toList) :
    ∃ files, candidates h root extensions excluded = .ok files := by
  rw [candidates_eq]
  split
  · next f hs => exact absurd hs (Host.searchRoot?_ne_error hnul f)
  · exact ⟨[], rfl⟩
  · exact ⟨_, rfl⟩

theorem nul_not_mem_absoluteUser (hr : h.IsRooted)
    (hd : h.isDirectory (h.absoluteUser root) = true) :
    '\x00' ∉ (h.absolute (h.absoluteUser root)).toList := by
  rw [Host.absolute_absoluteUser hr]
  exact Host.nul_not_mem_of_isDirectory hd

/-- Where there is no directory, nothing is listed. -/
theorem candidates_of_missing (hd : h.isDirectory (h.absolute root) = false)
    (hc : candidates h root extensions excluded = .ok files) : files = [] := by
  rw [candidates_eq] at hc
  split at hc
  · simp at hc
  · simp_all
  · next place hs =>
    unfold Host.searchRoot? at hs
    unfold Host.isDirectory at hd
    split at hs <;> simp_all

theorem mem_candidates_iff (hc : candidates h root extensions excluded = .ok files)
    {path : String} :
    path ∈ files ↔ ∃ place, h.searchRoot? (h.absolute root) = .ok (some place) ∧
      path ∈ eligible h (h.absolute root) extensions excluded place := by
  rw [candidates_eq] at hc
  split at hc
  · simp at hc
  · next hs =>
    obtain rfl := Except.ok.inj hc
    simp [hs]
  · next place hs =>
    obtain rfl := Except.ok.inj hc
    simp [hs, Host.mem_sortTexts]

theorem mem_candidates (hc : candidates h root extensions excluded = .ok files) {path : String}
    (hp : path ∈ files) : ∃ names, names ≠ [] ∧ path = pathBelow (h.absolute root) names := by
  obtain ⟨place, -, hmem⟩ := (mem_candidates_iff hc).1 hp
  obtain ⟨e, he, rfl⟩ := List.mem_map.1 hmem
  exact ⟨e.1, FileTree.ne_nil_of_mem_below (List.mem_filter.1 he).1, rfl⟩

theorem candidates_increasing (hc : candidates h root extensions excluded = .ok files) :
    files.Pairwise (· < ·) := by
  rw [candidates_eq] at hc
  split at hc
  · simp at hc
  · obtain rfl := Except.ok.inj hc
    exact .nil
  · obtain rfl := Except.ok.inj hc
    refine Host.sortTexts_increasing (List.pairwise_map.2 ?_)
    refine ((FileTree.below_distinct _ _ _).filter _).imp_of_mem ?_
    intro a b ha hb hne heq
    exact hne (pathBelow_injective (FileTree.ne_nil_of_mem_below (List.mem_filter.1 ha).1)
      (FileTree.ne_nil_of_mem_below (List.mem_filter.1 hb).1) heq)

theorem settled_of_mem_candidates (hr : h.IsRooted)
    (hc : candidates h root extensions excluded = .ok files) {path : String} (hp : path ∈ files) :
    Path.Settled path.toList := by
  obtain ⟨names, hne, rfl⟩ := mem_candidates hc hp
  exact settled_pathBelow (Host.settled_absolute hr root) hne

/-- A listed path is absolute as it stands. -/
theorem absolute_of_mem_candidates (hr : h.IsRooted)
    (hc : candidates h root extensions excluded = .ok files) {path : String} (hp : path ∈ files)
    (other : Host) : other.absolute path = path :=
  Host.absolute_of_settled (settled_of_mem_candidates hr hc hp)

theorem nul_not_mem_candidate (hnul : '\x00' ∉ (h.absolute root).toList)
    (hc : candidates h root extensions excluded = .ok files) {path : String} (hp : path ∈ files) :
    '\x00' ∉ path.toList := by
  obtain ⟨names, -, rfl⟩ := mem_candidates hc hp
  exact nul_not_mem_pathBelow hnul names

end Listed
end ReminderScan
