import Mathlib.Data.List.Sort
import ReminderScan.Proofs.Workspace.Scan
import ReminderScan.Proofs.Workspace.Visit

/-! Which files a search looks into. They are said by their names alone, and they are those that a
search from the top down comes across, in whatever order it lists the directories. -/

namespace ReminderScan

open Text

/-- The name ends in a dot and one of the extensions, and something else than dots stands before it.
Capitals and small letters count the same. -/
def HasExtension (extensions : List String) (name : String) : Prop :=
  ∃ stem extension, name.toList = stem ++ '.' :: extension ∧ '.' ∉ extension ∧
    (∃ c ∈ stem, c ≠ '.') ∧ ∃ e ∈ extensions, lower e.toList = lower extension

theorem hasExtension_iff {extensions : List String} {name : String} :
    hasExtension extensions name = true ↔ HasExtension extensions name := by
  rw [hasExtension, HasExtension]
  constructor
  · intro h
    split at h
    · cases h
    · rename_i extension hextension
      obtain ⟨stem, hname, hlast, hstem⟩ := Path.extension?_eq_some_iff.1 hextension
      rw [List.contains_iff_mem, List.mem_map] at h
      exact ⟨stem, extension, hname, hlast, hstem, h⟩
  · rintro ⟨stem, extension, hname, hlast, hstem, h⟩
    rw [Path.extension?_eq_some_iff.2 ⟨stem, hname, hlast, hstem⟩]
    rw [List.contains_iff_mem, List.mem_map]
    exact h

/-- The names lead from a directory over directories, none of which is left out or has a path that
is too long, to a file with one of the extensions. -/
structure Host.IsEligible (h : Host) (extensions excluded : List String) (top : String)
    (place : Place) (way : List Name) (last : Name) : Prop where
  directories : ∀ before, before ≠ [] → before <+: way →
    h.tree.get? (place ++ before) = some .directory
  short : ∀ before, before <+: way → (directoryPath top before).utf8ByteSize < pathLimit
  entered : ∀ name ∈ way, name.val ∉ excluded
  file : h.HoldsFile (place ++ way ++ [last]) (pathBelow top (way ++ [last]))
  extension : HasExtension extensions last.val

section

variable {h : Host} {extensions excluded : List String} {top : String} {place : Place}
variable {way : List Name} {last : Name}

theorem Host.isEligible_iff : h.IsEligible extensions excluded top place way last ↔
    h.tree.isWay (fun name => !excluded.contains name) place way = true ∧ canList top way = true ∧
      h.HoldsFile (place ++ way ++ [last]) (pathBelow top (way ++ [last])) ∧
      hasExtension extensions last.val = true := by
  rw [FileTree.isWay_iff, hasExtension_iff]
  constructor
  · intro h
    exact ⟨⟨by simpa using h.entered, h.directories⟩, decide_eq_true (h.short way List.prefix_rfl),
      h.file, h.extension⟩
  · rintro ⟨⟨hentered, hdirectories⟩, hlist, hfile, hextension⟩
    exact ⟨hdirectories, fun _ hprefix => of_decide_eq_true (canList_mono hprefix hlist),
      by simpa using hentered, hfile, hextension⟩

theorem isCandidate_iff_of_last {node : Node} :
    isCandidate h extensions top (way ++ [last], node) = true ↔ canList top way = true ∧
      h.countsAsDirectory (pathBelow top (way ++ [last])) node = false ∧
      hasExtension extensions last.val = true := by
  simp [isCandidate, and_assoc]

theorem mem_eligible_iff {path : String} : path ∈ eligible h top extensions excluded place ↔
    ∃ way last, path = pathBelow top (way ++ [last]) ∧
      h.IsEligible extensions excluded top place way last := by
  simp only [Host.isEligible_iff, eligible, List.mem_map, List.mem_filter, FileTree.mem_below_iff]
  constructor
  · rintro ⟨⟨names, node⟩, ⟨⟨hne, hentry, hway⟩, hcandidate⟩, rfl⟩
    obtain rfl | ⟨way, last, rfl⟩ := List.eq_nil_or_concat' names
    · exact absurd rfl hne
    · obtain ⟨hlist, hfile, hextension⟩ := isCandidate_iff_of_last.1 hcandidate
      rw [List.dropLast_concat] at hway
      have hget := (FileTree.get?_eq_some_iff (by simp)).2 hentry
      rw [← List.append_assoc] at hget
      exact ⟨way, last, rfl, hway, hlist,
        ⟨node, hget, Host.countsAsDirectory_eq_false_iff.1 hfile⟩, hextension⟩
  · rintro ⟨way, last, rfl, hway, hlist, ⟨node, hget, hnode⟩, hextension⟩
    rw [List.append_assoc] at hget
    refine ⟨(way ++ [last], node), ⟨⟨by simp, ?_, ?_⟩, ?_⟩, rfl⟩
    · exact (FileTree.get?_eq_some_iff (by simp)).1 hget
    · rw [List.dropLast_concat]
      exact hway
    · exact isCandidate_iff_of_last.2
        ⟨hlist, Host.countsAsDirectory_eq_false_iff.2 hnode, hextension⟩

end

/-- The paths that a search from the top down comes across below a directory. -/
def visited (h : Host) (top : String) (extensions excluded : List String) (list : Place → List Name)
    (depth : Nat) (place : Place) : List String :=
  ((h.visit list (fun name => !excluded.contains name) top place depth []).filter fun names =>
    names.getLast?.any fun last => hasExtension extensions last.val).map (pathBelow top)

section

variable {h : Host} {root top : String} {extensions excluded files : List String} {place : Place}
variable {list : Place → List Name} {depth : Nat}

theorem mem_visited_iff (hlist : h.tree.Lists list)
    (hdepth : ∀ e ∈ h.tree.nodes, e.1.length ≤ depth)
    {path : String} : path ∈ visited h top extensions excluded list depth place ↔
      path ∈ eligible h top extensions excluded place := by
  simp only [mem_eligible_iff, Host.isEligible_iff, visited, List.mem_map, List.mem_filter,
    Host.mem_visit_iff hlist, List.append_nil, List.nil_append]
  constructor
  · rintro ⟨names, ⟨⟨way, last, rfl, -, hway, hshort, hfile⟩, hextension⟩, rfl⟩
    exact ⟨way, last, rfl, hway, hshort, hfile, by simpa using hextension⟩
  · rintro ⟨way, last, rfl, hway, hshort, hfile, hextension⟩
    refine ⟨_, ⟨⟨way, last, rfl, ?_, hway, hshort, hfile⟩, by simpa using hextension⟩, rfl⟩
    obtain ⟨node, hget, -⟩ := hfile
    have hlength := hdepth _ ((FileTree.get?_eq_some_iff (by simp)).1 hget)
    simp only [List.length_append, List.length_singleton] at hlength
    omega

theorem nodup_visited (hlist : h.tree.Lists list) :
    (visited h top extensions excluded list depth place).Nodup := by
  have hnodup : (h.visit list (fun name => !excluded.contains name) top place depth []).Nodup :=
    Host.nodup_visit hlist depth []
  apply (hnodup.filter _).map_on
  intro a ha b hb hab
  obtain ⟨way, last, rfl, -⟩ := (Host.mem_visit_iff hlist).1 (List.mem_filter.1 ha).1
  obtain ⟨way', last', rfl, -⟩ := (Host.mem_visit_iff hlist).1 (List.mem_filter.1 hb).1
  exact pathBelow_injective (by simp) (by simp) hab

theorem sortTexts_visited (hlist : h.tree.Lists list)
    (hdepth : ∀ e ∈ h.tree.nodes, e.1.length ≤ depth)
    (hc : candidates h root extensions excluded = .ok files)
    (hplace : h.locate true (h.absolute root) = .ok (.taken place .directory)) :
    Host.sortTexts (visited h (h.absolute root) extensions excluded list depth place) = files := by
  have hsearch := Host.searchRoot?_eq_some_iff.2 hplace
  refine (Host.sortTexts_increasing (nodup_visited hlist)).eq_of_mem_iff
    (candidates_increasing hc) ?_
  intro path
  rw [Host.mem_sortTexts, mem_visited_iff hlist hdepth, mem_candidates_iff hc, hsearch]
  simp

/-- The files that are listed below a path: all that are eligible and no others, once and in
order. -/
theorem candidates_exact (htop : h.absolute? root = .ok top) (hroot : '\x00' ∉ root.toList)
    (extensions excluded : List String) :
    ∃ files, candidates h root extensions excluded = .ok files ∧ files.Pairwise (· < ·) ∧
      (h.isDirectory top = false → files = []) ∧
      ∀ place, h.locate true top = .ok (.taken place .directory) →
        (∀ path, path ∈ files ↔ ∃ way last, path = pathBelow top (way ++ [last]) ∧
          h.IsEligible extensions excluded top place way last) ∧
        ∀ list depth, h.tree.Lists list → (∀ e ∈ h.tree.nodes, e.1.length ≤ depth) →
          files = Host.sortTexts (visited h top extensions excluded list depth place) := by
  have hnul := Host.nul_not_mem_of_absolute? htop hroot
  obtain ⟨-, rfl⟩ := Host.absolute?_eq_ok.1 htop
  obtain ⟨files, hc⟩ : ∃ files, candidates h root extensions excluded = .ok files :=
    exists_candidates hnul
  refine ⟨files, hc, candidates_increasing hc, fun hd => candidates_of_missing hd hc, ?_⟩
  intro place hplace
  have hsearch := Host.searchRoot?_eq_some_iff.2 hplace
  -- What is listed is known by its members, and by its order it is the same list for every search.
  constructor
  · intro path
    rw [mem_candidates_iff hc, hsearch, ← mem_eligible_iff]
    simp
  · intro list depth hlist hdepth
    exact (sortTexts_visited hlist hdepth hc hplace).symm

end

def outName : Name := ⟨"out", by decide⟩

def subName : Name := ⟨"sub", by decide⟩

def besideName : Name := ⟨"sub-1", by decide⟩

/-- A tree with links of three kinds, directories of one excluded name at two depths, and names that
start or end with a dot. -/
def linkTree : FileTree where
  nodes := [([subName], .directory), ([besideName], .directory), ([outName], .directory),
    ([subName, outName], .directory), ([subName, outName, Service.noteName],
      .file [] (.zero false)),
    ([outName, Service.noteName], .file [] (.zero false)),
    ([subName, ⟨"a.tar.PY", by decide⟩], .file [] (.zero false)),
    ([besideName, Service.noteName], .link "../out/a.py"),
    ([subName, ⟨"gone.py", by decide⟩], .link "nowhere"),
    ([⟨"linked.py", by decide⟩], .link "out"),
    ([subName, ⟨"..py", by decide⟩], .file [] (.zero false)),
    ([subName, ⟨"a.", by decide⟩], .file [] (.zero false))]
  distinct := by decide

def linkHost : Host := { Service.mixedHost with tree := linkTree }

/-- The order is that of whole paths: a longer name goes before what is in the directory. -/
theorem candidates_exact_linkHost :
    linkHost.absolute? "/" = .ok "/" ∧ '\x00' ∉ "/".toList ∧
    linkHost.locate true "/" = .ok (.taken [] .directory) ∧
    linkTree.Lists linkTree.namesIn ∧ (∀ e ∈ linkTree.nodes, e.1.length ≤ 3) ∧
    candidates linkHost "/" ["Py"] ["out"] =
      .ok ["/sub-1/a.py", "/sub/a.tar.PY", "/sub/gone.py"] ∧
    ∃ way last, "/sub/gone.py" = pathBelow "/" (way ++ [last]) ∧
      linkHost.IsEligible ["Py"] ["out"] "/" [] way last := by
  have htop : linkHost.absolute? "/" = .ok "/" := by
    rw [Host.absolute?_eq_ok]
    decide +kernel
  have hroot : '\x00' ∉ "/".toList := by decide
  have hplace : linkHost.locate true "/" = .ok (.taken [] .directory) :=
    Host.searchRoot?_eq_some_iff.1 (by decide +kernel)
  have hlist := linkTree.lists_namesIn
  have hdepth : ∀ e ∈ linkTree.nodes, e.1.length ≤ 3 := by decide
  have hvisited : visited linkHost "/" ["Py"] ["out"] linkTree.namesIn 3 [] =
      ["/sub/a.tar.PY", "/sub/gone.py", "/sub-1/a.py"] := by decide +kernel
  obtain ⟨files, hc, hsorted, -, hfiles⟩ := candidates_exact htop hroot ["Py"] ["out"]
  obtain ⟨hmem, hfound⟩ := hfiles [] hplace
  have hsame := hfound _ 3 hlist hdepth
  rw [hvisited] at hsame
  have hexpected : files = ["/sub-1/a.py", "/sub/a.tar.PY", "/sub/gone.py"] := by
    apply hsorted.eq_of_mem_iff (by decide +kernel)
    intro path
    rw [hsame, Host.mem_sortTexts]
    exact List.Perm.mem_iff (by decide +kernel)
  refine ⟨htop, hroot, hplace, hlist, hdepth, hexpected ▸ hc, (hmem _).1 ?_⟩
  rw [hexpected]
  decide

def longText : String := String.ofList (List.replicate 250 'a')

theorem validName_longText : ValidName longText := by
  have hall : ∀ c ∈ longText.toList, c = 'a' := by
    intro c hc
    have htext : longText.toList = List.replicate 250 'a' := String.toList_ofList
    exact List.eq_of_mem_replicate (htext ▸ hc)
  refine ⟨by decide +kernel, by decide +kernel, by decide +kernel, ?_, ?_, by decide +kernel⟩
  · exact fun hc => absurd (hall _ hc) (by decide)
  · exact fun hc => absurd (hall _ hc) (by decide)

/-- A name of which seventeen one after another are more than a path may hold. -/
def longName : Name := ⟨longText, validName_longText⟩

def deepWay : List Name := List.replicate 17 longName

/-- A tree with one document, so far down that the path of its directory is too long. -/
def deepTree : FileTree where
  nodes := (deepWay ++ [Service.noteName], .file [] (.zero false)) ::
    (List.range 17).map fun n => (deepWay.take (n + 1), .directory)
  distinct := .of_map List.length (by decide)

def deepHost : Host := { Service.mixedHost with tree := deepTree }

theorem pathLimit_le_deepWay : pathLimit ≤ (directoryPath "/" deepWay).utf8ByteSize := by
  have hsize : ∀ name ∈ deepWay, 250 ≤ name.val.utf8ByteSize := by
    intro name hname
    rw [List.eq_of_mem_replicate hname]
    decide +kernel
  have hjoined := FileTree.le_utf8ByteSize_joined hsize
  obtain ⟨slash, hslash⟩ := exists_pathBelow "/"
  rw [directoryPath_of_ne_nil (by decide), hslash, pathLimit]
  simp only [deepWay, List.length_replicate, String.utf8ByteSize_append] at hjoined ⊢
  omega

/-- A document that stands below directories only, none of which is left out, and that is not found:
there is no path to say what is in its directory. -/
theorem candidates_deepHost :
    (∀ before, before ≠ [] → before <+: deepWay → deepTree.get? before = some .directory) ∧
    (∀ name ∈ deepWay, name.val ∉ ["out"]) ∧
    deepTree.get? (deepWay ++ [Service.noteName]) = some (.file [] (.zero false)) ∧
    HasExtension ["py"] Service.noteName.val ∧ deepHost.absolute? "/" = .ok "/" ∧
    deepHost.isDirectory "/" = true ∧ candidates deepHost "/" ["py"] ["out"] = .ok [] := by
  have hnodes : ∀ {place node}, (place, node) ∈ deepTree.nodes ↔
      place = deepWay ++ [Service.noteName] ∧ node = .file [] (.zero false) ∨
        ∃ n < 17, place = deepWay.take (n + 1) ∧ node = .directory := by
    simp [deepTree, eq_comm]
  refine ⟨?directories, ?entered, ?file, ?extension, ?absolute, ?top, ?none⟩
  case directories =>
    rintro before hne hprefix
    obtain ⟨n, hn⟩ : ∃ n, before.length = n + 1 :=
      Nat.exists_eq_succ_of_ne_zero (by simpa using hne)
    have hlength := hprefix.length_le
    rw [deepWay, List.length_replicate] at hlength
    rw [FileTree.get?_eq_some_iff hne, hnodes]
    refine Or.inr ⟨n, by omega, ?_, rfl⟩
    rw [← hn]
    exact List.prefix_iff_eq_take.1 hprefix
  case entered =>
    intro name hname
    rw [List.eq_of_mem_replicate hname]
    decide +kernel
  case file => exact (FileTree.get?_eq_some_iff (by simp)).2 (hnodes.2 (Or.inl ⟨rfl, rfl⟩))
  case extension => exact hasExtension_iff.1 (by decide +kernel)
  case absolute => exact Host.absolute?_eq_ok.2 (by decide +kernel)
  case top => decide +kernel
  case none =>
    have htop : deepHost.absolute "/" = "/" := by decide +kernel
    have hsearch : deepHost.searchRoot? "/" = .ok (some []) := by decide +kernel
    obtain ⟨files, hc⟩ : ∃ files, candidates deepHost "/" ["py"] ["out"] = .ok files :=
      exists_candidates (by rw [htop]; decide)
    obtain rfl : files = [] := by
      apply List.eq_nil_iff_forall_not_mem.2
      intro path hpath
      obtain ⟨place, hplace, hmem⟩ := (mem_candidates_iff hc).1 hpath
      rw [htop] at hplace hmem
      obtain rfl : place = [] := by simpa [hsearch, eq_comm] using hplace
      obtain ⟨way, last, -, heligible⟩ := mem_eligible_iff.1 hmem
      obtain ⟨node, hget, hnode, -⟩ := heligible.file
      rcases hnodes.1 ((FileTree.get?_eq_some_iff (by simp)).1 hget) with
        ⟨hfile, -⟩ | ⟨_, _, _, rfl⟩
      · obtain ⟨rfl, -⟩ := List.append_inj' hfile rfl
        exact absurd (heligible.short deepWay List.prefix_rfl) (Nat.not_lt.2 pathLimit_le_deepWay)
      · exact absurd rfl hnode
    exact hc

end ReminderScan
