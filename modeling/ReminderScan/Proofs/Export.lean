import ReminderScan.Export
import ReminderScan.Proofs.Host.Edit
import ReminderScan.Proofs.Json.Output
import ReminderScan.Proofs.Path

/-! An export changes nothing but its target. The temporary file is a new one, and it is gone in the
end, also where the export fails, unless a fault ended what was to be written to it. -/

namespace ReminderScan

section

variable {P : Json.Value → Prop}

theorem Reminder.of_inherited (hP : Json.Inherited P) (hint : ∀ n, P (.int n)) (r : Reminder) :
    P r.toJson := by
  apply hP.object (by simp)
  simp only [List.forall_mem_cons, List.not_mem_nil, false_implies, implies_true, and_true]
  refine ⟨hP.text _, hint _, hP.text _, ?_, hP.text _, hP.text _⟩
  cases r.scheduled with
  | none => exact hP.null
  | some t => exact hP.text _

/-- An export has what a value has that is put together of texts and whole numbers, with distinct
names. -/
theorem exportJson_of_inherited (hP : Json.Inherited P) (hint : ∀ n, P (.int n)) (store : Store) :
    P (exportJson store) := by
  apply hP.object (by simp)
  simp only [List.forall_mem_cons, List.not_mem_nil, false_implies, implies_true, and_true]
  refine ⟨?_, ?_⟩
  · apply hP.list
    intro item hitem
    obtain ⟨r, -, rfl⟩ := List.mem_map.1 hitem
    exact r.of_inherited hP hint
  · apply hP.object (by simp)
    simp only [List.forall_mem_cons, List.not_mem_nil, false_implies, implies_true, and_true]
    exact ⟨hint _, hint _⟩

end

theorem isPlain_exportJson (store : Store) : Json.IsPlain (exportJson store) :=
  exportJson_of_inherited Json.inherited_isPlain .int store

namespace Export

variable {h h' : Host} {path : String}

theorem toList_temporaryName (n : Nat) : (temporaryName n).toList =
    ".tmp_".toList ++ Number.padded 8 n ++ ".json".toList :=
  String.toList_ofList

theorem temporaryName_injective {n m : Nat} (hname : temporaryName n = temporaryName m) :
    n = m := by
  have hlist := congrArg String.toList hname
  rw [toList_temporaryName, toList_temporaryName] at hlist
  exact Number.padded_injective (List.append_cancel_left (List.append_cancel_right hlist))

theorem not_mem_temporaryName {c : Char} (n : Nat) (hfront : c ∉ ".tmp_".toList)
    (hback : c ∉ ".json".toList) (hdigit : Text.isAsciiDigit c = false) :
    c ∉ (temporaryName n).toList := by
  intro hc
  rw [toList_temporaryName, List.mem_append, List.mem_append] at hc
  rcases hc with (hc | hc) | hc
  · exact hfront hc
  · rw [Number.isAsciiDigit_of_mem_padded hc] at hdigit
    cases hdigit
  · exact hback hc

theorem ne_of_length_lt {n : Nat} {s : String} (hs : s.toList.length < 3) :
    temporaryName n ≠ s := by
  rintro rfl
  have hlong : 3 ≤ ".tmp_".toList.length := by decide
  rw [toList_temporaryName, List.length_append, List.length_append] at hs
  omega

def temporaryPath (h : Host) (directory : String) (n : Nat) : String :=
  String.ofList (Path.join (h.absolute directory).toList (temporaryName n).toList)

theorem leadsToName_temporaryPath (h : Host) (directory : String) (n : Nat) :
    h.LeadsToName (temporaryPath h directory n) (temporaryName n) := by
  refine Host.leadsToName_of_endsIn ?_ (ne_of_length_lt (by decide)) (ne_of_length_lt (by decide))
    (ne_of_length_lt (by decide)) (not_mem_temporaryName n (by decide) (by decide) (by decide))
  rw [temporaryPath, String.toList_ofList]
  exact Path.EndsIn.join (Or.inl rfl) _

/-- Each number whose path is taken stands in the name of an entry of its own, and one more may
stand in the name to be avoided. -/
theorem exists_temporaryPath_not_taken (h : Host) (directory avoided : String) :
    ∃ n ∈ List.range (h.tree.nodes.length + 2), temporaryName n ≠ avoided ∧ ∀ place node,
      h.locate false (temporaryPath h directory n) ≠ .ok (.taken place node) := by
  by_contra hall
  have hlast : ∀ n ∈ List.range (h.tree.nodes.length + 2), temporaryName n ∈
      avoided :: h.tree.nodes.filterMap fun e => e.1.getLast?.map (·.val) := by
    intro n hn
    by_cases havoided : temporaryName n = avoided
    · exact List.mem_cons.2 (Or.inl havoided)
    · obtain ⟨place, node, hl⟩ : ∃ place node,
          h.locate false (temporaryPath h directory n) = .ok (.taken place node) := by
        by_contra hnone
        refine hall ⟨n, hn, havoided, ?_⟩
        intro place node hl
        exact hnone ⟨place, node, hl⟩
      obtain ⟨dir, name, hplace, hname⟩ := leadsToName_temporaryPath h directory n h.tree _ hl
      obtain rfl : place = dir ++ [name] := hplace
      have hget : h.tree.get? (dir ++ [name]) = some node := Host.holds_of_locate hl
      have hmem := (FileTree.get?_eq_some_iff (by simp)).1 hget
      refine List.mem_cons_of_mem _ (List.mem_filterMap.2 ⟨_, hmem, ?_⟩)
      rw [List.getLast?_concat, Option.map_some, hname]
  have hnodup : ((List.range (h.tree.nodes.length + 2)).map temporaryName).Nodup :=
    List.Pairwise.map _ (fun _ _ hne hname => hne (temporaryName_injective hname)) List.nodup_range
  have hlength := hnodup.length_le_of_subset fun name hname => by
    obtain ⟨n, hn, rfl⟩ := List.mem_map.1 hname
    exact hlast n hn
  have hfewer := List.length_filterMap_le (fun e : Place × Node => e.1.getLast?.map (·.val))
    h.tree.nodes
  rw [List.length_map, List.length_range, List.length_cons] at hlength
  omega

theorem freePath_spec (h : Host) (directory avoided : String) : ∃ n, temporaryName n ≠ avoided ∧
    h.LeadsToName (freePath h directory avoided) (temporaryName n) ∧
    ∀ place node, h.locate false (freePath h directory avoided) ≠ .ok (.taken place node) := by
  rw [freePath]
  dsimp only
  generalize hfind : List.find? _ (List.range (h.tree.nodes.length + 2)) = found
  cases found with
  | some n =>
    have hfree := List.find?_some hfind
    rw [Bool.and_eq_true, decide_eq_true_eq] at hfree
    refine ⟨n, hfree.1, leadsToName_temporaryPath h directory n, ?_⟩
    intro place node hl
    change h.locate false (temporaryPath h directory n) = _ at hl
    rw [temporaryPath] at hl
    simp only [hl] at hfree
    cases hfree.2
  | none =>
    obtain ⟨n, hn, havoided, hnot⟩ := exists_temporaryPath_not_taken h directory avoided
    refine absurd ?_ (List.find?_eq_none.1 hfind n hn)
    rw [Bool.and_eq_true, decide_eq_true_eq]
    refine ⟨havoided, ?_⟩
    split
    · rename_i place' node' hl
      exact absurd hl (hnot place' node')
    · rfl

/-- A machine with a temporary file that was not there before. -/
structure Holding (h : Host) (path : String) (bytes : List UInt8) (place : Place)
    (tree : FileTree) :
    Prop where
  free : ∃ dir name, place = dir ++ [name] ∧ h.locate false path = .ok (.free dir name false)
  filed : h.tree.Filed place tree
  taken : ∀ follow, Host.locate { h with tree } follow path =
    .ok (.taken place (.file bytes h.stampTime))

/-- A temporary file that can be opened can be written. -/
theorem exists_holding {opened : Host} (hopened : h.writeFile path [] = .ok opened)
    (hnot : ∀ place node, h.locate false path ≠ .ok (.taken place node)) (bytes : List UInt8) :
    ∃ place tree, Holding h path bytes place tree ∧
      opened.writeFile path bytes = .ok { h with tree } := by
  obtain ⟨spot, hl, hslash, hdir, hlink, rfl⟩ := Host.writeFile_eq_ok hopened
  obtain ⟨spot, hl', rfl | ⟨place, target, rfl⟩⟩ := Host.locate_false_of_true hl
  · cases spot with
    | taken place node => exact absurd hl' (hnot place node)
    | free dir name slash =>
      cases slash with
      | true => exact absurd rfl (hslash dir name)
      | false =>
        have hroot : dir ++ [name] ≠ [] := by simp
        have hempty := FileTree.Filed.insert hdir [] h.stampTime
        have hfull := hempty.insert_again bytes h.stampTime
        have hagain := Host.locate_filed hempty hlink (FileTree.get?_insert_self hroot) hl hslash
        have hnode : ((h.tree.insert (dir ++ [name]) (.file [] h.stampTime)).insert (dir ++ [name])
            (.file bytes h.stampTime)).get? (dir ++ [name]) = some (.file bytes h.stampTime) :=
          FileTree.get?_insert_self hroot
        refine ⟨dir ++ [name], _, ⟨⟨dir, name, rfl, hl'⟩, hfull, ?_⟩, ?_⟩
        · intro follow
          cases follow with
          | false => exact Host.locate_filed hfull hlink hnode hl' hslash
          | true => exact Host.locate_filed hfull hlink hnode hl hslash
        · rw [Host.put, Host.writeFile]
          rw [hagain]
          rfl
  · exact absurd hl' (hnot place _)

namespace Holding

variable {bytes : List UInt8} {place : Place} {tree : FileTree}

theorem get?_eq_none (hh : Holding h path bytes place tree) : h.tree.get? place = none := by
  obtain ⟨dir, name, rfl, hl⟩ := hh.free
  exact (Host.holds_of_locate hl).2

theorem connected (hh : Holding h path bytes place tree) (hc : h.tree.Connected) :
    tree.Connected := by
  obtain ⟨dir, name, hplace, hl⟩ := hh.free
  exact hh.filed.connected hc hplace (Host.holds_of_locate hl).1

theorem get?_erase (hh : Holding h path bytes place tree) (hc : h.tree.Connected) (p : Place) :
    (tree.erase place).get? p = h.tree.get? p := by
  have hget : tree.get? place = some (.file bytes h.stampTime) :=
    Host.holds_of_locate (hh.taken true)
  have hdir : tree.get? place ≠ some .directory := by
    rw [hget]
    nofun
  rw [(hh.connected hc).get?_erase hdir]
  split
  · rename_i hp
    rw [hp, hh.get?_eq_none]
  · rename_i hp
    exact hh.filed.off p hp

theorem get?_cleanUp (hh : Holding h path bytes place tree) (hc : h.tree.Connected) (p : Place) :
    (cleanUp { h with tree } path).tree.get? p = h.tree.get? p := by
  have hexists : Host.pathExists { h with tree } path = true := by
    rw [Host.pathExists, hh.taken true]
  have hremove : Host.remove { h with tree } path = .ok { h with tree := tree.erase place } := by
    rw [Host.remove, hh.taken false]
  rw [cleanUp, if_pos hexists, hremove]
  exact hh.get?_erase hc p

/-- Where the target leads while there is a temporary file, it led before. -/
theorem locate_target (hh : Holding h path bytes place tree) (hc : h.tree.Connected)
    {target : String} {spot : Spot} (hl : Host.locate { h with tree } false target = .ok spot)
    (hslash : ∀ dir name, spot ≠ .free dir name true) :
    ∃ before, h.locate false target = .ok before ∧ before.place = spot.place ∧
      ∀ dir name, before ≠ .free dir name true := by
  rcases Host.locate_of_filed hh.filed (hh.connected hc) hl with hback | ⟨⟨node, rfl⟩, hfree⟩
  · exact ⟨spot, hback, rfl, hslash⟩
  · obtain ⟨dir, name, rfl, hback⟩ := hfree hh.get?_eq_none
    exact ⟨_, hback, rfl, nofun⟩

/-- Nothing is left of a temporary file that was moved to its target. -/
theorem cleanUp_moved (hh : Holding h path bytes place tree) {last name : String} {q : Place}
    {moved : FileTree} (hfiled : h.tree.Filed q moved) (hc : moved.Connected) (hne : name ≠ last)
    (hname : h.LeadsToName path name) (hlast : ∀ dir n, q = dir ++ [n] → n.val = last) :
    cleanUp { h with tree := moved } path = { h with tree := moved } := by
  rw [cleanUp]
  split
  · generalize hremove : Host.remove { h with tree := moved } path = removed
    cases removed with
    | error f => rfl
    | ok left =>
      -- The path would lead to the target, which has another name.
      obtain ⟨there, node, hl, -, -⟩ := Host.remove_eq_ok hremove
      rcases Host.locate_of_filed hfiled hc hl with hback | ⟨⟨node', hspot⟩, -⟩
      · obtain ⟨dir, n, -, hfree⟩ := hh.free
        cases hfree.symm.trans hback
      · obtain rfl : there = q := (Spot.taken.inj hspot).1
        obtain ⟨dir, n, hplace, hval⟩ := hname moved _ hl
        exact absurd (hval.symm.trans (hlast dir n hplace)) hne
  · rfl

/-- A temporary file that was moved to its target stands there, and nothing else has changed. -/
theorem filed_moved (hh : Holding h path bytes place tree) (hc : h.tree.Connected)
    {target last name : String} {moved : Host} (hne : name ≠ last) (hname : h.LeadsToName path name)
    (hlast : h.LeadsToName target last)
    (hm : Host.moveFile { h with tree } path target = .ok moved) :
    ∃ spot final, h.locate false target = .ok spot ∧ (∀ dir name, spot ≠ .free dir name true) ∧
      h.tree.Filed spot.place final ∧ final.get? spot.place = some (.file bytes h.stampTime) ∧
      moved = { h with tree := final } ∧ cleanUp moved path = moved := by
  obtain ⟨-, place', node, spot, hsource, htarget, hdir, hslash, rfl⟩ := Host.moveFile_eq_ok hm
  obtain ⟨rfl, rfl⟩ : place = place' ∧ Node.file bytes h.stampTime = node := by
    have hsame := (hh.taken false).symm.trans hsource
    cases hsame
    exact ⟨rfl, rfl⟩
  obtain ⟨before, hbefore, hplace, hslash⟩ := hh.locate_target hc htarget hslash
  have hfiled : h.tree.Filed spot.place
      ((tree.erase place).insert spot.place (.file bytes h.stampTime)) := by
    have hdir' : (tree.erase place).get? spot.place ≠ some .directory := by
      rw [hh.get?_erase hc]
      intro hbefore'
      exact hdir (hh.filed.get?_directory.2 hbefore')
    have hinsert := FileTree.Filed.insert hdir' bytes h.stampTime
    refine ⟨?_, hinsert.file, ?_⟩
    · intro p hp
      rw [hinsert.off p hp, hh.get?_erase hc]
    · rw [← hh.get?_erase hc]
      exact hdir'
  obtain ⟨dir, n, hsplit, hdirectory⟩ := Host.parent_of_locate hc hbefore
    (by rw [hplace]; exact hfiled.before)
  obtain ⟨dir', n', hsplit', hval⟩ := hlast h.tree before hbefore
  rw [← hplace] at hfiled ⊢
  refine ⟨before, _, hbefore, hslash, hfiled, ?_, rfl, ?_⟩
  · exact FileTree.get?_insert_self (by rw [hsplit]; simp)
  · refine hh.cleanUp_moved hfiled (hfiled.connected hc hsplit hdirectory) hne hname ?_
    intro dir'' n'' hsplit''
    obtain ⟨-, hn⟩ := List.append_inj' (hsplit'.symm.trans hsplit'') rfl
    rw [← (List.cons.inj hn).1]
    exact hval

end Holding

/-- The machine after a file with these bytes was put where a path leads, whatever stood there. -/
def Placed (path : String) (bytes : List UInt8) (before after : Host) : Prop :=
  ∃ spot tree, before.locate false path = .ok spot ∧ (∀ dir name, spot ≠ .free dir name true) ∧
    before.tree.Filed spot.place tree ∧
    tree.get? spot.place = some (.file bytes before.stampTime) ∧ after = { before with tree }

/-- The place where the temporary file for a target is opened, if it can be opened. -/
def opened? (h : Host) (target : Path.Names) : Option Place :=
  match h.locate true (freePath h target.parent.text (target.names.getLast?.getD "")) with
  | .ok (.free directory name false) => some (directory ++ [name])
  | _ => none

theorem get?_of_opened? {target : Path.Names} {place : Place}
    (hopened : opened? h target = some place) :
    h.tree.get? place = none := by
  unfold opened? at hopened
  split at hopened
  · rename_i directory name hl
    obtain rfl := Option.some.inj hopened
    exact (Host.holds_of_locate hl).2
  · cases hopened

section

variable {target : Path.Names}
  (hpath : freePath h target.parent.text (target.names.getLast?.getD "") = path)
include hpath

theorem opened?_eq_none {f : Fault} (hrefused : h.writeFile path [] = .error f) :
    opened? h target = none := by
  unfold opened?
  rw [hpath]
  split
  · rename_i directory name hl
    rw [Host.writeFile, hl] at hrefused
    cases hrefused
  · rfl

theorem Holding.opened? {bytes : List UInt8} {place : Place} {tree : FileTree}
    (hh : Holding h path bytes place tree) : opened? h target = some place := by
  obtain ⟨dir, name, rfl, hl⟩ := hh.free
  have hnone : h.tree.get? (dir ++ [name]) = none := hh.get?_eq_none
  unfold Export.opened?
  rw [hpath, Host.locate_true_of_false hl]
  intro link hlink
  cases hnone.symm.trans hlink

end

section Written

variable {target temporary : String} {opened written : Host} {bytes : List UInt8}
variable (hpath : freePath h (Path.Names.ofText target).parent.text
    ((Path.Names.ofText target).names.getLast?.getD "") = temporary)
  (hopened : h.writeFile temporary [] = .ok opened)
  (hwritten : opened.writeFile temporary bytes = .ok written)
include hpath hopened hwritten

theorem exists_holding_of_written : ∃ place tree, Holding h temporary bytes place tree ∧
    written = { h with tree } ∧ opened? h (.ofText target) = some place := by
  obtain ⟨-, -, -, hnot⟩ := freePath_spec h (Path.Names.ofText target).parent.text
    ((Path.Names.ofText target).names.getLast?.getD "")
  rw [hpath] at hnot
  obtain ⟨place, tree, hh, hagain⟩ := exists_holding hopened hnot bytes
  exact ⟨place, tree, hh, Except.ok.inj (hwritten.symm.trans hagain), hh.opened? hpath⟩

/-- A temporary file that is moved is placed at the target, and nothing is left to be cleaned up. -/
theorem placed_moveFile (hc : h.tree.Connected) {moved : Host}
    (hm : written.moveFile temporary (Path.Names.ofText target).text = .ok moved) :
    Placed (Path.Names.ofText target).text bytes h moved ∧ cleanUp moved temporary = moved := by
  obtain ⟨place, tree, hh, rfl, -⟩ := exists_holding_of_written hpath hopened hwritten
  obtain ⟨n, havoided, hname, -⟩ := freePath_spec h (Path.Names.ofText target).parent.text
    ((Path.Names.ofText target).names.getLast?.getD "")
  obtain ⟨before, last, hnames, hne, hdot, hdots, hslash⟩ :=
    Host.exists_last_of_namesNoEntry (Host.moveFile_eq_ok hm).1
  rw [hpath] at hname
  rw [hnames, List.getLast?_concat, Option.getD_some] at havoided
  have hlast : h.LeadsToName (Path.Names.ofText target).text last :=
    Host.leadsToName_of_endsIn (Path.Names.endsIn_text hnames hne) hne hdot hdots hslash
  obtain ⟨spot, final, hl, hslash, hfiled, hfile, hmoved, hclean⟩ :=
    hh.filed_moved hc havoided hname hlast hm
  exact ⟨⟨spot, final, hl, hslash, hfiled, hfile, hmoved⟩, hclean⟩

end Written

/-- A write through a temporary file places its target if it is done. If not, all is as it was, but
for the temporary file where a fault ended the output: it holds what was written so far. -/
theorem placed_writeThrough (hc : h.tree.Connected) (path : String) (output : Json.Output) :
    ((writeThrough h (.ofText path) output).fault ≠ none → ∀ p,
      (writeThrough h (.ofText path) output).host.tree.get? p =
        if output.fault ≠ none ∧ opened? h (.ofText path) = some p
        then some (.file (Text.Utf8.encode output.text) h.stampTime) else h.tree.get? p) ∧
    ((writeThrough h (.ofText path) output).fault = none → output.fault = none ∧
      Placed (Path.Names.ofText path).text (Text.Utf8.encode output.text) h
        (writeThrough h (.ofText path) output).host) := by
  unfold writeThrough
  obtain ⟨-, -, -, hnot⟩ := freePath_spec h (Path.Names.ofText path).parent.text
    ((Path.Names.ofText path).names.getLast?.getD "")
  generalize hpath : freePath h _ _ = temporary at hnot ⊢
  dsimp only
  cases hopened : h.writeFile temporary [] with
  | error f =>
    refine ⟨fun _ p => ?_, nofun⟩
    rw [opened?_eq_none hpath hopened, if_neg fun h => nomatch h.2]
  | ok opened =>
    obtain ⟨place, tree, hh, hwritten⟩ := exists_holding hopened hnot (Text.Utf8.encode output.text)
    simp only [hwritten, hh.opened? hpath]
    cases hfault : output.fault with
    | some f =>
      refine ⟨fun _ p => ?_, nofun⟩
      by_cases hp : place = p
      · subst hp
        rw [if_pos ⟨nofun, rfl⟩]
        exact Host.holds_of_locate (hh.taken true)
      · rw [if_neg fun h => hp (Option.some.inj h.2)]
        exact hh.filed.off p fun h => hp h.symm
    | none =>
      simp only [ne_eq, not_true, false_and, if_false, true_and]
      cases hm : Host.moveFile { h with tree } temporary (Path.Names.ofText path).text with
      | error f => exact ⟨fun _ p => hh.get?_cleanUp hc p, nofun⟩
      | ok moved =>
        refine ⟨fun hfault => absurd rfl hfault, fun _ => ?_⟩
        obtain ⟨hplaced, hclean⟩ := placed_moveFile hpath hopened hwritten hc hm
        dsimp only
        rw [hclean]
        exact hplaced

def prepare (h : Host) (names : Path.Names) : Host.Attempt :=
  h.makeWithParents names.parent.slashes names.parent.names.reverse

/-- What the target of an export names, once the directories on the way to it are made. -/
def target? (h : Host) (path : String) : Option Place :=
  let names := Path.Names.ofText (h.expandUser path)
  match (prepare h names).host.locate false names.text with
  | .ok spot => some spot.place
  | .error _ => none

theorem target?_of_locate {spot : Spot}
    (hl : (prepare h (.ofText (h.expandUser path))).host.locate false
    (Path.Names.ofText (h.expandUser path)).text =
      .ok spot) : target? h path = some spot.place := by
  unfold target?
  dsimp only
  rw [hl]

theorem writeOutput_eq {output : Json.Output} {names : Path.Names}
    (hnames : Path.Names.ofText (h.expandUser path) = names) : writeOutput h path output =
      (prepare h names).fault.elim
        ((writeThrough (prepare h names).host names output).host,
          (writeThrough (prepare h names).host names output).fault.elim .done .failed)
        fun f => ((prepare h names).host, .refused f) := by
  subst hnames
  unfold writeOutput prepare
  dsimp only
  generalize h.makeWithParents _ _ = made
  cases made.fault with
  | some f => rfl
  | none =>
    dsimp only [Option.elim_none]
    generalize writeThrough _ _ _ = written
    cases written.fault with
    | none => rfl
    | some f => rfl

/-- The place of the temporary file of a write, if it comes to be. -/
def temporary? (h : Host) (path : String) : Option Place :=
  let names := Path.Names.ofText (h.expandUser path)
  (prepare h names).fault.elim (opened? (prepare h names).host names) fun _ => none

theorem temporary?_eq {names : Path.Names}
    (hnames : Path.Names.ofText (h.expandUser path) = names) :
    temporary? h path = (prepare h names).fault.elim (opened? (prepare h names).host names) fun _ =>
      none := by
  subst hnames
  rfl

/-- What a write that is not done leaves: directories may be new, and where a fault ended the
output, a temporary file with what was written so far. One that is done has placed its target. -/
theorem placed_writeOutput (hc : h.tree.Connected) (path : String) (output : Json.Output) :
    ((writeOutput h path output).2 ≠ .done → ∀ p,
      if output.fault ≠ none ∧ temporary? h path = some p
      then h.tree.get? p = none ∧ (writeOutput h path output).1.tree.get? p =
        some (.file (Text.Utf8.encode output.text) h.stampTime)
      else h.tree.GrownAt p (writeOutput h path output).1.tree) ∧
    ((writeOutput h path output).2 = .done → output.fault = none ∧
      Placed (Path.Names.ofText (h.expandUser path)).text (Text.Utf8.encode output.text)
        (prepare h (.ofText (h.expandUser path))).host (writeOutput h path output).1) := by
  rw [writeOutput_eq rfl, temporary?_eq rfl]
  have hmade : h.Prepared (prepare h (.ofText (h.expandUser path))).host :=
    Host.prepared_makeWithParents h _ _
  generalize prepare h (.ofText (h.expandUser path)) = made at hmade ⊢
  obtain ⟨hfailed, hplaced⟩ := placed_writeThrough (hmade.connected hc) (h.expandUser path) output
  generalize writeThrough made.host (.ofText (h.expandUser path)) output =
    written at hfailed hplaced ⊢
  cases hfault : made.fault with
  | some f =>
    refine ⟨fun _ p => ?_, nofun⟩
    rw [Option.elim_some, Option.elim_some, if_neg fun h => nomatch h.2]
    exact hmade.grown p
  | none =>
    rw [Option.elim_none, Option.elim_none]
    cases hending : written.fault with
    | none => exact ⟨fun hnot => absurd rfl hnot, fun _ => hplaced hending⟩
    | some f =>
      refine ⟨fun _ p => ?_, nofun⟩
      have hget := hfailed (by rw [hending]; nofun) p
      rw [hmade.stampTime_eq] at hget
      split
      · rename_i hleft
        rw [if_pos hleft] at hget
        exact ⟨(hmade.grown p).eq_none (get?_of_opened? hleft.2), hget⟩
      · rename_i hleft
        rw [if_neg hleft] at hget
        exact (hmade.grown p).trans (Or.inl hget)

/-- A write that is not done has changed no file if its output is whole, and one that is done has
placed its target. -/
theorem placed_writeReminders (hc : h.tree.Connected) (path : String) (store : Store)
    {text : List Char} (hdoc : (exportJson store).document (.export 2) = .ok text) :
    ((writeReminders h path store).2 ≠ .done → h.tree.Grown (writeReminders h path store).1.tree) ∧
    ((writeReminders h path store).2 = .done →
      Placed (Path.Names.ofText (h.expandUser path)).text (Text.Utf8.encode text)
        (prepare h (.ofText (h.expandUser path))).host (writeReminders h path store).1) := by
  obtain ⟨hfailed, hplaced⟩ := placed_writeOutput hc path ⟨text, none⟩
  rw [writeReminders, hdoc, Json.Output.ofText]
  refine ⟨fun hnot p => ?_, fun hdone => (hplaced hdone).2⟩
  have hp := hfailed hnot p
  rwa [if_neg fun h => h.1 rfl] at hp

/-- Apart from the target of an export and from new directories nothing is another than before. -/
def Exported (path : String) (before after : Host) : Prop :=
  ∃ place, target? before path = some place ∧ before.tree.GrownApart place after.tree

/-- The path that an export moves its file to: the given one with its home directory, without single
dots and without slashes at its end. -/
def named (h : Host) (path : String) : String := (Path.Names.ofText (h.expandUser path)).text

/-- A file with these bytes stands at the place that a path names. -/
structure Stands (path : String) (before after : Host) (place : Place) (bytes : List UInt8) :
    Prop where
  target : target? before path = some place
  file : after.tree.get? place = some (.file bytes before.stampTime)
  others : before.tree.GrownApart place after.tree
  /-- What is read at the path is that file, if anything is. -/
  reads : ∀ read modified, after.openFile (named before path) = .ok (read, modified) → read = bytes
  /-- It is read, unless a link stood at the place: the path may lead through it. -/
  opens : (∀ target, before.tree.get? place ≠ some (.link target)) →
    after.openFile (named before path) = .ok (bytes, before.stampTime)

theorem stands_of_placed {after : Host} {bytes : List UInt8}
    (hplaced : Placed (named h path) bytes (prepare h (.ofText (h.expandUser path))).host after) :
    ∃ place, Stands path h after place bytes := by
  have hmade : h.Prepared (prepare h (.ofText (h.expandUser path))).host :=
    Host.prepared_makeWithParents h _ _
  obtain ⟨spot, tree, hl, hslash, hfiled, hfile, rfl⟩ := hplaced
  have htarget : target? h path = some spot.place := target?_of_locate hl
  generalize prepare h (.ofText (h.expandUser path)) = made at hl hfiled hfile hmade ⊢
  rw [hmade.stampTime_eq] at hfile
  refine ⟨spot.place, htarget, hfile, ?_, ?_, ?_⟩
  · exact hmade.grown.trans_apart fun p hp => Or.inl (hfiled.off p hp)
  · intro read modified hopen
    rw [Host.openFile] at hopen
    cases hfollowed : Host.locate { made.host with tree } true (named h path) with
    | error f =>
      rw [hfollowed] at hopen
      cases hopen
    | ok spot' =>
      obtain rfl := Host.locate_to hfiled hfile hl hfollowed
      rw [hfollowed] at hopen
      exact (Prod.mk.inj (Except.ok.inj hopen)).1.symm
  · intro hlink
    have hlink' : ∀ target, made.host.tree.get? spot.place ≠ some (.link target) := by
      intro target hget
      rcases hmade.grown spot.place with hsame | ⟨-, hdir⟩
      · exact hlink target (hsame.symm.trans hget)
      · cases hdir.symm.trans hget
    have hfollowed :=
      Host.locate_filed hfiled hlink' hfile (Host.locate_true_of_false hl hlink') hslash
    rw [Host.openFile, hfollowed]

/-- An export that is not done has changed no file, and one that is has changed its target. -/
theorem changes_writeReminders (hc : h.tree.Connected) (path : String) (store : Store) :
    ((writeReminders h path store).2 ≠ .done → h.tree.Grown (writeReminders h path store).1.tree) ∧
    ((writeReminders h path store).2 = .done →
      Exported path h (writeReminders h path store).1) := by
  obtain ⟨text, hdoc⟩ := (isPlain_exportJson store).exists_document (.export 2)
  obtain ⟨hfailed, hplaced⟩ := placed_writeReminders hc path store hdoc
  refine ⟨hfailed, fun hdone => ?_⟩
  obtain ⟨place, hstands⟩ := stands_of_placed (hplaced hdone)
  exact ⟨place, hstands.target, hstands.others⟩

end Export
end ReminderScan
