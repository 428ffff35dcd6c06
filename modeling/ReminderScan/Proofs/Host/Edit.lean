import Mathlib.Tactic.IntervalCases
import ReminderScan.Host.Edit
import ReminderScan.Proofs.FileTree.Walk
import ReminderScan.Proofs.Path

/-! What the ways to change the files of a machine leave as it was. -/

namespace ReminderScan.Host

variable {h h' : Host} {path : String} {spot : Spot} {follow : Bool}

/-- A text that files can be asked for by. -/
def IsPath (path : String) : Prop :=
  '\x00' ∉ path.toList ∧ path ≠ "" ∧ path.utf8ByteSize < pathLimit

def stepsTo (h : Host) (path : String) : List String :=
  stepsOf (String.ofList (Path.join h.directory.toList path.toList))

theorem locate_eq_ok_iff : h.locate follow path = .ok spot ↔
    IsPath path ∧ h.tree.Leads follow linkLimit [] (h.stepsTo path) spot := by
  constructor
  · intro hl
    rw [locate] at hl
    split at hl
    · cases hl
    · rename_i hnul
      split at hl
      · cases hl
      · rename_i hempty
        split at hl
        · cases hl
        · rename_i hlong
          refine ⟨⟨hnul, hempty, Nat.lt_of_not_le hlong⟩, ?_⟩
          dsimp only at hl
          split at hl
          · rename_i hwalk
            obtain rfl := Except.ok.inj hl
            exact FileTree.walk_eq_ok_iff.1 hwalk
          · cases hl
  · rintro ⟨⟨hnul, hempty, hlong⟩, hleads⟩
    have hwalk := hleads.walk
    rw [stepsTo] at hwalk
    rw [locate, if_neg hnul, if_neg hempty, if_neg (Nat.not_le.2 hlong)]
    dsimp only
    rw [hwalk]

theorem holds_of_locate (hl : h.locate follow path = .ok spot) : h.tree.Holds spot :=
  (locate_eq_ok_iff.1 hl).2.holds

theorem parent_of_locate (hc : h.tree.Connected) (hl : h.locate follow path = .ok spot)
    (hdir : h.tree.get? spot.place ≠ some .directory) :
    ∃ dir name, spot.place = dir ++ [name] ∧ h.tree.get? dir = some .directory := by
  cases spot with
  | free dir name slash => exact ⟨dir, name, rfl, (holds_of_locate hl).1⟩
  | taken place node =>
    have hget : h.tree.get? place = some node := holds_of_locate hl
    rcases List.eq_nil_or_concat place with rfl | ⟨dir, name, rfl⟩
    · exact absurd rfl hdir
    · rw [List.concat_eq_append] at hget ⊢
      have hparent := hc.get?_dropLast hget
      rw [List.dropLast_concat] at hparent
      exact ⟨dir, name, rfl, hparent⟩

/-- A path that leads somewhere leads to the same spot if a link at its end is not followed, or to
that link. -/
theorem locate_false_of_true (hl : h.locate true path = .ok spot) : ∃ spot',
    h.locate false path = .ok spot' ∧
      (spot' = spot ∨ ∃ p target, spot' = .taken p (.link target)) := by
  obtain ⟨hpath, hleads⟩ := locate_eq_ok_iff.1 hl
  obtain ⟨spot', hleads, hspot⟩ := hleads.unfollowed
  exact ⟨spot', locate_eq_ok_iff.2 ⟨hpath, hleads⟩, hspot⟩

/-- Directories were made, and nothing else was changed. -/
structure Prepared (before after : Host) : Prop where
  same : ∃ tree, after = { before with tree }
  grown : before.tree.Grown after.tree
  connected : before.tree.Connected → after.tree.Connected

theorem Prepared.refl (h : Host) : Prepared h h := ⟨⟨h.tree, rfl⟩, .refl _, id⟩

theorem Prepared.trans {middle : Host} (hm : Prepared h middle) (ha : Prepared middle h') :
    Prepared h h' := by
  obtain ⟨tree, rfl⟩ := hm.same
  obtain ⟨tree', rfl⟩ := ha.same
  exact ⟨⟨tree', rfl⟩, hm.grown.trans ha.grown, fun hc => ha.connected (hm.connected hc)⟩

theorem Prepared.absoluteUser_eq (hp : Prepared h h') (path : String) :
    h'.absoluteUser path = h.absoluteUser path := by
  obtain ⟨tree, rfl⟩ := hp.same
  rfl

theorem Prepared.stampTime_eq (hp : Prepared h h') : h'.stampTime = h.stampTime := by
  obtain ⟨tree, rfl⟩ := hp.same
  rfl

theorem prepared_makeDirectory (hm : h.makeDirectory path = .ok h') : Prepared h h' := by
  rw [makeDirectory] at hm
  split at hm
  · cases hm
  · cases hm
  · rename_i dir name slash hl
    obtain ⟨hdir, hnone⟩ := holds_of_locate hl
    obtain rfl := Except.ok.inj hm
    exact ⟨⟨_, rfl⟩, FileTree.grown_insert hnone, fun hc => hc.insert_directory hdir hnone⟩
  · cases hm

theorem prepared_ensureDirectory (hm : h.ensureDirectory path = .ok h') : Prepared h h' := by
  rw [ensureDirectory] at hm
  split at hm
  · rename_i hmade
    obtain rfl := Except.ok.inj hm
    exact prepared_makeDirectory hmade
  · cases hm
  · split at hm
    · obtain rfl := Except.ok.inj hm
      exact .refl h
    · cases hm

theorem prepared_attempt {x : Except Fault Host} (hx : ∀ h', x = .ok h' → Prepared h h') :
    Prepared h (h.attempt x).host := by
  cases x with
  | error f => exact .refl h
  | ok h' => exact hx h' rfl

theorem prepared_andThen {a : Attempt} {next : Host → Attempt} (ha : Prepared h a.host)
    (hnext : ∀ g, Prepared g (next g).host) : Prepared h (a.andThen next).host := by
  rw [Attempt.andThen]
  split
  · exact ha.trans (hnext a.host)
  · exact ha

theorem prepared_makeMissing (h : Host) (paths : List String) :
    Prepared h (h.makeMissing paths).host := by
  induction paths generalizing h with
  | nil => exact .refl h
  | cons path rest ih =>
    unfold makeMissing
    split
    · exact ih h
    · split
      · rename_i hmade
        exact (prepared_ensureDirectory hmade).trans (ih _)
      · exact ih h
      · exact .refl h

theorem prepared_makeDirectories (h : Host) (path : String) :
    Prepared h (h.makeDirectories path).host :=
  prepared_andThen (prepared_makeMissing h _) fun _ =>
    prepared_attempt fun _ => prepared_ensureDirectory

theorem prepared_makeWithParents (h : Host) (slashes : Nat) (names : List String) :
    Prepared h (h.makeWithParents slashes names).host := by
  induction names generalizing h with
  | nil => exact prepared_attempt fun _ => prepared_ensureDirectory
  | cons name before ih =>
    unfold makeWithParents
    dsimp only
    split
    · exact prepared_andThen (ih h) fun _ => prepared_attempt fun _ => prepared_ensureDirectory
    · exact prepared_attempt fun _ => prepared_ensureDirectory

/-- A path leads to the file that was put where it led. -/
theorem locate_filed {tree : FileTree} {node : Node} (hf : h.tree.Filed spot.place tree)
    (hlink : ∀ target, h.tree.get? spot.place ≠ some (.link target))
    (hnode : tree.get? spot.place = some node) (hl : h.locate follow path = .ok spot)
    (hslash : ∀ dir name, spot ≠ .free dir name true) :
    Host.locate { h with tree } follow path = .ok (.taken spot.place node) := by
  obtain ⟨hpath, hleads⟩ := locate_eq_ok_iff.1 hl
  have hfiled := hf.leads hlink hnode hleads hslash
  rw [Spot.filed, if_pos rfl] at hfiled
  exact locate_eq_ok_iff.2 ⟨hpath, hfiled⟩

/-- A path that led to a place while a link at its end was not followed leads to the file that was
put there, or nowhere any more. -/
theorem locate_to {tree : FileTree} {node : Node} {spot' : Spot} (hf : h.tree.Filed spot.place tree)
    (hnode : tree.get? spot.place = some node) (hl : h.locate false path = .ok spot)
    (hl' : Host.locate { h with tree } true path = .ok spot') : spot' = .taken spot.place node :=
  hf.leads_to hnode (locate_eq_ok_iff.1 hl).2 rfl (locate_eq_ok_iff.1 hl').2

theorem locate_true_of_false (hl : h.locate false path = .ok spot)
    (hlink : ∀ target, h.tree.get? spot.place ≠ some (.link target)) :
    h.locate true path = .ok spot := by
  obtain ⟨hpath, hleads⟩ := locate_eq_ok_iff.1 hl
  refine locate_eq_ok_iff.2 ⟨hpath, hleads.followed ?_⟩
  rintro p target rfl
  exact hlink target (holds_of_locate hl)

/-- A path that leads somewhere after a file was put at a place led there before, or it leads to the
new file. -/
theorem locate_of_filed {q : Place} {tree : FileTree} (hf : h.tree.Filed q tree)
    (hc : tree.Connected) (hl : Host.locate { h with tree } follow path = .ok spot) :
    h.tree.LedBack q id (fun before => h.locate follow path = .ok before) spot := by
  obtain ⟨hpath, hleads⟩ := locate_eq_ok_iff.1 hl
  have hroot : [] ≠ q := by
    rintro rfl
    exact hf.before rfl
  exact (hf.leads_back hc hleads hroot).imp fun _ hled => locate_eq_ok_iff.2 ⟨hpath, hled⟩

theorem writeFile_eq_ok {bytes : List UInt8} (hw : h.writeFile path bytes = .ok h') : ∃ spot,
    h.locate true path = .ok spot ∧ (∀ dir name, spot ≠ .free dir name true) ∧
      h.tree.get? spot.place ≠ some .directory ∧
      (∀ target, h.tree.get? spot.place ≠ some (.link target)) ∧
      h' = h.put spot.place (.file bytes h.stampTime) := by
  unfold writeFile at hw
  split at hw
  · cases hw
  · rename_i place old modified hl
    have hget : h.tree.get? place = some (.file old modified) := holds_of_locate hl
    obtain rfl := Except.ok.inj hw
    refine ⟨_, hl, fun _ _ => nofun, ?_, ?_, rfl⟩
    · intro hdir
      cases hget.symm.trans hdir
    · intro target hlink
      cases hget.symm.trans hlink
  · rename_i dir name hl
    have hnone : h.tree.get? (dir ++ [name]) = none := (holds_of_locate hl).2
    obtain rfl := Except.ok.inj hw
    refine ⟨_, hl, ?_, ?_, ?_, rfl⟩
    · rintro _ _ ⟨⟩
    · intro hdir
      cases hnone.symm.trans hdir
    · intro target hlink
      cases hnone.symm.trans hlink
  · cases hw

/-- What is written stands where the path leads, and the path still leads there. -/
theorem filed_writeFile {bytes : List UInt8} (hw : h.writeFile path bytes = .ok h') : ∃ place,
    h.tree.Filed place h'.tree ∧ (∃ tree, h' = { h with tree }) ∧
      h'.locate true path = .ok (.taken place (.file bytes h.stampTime)) := by
  obtain ⟨spot, hl, hslash, hdir, hlink, rfl⟩ := writeFile_eq_ok hw
  have hf := FileTree.Filed.insert hdir bytes h.stampTime
  have hroot : spot.place ≠ [] := by
    intro hroot
    rw [hroot] at hdir
    exact hdir rfl
  exact ⟨spot.place, hf, ⟨_, rfl⟩,
    locate_filed hf hlink (FileTree.get?_insert_self hroot) hl hslash⟩

/-- A file that is opened first and written then is left as one that is written at once. -/
theorem writeFile_opened {opened : Host} (hopen : h.writeFile path [] = .ok opened)
    (bytes : List UInt8) :
    ∃ written, h.writeFile path bytes = .ok written ∧
      opened.writeFile path bytes = .ok written := by
  obtain ⟨spot, hl, hslash, hdir, hlink, rfl⟩ := writeFile_eq_ok hopen
  have hroot : spot.place ≠ [] := by
    intro hroot
    rw [hroot] at hdir
    exact hdir rfl
  have hagain := locate_filed (FileTree.Filed.insert hdir [] h.stampTime) hlink
    (FileTree.get?_insert_self hroot) hl hslash
  refine ⟨h.put spot.place (.file bytes h.stampTime), ?_, ?_⟩
  · rw [writeFile, hl]
    cases spot with
    | taken place node =>
      have hget : h.tree.get? place = some node := holds_of_locate hl
      cases node with
      | file old modified => rfl
      | directory => exact absurd hget hdir
      | link target => exact absurd hget (hlink target)
    | free dir name slash =>
      cases slash with
      | true => exact absurd rfl (hslash dir name)
      | false => rfl
  · rw [writeFile, put, hagain]
    dsimp only
    rw [put, FileTree.insert_insert]
    rfl

theorem stepsTo_of_endsIn {last : String} (hends : Path.EndsIn path.toList last.toList)
    (hne : last ≠ "") (hslash : '/' ∉ last.toList) : ∃ front, h.stepsTo path = front ++ [last] := by
  have hfull := hends.join h.directory.toList
  rw [← String.toList_ofList (l := Path.join _ _)] at hfull
  obtain ⟨front, hsteps⟩ := stepsOf_of_endsIn hfull (by simpa using hne) hslash
  rw [String.ofList_toList] at hsteps
  exact ⟨front, hsteps⟩

/-- Whatever there is on its way, the path leads to places of this name. -/
def LeadsToName (h : Host) (path last : String) : Prop := ∀ tree spot,
  Host.locate { h with tree } false path = .ok spot →
    ∃ dir name, spot.place = dir ++ [name] ∧ name.val = last

theorem leadsToName_of_endsIn {last : String} (hends : Path.EndsIn path.toList last.toList)
    (hne : last ≠ "") (hdot : last ≠ ".") (hdots : last ≠ "..") (hslash : '/' ∉ last.toList) :
    h.LeadsToName path last := by
  intro tree spot hl
  obtain ⟨-, hleads⟩ := locate_eq_ok_iff.1 hl
  obtain ⟨front, hsteps⟩ := stepsTo_of_endsIn (h := { h with tree }) hends hne hslash
  rw [hsteps] at hleads
  exact hleads.last hne hdot hdots

theorem namesNoEntry_of_endsIn {path last : String} (hends : Path.EndsIn path.toList last.toList)
    (hne : last ≠ "") (hslash : '/' ∉ last.toList) :
    namesNoEntry path = (last = "." || last = "..") := by
  obtain ⟨front, hsteps⟩ := stepsOf_of_endsIn hends (by simpa using hne) hslash
  rw [String.ofList_toList] at hsteps
  rw [namesNoEntry, hsteps, List.reverse_concat]
  split
  · rename_i hnil
    cases hnil
  · rename_i hcons
    exact absurd (List.cons.inj hcons).1 hne
  · rename_i hcons
    rw [(List.cons.inj hcons).1]

theorem namesNoEntry_of_nil {p : Path.Names} (hnames : p.names = []) (hslashes : p.slashes ≤ 2) :
    namesNoEntry p.text = true := by
  obtain ⟨slashes, names⟩ := p
  dsimp only at hnames hslashes
  subst hnames
  interval_cases slashes
  all_goals decide

/-- A path that names an entry ends with its name. -/
theorem exists_last_of_namesNoEntry {path : String}
    (hentry : namesNoEntry (Path.Names.ofText path).text = false) :
    ∃ before last, (Path.Names.ofText path).names = before ++ [last] ∧ last ≠ "" ∧ last ≠ "." ∧
      last ≠ ".." ∧ '/' ∉ last.toList := by
  rcases List.eq_nil_or_concat (Path.Names.ofText path).names with hnil | ⟨before, last, hnames⟩
  · rw [namesNoEntry_of_nil hnil (Path.leadingSlashes_le _)] at hentry
    cases hentry
  · rw [List.concat_eq_append] at hnames
    have hmem : last ∈ (Path.Names.ofText path).names := by
      rw [hnames]
      exact List.mem_append_right _ List.mem_cons_self
    obtain ⟨hne, hdot, hslash⟩ := Path.Names.mem_ofText hmem
    rw [namesNoEntry_of_endsIn (Path.Names.endsIn_text hnames hne) hne hslash] at hentry
    refine ⟨before, last, hnames, hne, hdot, ?_, hslash⟩
    intro hdots
    simp [hdots] at hentry

theorem stepsTo_of_rooted (hrooted : path.toList.head? = some '/') :
    h.stepsTo path = stepsOf path := by
  rw [stepsTo, Path.join, if_pos hrooted, String.ofList_toList]

theorem getLast?_stepsTo_of_nil {p : Path.Names} (hnames : p.names = [])
    (hslashes : p.slashes ≤ 2) :
    (h.stepsTo p.text).getLast? = some "." ∨ (h.stepsTo p.text).getLast? = none := by
  obtain ⟨slashes, names⟩ := p
  dsimp only at hnames hslashes
  subst hnames
  interval_cases slashes
  · have hdot : Path.EndsIn (Path.Names.text ⟨0, []⟩).toList ".".toList := Or.inl rfl
    obtain ⟨front, hsteps⟩ := stepsTo_of_endsIn hdot (by decide) (by decide)
    exact Or.inl (by rw [hsteps, List.getLast?_concat])
  · exact Or.inr (by rw [stepsTo_of_rooted (by decide)]; decide)
  · exact Or.inr (by rw [stepsTo_of_rooted (by decide)]; decide)

/-- A free name that a path leads to is the last of its names, where no slash stands at its end. -/
theorem getLast?_of_free {dir : Place} {name : Name} {slash : Bool}
    (hl : h.locate false (Path.Names.ofText path).text = .ok (.free dir name slash)) :
    (Path.Names.ofText path).names.getLast? = some name.val := by
  obtain ⟨hempty, hdot, -⟩ := name.2
  have hlast := (locate_eq_ok_iff.1 hl).2.getLast?_of_free
  rcases List.eq_nil_or_concat (Path.Names.ofText path).names with hnil | ⟨before, last, hnames⟩
  · rcases getLast?_stepsTo_of_nil (h := h) hnil (Path.leadingSlashes_le _) with hsteps | hsteps
    · rw [hsteps] at hlast
      rcases hlast with hlast | hlast
      · exact absurd (Option.some.inj hlast).symm hdot
      · exact absurd (Option.some.inj hlast) (by decide)
    · rw [hsteps] at hlast
      rcases hlast with hlast | hlast <;> cases hlast
  · rw [List.concat_eq_append] at hnames
    obtain ⟨hne, -, hslash⟩ := Path.Names.mem_ofText
      (hnames ▸ List.mem_append_right before (List.mem_singleton_self last))
    obtain ⟨front, hsteps⟩ :=
      stepsTo_of_endsIn (h := h) (Path.Names.endsIn_text hnames hne) hne hslash
    rw [hsteps, List.getLast?_concat] at hlast
    rw [hnames, List.getLast?_concat]
    exact hlast.resolve_right fun h => hne (Option.some.inj h)

theorem moveFile_eq_ok {target : String} (hm : h.moveFile path target = .ok h') :
    namesNoEntry target = false ∧ ∃ place node spot, h.locate false path = .ok (.taken place node) ∧
      h.locate false target = .ok spot ∧ h.tree.get? spot.place ≠ some .directory ∧
      (∀ dir name, spot ≠ .free dir name true) ∧
      h' = { h with tree := (h.tree.erase place).insert spot.place node } := by
  unfold moveFile at hm
  split at hm
  · cases hm
  · cases hm
  · cases hm
  · cases hm
  · rename_i place node spot hsource htarget
    split at hm
    · cases hm
    · rename_i hentry
      refine ⟨Bool.eq_false_iff.2 hentry, place, node, spot, hsource, htarget, ?_⟩
      split at hm
      · cases hm
      · rename_i there old hold
        obtain rfl := Except.ok.inj hm
        refine ⟨?_, nofun, rfl⟩
        intro hdir
        have hget : h.tree.get? there = some old := holds_of_locate htarget
        exact hold (Option.some.inj (hget.symm.trans hdir))
      · rename_i dir name
        obtain rfl := Except.ok.inj hm
        refine ⟨?_, nofun, rfl⟩
        intro hdir
        cases (holds_of_locate htarget).2.symm.trans hdir
      · cases hm
  · cases hm

theorem remove_eq_ok (hr : h.remove path = .ok h') : ∃ place node,
    h.locate false path = .ok (.taken place node) ∧ h.tree.get? place ≠ some .directory ∧
      h' = { h with tree := h.tree.erase place } := by
  rw [remove] at hr
  split at hr
  · cases hr
  · cases hr
  · rename_i place node hnode hl
    obtain rfl := Except.ok.inj hr
    refine ⟨place, node, hl, ?_, rfl⟩
    intro hdir
    have hget : h.tree.get? place = some node := holds_of_locate hl
    exact hnode (Option.some.inj (hget.symm.trans hdir))
  · cases hr

end ReminderScan.Host
