import ReminderScan.FileTree.Resolve
import ReminderScan.Proofs.FileTree.Growth

/-! Where paths lead, as a relation, and where they lead after a tree has changed at one place. Only
paths that lead somewhere are related to anything. -/

namespace ReminderScan

def Spot.place : Spot → Place
  | .taken place _ => place
  | .free directory name _ => directory ++ [name]

/-- The spot as it is when a node was put at a place. -/
def Spot.filed (q : Place) (node : Node) (spot : Spot) : Spot :=
  if spot.place = q then .taken q node else spot

def Stride.filed (q : Place) (node : Node) : Stride → Stride
  | .arrived spot => .arrived (spot.filed q node)
  | .detour here steps => .detour here steps

namespace FileTree

/-- The names lead from a place on without a link being followed. -/
inductive Strides (t : FileTree) (follow : Bool) : Place → List String → Stride → Prop
  | stop {here node} : t.get? here = some node →
    Strides t follow here [] (.arrived (.taken here node))
  | stay {here step rest s} : t.get? here = some .directory → step = "" ∨ step = "." →
      Strides t follow here rest s → Strides t follow here (step :: rest) s
  | up {here rest s} : t.get? here = some .directory → Strides t follow here.dropLast rest s →
      Strides t follow here (".." :: rest) s
  | enter {here rest s node} (name : Name) : t.get? here = some .directory →
      t.get? (here ++ [name]) = some node → (∀ target, node ≠ .link target) →
      Strides t follow (here ++ [name]) rest s → Strides t follow here (name.val :: rest) s
  | free {here rest} (name : Name) : t.get? here = some .directory →
      t.get? (here ++ [name]) = none → rest = [] ∨ rest = [""] →
      Strides t follow here (name.val :: rest) (.arrived (.free here name (rest ≠ [])))
  | link {here target} (name : Name) : t.get? here = some .directory →
      t.get? (here ++ [name]) = some (.link target) → follow = false →
      Strides t follow here [name.val] (.arrived (.taken (here ++ [name]) (.link target)))
  | detour {here rest target} (name : Name) : t.get? here = some .directory →
      t.get? (here ++ [name]) = some (.link target) → rest ≠ [] ∨ follow = true →
      Strides t follow here (name.val :: rest)
        (.detour (if target.toList.head? = some '/' then [] else here) (stepsOf target ++ rest))

/-- The names lead from a place on to a spot, over at most so many links. -/
inductive Leads (t : FileTree) (follow : Bool) : Nat → Place → List String → Spot → Prop
  | arrive {links here steps spot} : Strides t follow here steps (.arrived spot) →
      Leads t follow links here steps spot
  | turn {links here steps there more spot} : Strides t follow here steps (.detour there more) →
      Leads t follow links there more spot → Leads t follow (links + 1) here steps spot

variable {t t' : FileTree} {follow : Bool} {here : Place} {steps : List String} {s : Stride}
variable {links : Nat} {spot : Spot}

theorem isDirectory_iff {p : Place} : t.isDirectory p = true ↔ t.get? p = some .directory := by
  rw [isDirectory]
  split
  · rename_i hget
    simp [hget]
  · rename_i hnot
    simp only [Bool.false_eq_true, false_iff]
    exact hnot

theorem strides_of_stride (h : t.stride follow here steps = .ok s) :
    Strides t follow here steps s := by
  fun_induction stride t follow here steps with
  | case1 here node hget =>
    obtain rfl := Except.ok.inj h
    exact .stop hget
  | case4 here step rest hdir hsame ih =>
    have hhere := isDirectory_iff.1 (by simpa using hdir)
    exact .stay hhere (by simpa using hsame) (ih h)
  | case5 here rest hdir _ ih =>
    have hhere := isDirectory_iff.1 (by simpa using hdir)
    exact .up hhere (ih h)
  | case7 here step rest hdir _ _ _ hname hnone hlast =>
    have hhere := isDirectory_iff.1 (by simpa using hdir)
    obtain rfl := Except.ok.inj h
    exact .free ⟨step, hname⟩ hhere hnone (by simpa using hlast)
  | case9 here step rest hdir _ _ _ hname target hlink hlast =>
    have hhere := isDirectory_iff.1 (by simpa using hdir)
    obtain rfl := Except.ok.inj h
    obtain ⟨rfl, rfl⟩ : rest = [] ∧ follow = false := by simpa using hlast
    exact .link ⟨step, hname⟩ hhere hlink rfl
  | case10 here step rest hdir _ _ _ hname target hlink hlast =>
    have hhere := isDirectory_iff.1 (by simpa using hdir)
    obtain rfl := Except.ok.inj h
    refine .detour ⟨step, hname⟩ hhere hlink ?_
    by_cases hrest : rest = []
    · exact Or.inr (by simpa [hrest] using hlast)
    · exact Or.inl hrest
  | case11 here step rest hdir _ _ _ hname node hnode hget ih =>
    have hhere := isDirectory_iff.1 (by simpa using hdir)
    exact .enter ⟨step, hname⟩ hhere hget hnode (ih h)
  | _ => cases h

theorem stride_stay {step : String} {rest : List String} (hdir : t.get? here = some .directory)
    (hsame : step = "" ∨ step = ".") :
    t.stride follow here (step :: rest) = t.stride follow here rest := by
  rw [stride, isDirectory_iff.2 hdir, if_neg (by decide), if_pos (by simpa using hsame)]

theorem stride_up {rest : List String} (hdir : t.get? here = some .directory) :
    t.stride follow here (".." :: rest) = t.stride follow here.dropLast rest := by
  rw [stride, isDirectory_iff.2 hdir, if_neg (by decide), if_neg (by decide), if_pos rfl]

/-- Nothing is entered below a file. -/
theorem eq_of_stride_file {bytes : List UInt8} {modified : Number.Binary64}
    (hfile : t.get? here = some (.file bytes modified)) (h : t.stride follow here steps = .ok s) :
    steps = [] ∧ s = .arrived (.taken here (.file bytes modified)) := by
  have hno : t.isDirectory here ≠ true := by
    rw [ne_eq, isDirectory_iff, hfile]
    nofun
  cases steps with
  | nil =>
    rw [stride, hfile] at h
    exact ⟨rfl, (Except.ok.inj h).symm⟩
  | cons step rest =>
    rw [stride, if_pos (by simpa using hno)] at h
    cases h

theorem stride_name {name : Name} {rest : List String} (hdir : t.get? here = some .directory) :
    t.stride follow here (name.val :: rest) =
      match t.get? (here ++ [name]) with
      | none =>
        if rest = [] || rest = [""] then .ok (.arrived (.free here name (rest ≠ [])))
        else .error .notFound
      | some (.link target) =>
        if rest = [] && !follow then .ok (.arrived (.taken (here ++ [name]) (.link target)))
        else
          .ok (.detour (if target.toList.head? = some '/' then [] else here)
            (stepsOf target ++ rest))
      | some _ => t.stride follow (here ++ [name]) rest := by
  obtain ⟨step, hname⟩ := name
  obtain ⟨hne, hdot, hup, -, -, hfits⟩ := id hname
  have hsame : ¬ (decide (step = "") || decide (step = ".")) = true := by simp [hne, hdot]
  have hstride := FileTree.stride.eq_def t follow here (step :: rest)
  dsimp only at hstride
  rw [isDirectory_iff.2 hdir, if_neg (by decide), if_neg hsame, if_neg hup,
    if_neg (Nat.not_lt.2 hfits), dif_pos hname] at hstride
  exact hstride

theorem Strides.stride (h : Strides t follow here steps s) :
    t.stride follow here steps = .ok s := by
  induction h with
  | stop hget => rw [FileTree.stride, hget]
  | stay hdir hsame _ ih => rw [stride_stay hdir hsame, ih]
  | up hdir _ ih => rw [stride_up hdir, ih]
  | enter name hdir hget hnode _ ih =>
    rw [stride_name hdir, hget]
    split
    · rename_i hnone
      cases hnone
    · rename_i target hlink
      exact absurd (Option.some.inj hlink) (hnode target)
    · exact ih
  | free name hdir hnone hlast =>
    rw [stride_name hdir, hnone]
    exact if_pos (by simpa using hlast)
  | link name hdir hlink hfollow =>
    rw [stride_name hdir, hlink, hfollow]
    rfl
  | detour name hdir hlink hfollow =>
    rw [stride_name hdir, hlink]
    refine if_neg ?_
    rcases hfollow with hrest | rfl
    · simp [hrest]
    · simp

theorem leads_of_walk (h : t.walk follow links here steps = .ok spot) :
    Leads t follow links here steps spot := by
  induction links generalizing here steps with
  | zero =>
    rw [walk] at h
    split at h
    · cases h
    · rename_i hstride
      obtain rfl := Except.ok.inj h
      exact .arrive (strides_of_stride hstride)
    · cases h
  | succ links ih =>
    rw [walk] at h
    split at h
    · cases h
    · rename_i hstride
      obtain rfl := Except.ok.inj h
      exact .arrive (strides_of_stride hstride)
    · rename_i hstride
      exact .turn (strides_of_stride hstride) (ih h)

theorem Leads.walk (h : Leads t follow links here steps spot) :
    t.walk follow links here steps = .ok spot := by
  induction h with
  | arrive hstrides => rw [FileTree.walk, hstrides.stride]
  | turn hstrides _ ih =>
    rw [FileTree.walk, hstrides.stride]
    exact ih

theorem walk_eq_ok_iff : t.walk follow links here steps = .ok spot ↔
    Leads t follow links here steps spot :=
  ⟨leads_of_walk, Leads.walk⟩

def Holds (t : FileTree) : Spot → Prop
  | .taken place node => t.get? place = some node
  | .free directory name _ => t.get? directory = some .directory ∧
    t.get? (directory ++ [name]) = none

theorem Strides.holds (h : Strides t follow here steps s) :
    ∀ spot, s = .arrived spot → t.Holds spot := by
  induction h with
  | stop hget =>
    rintro _ ⟨⟩
    exact hget
  | stay _ _ _ ih => exact ih
  | up _ _ ih => exact ih
  | enter _ _ _ _ _ ih => exact ih
  | free name hdir hnone _ =>
    rintro _ ⟨⟩
    exact ⟨hdir, hnone⟩
  | link name _ hlink _ =>
    rintro _ ⟨⟩
    exact hlink
  | detour =>
    rintro _ ⟨⟩

theorem Leads.holds (h : Leads t follow links here steps spot) : t.Holds spot := by
  induction h with
  | arrive hstrides => exact hstrides.holds _ rfl
  | turn _ _ ih => exact ih

/-- Not to follow a link at the end makes a difference only if there is one. -/
theorem Strides.unfollowed (h : Strides t true here steps s) : ∃ s', Strides t false here steps s' ∧
    (s' = s ∨ ∃ p target, s' = .arrived (.taken p (.link target))) := by
  induction h with
  | stop hget => exact ⟨_, .stop hget, Or.inl rfl⟩
  | stay hdir hsame _ ih =>
    obtain ⟨s', ih, hs⟩ := ih
    exact ⟨s', .stay hdir hsame ih, hs⟩
  | up hdir _ ih =>
    obtain ⟨s', ih, hs⟩ := ih
    exact ⟨s', .up hdir ih, hs⟩
  | enter name hdir hget hnode _ ih =>
    obtain ⟨s', ih, hs⟩ := ih
    exact ⟨s', .enter name hdir hget hnode ih, hs⟩
  | free name hdir hnone hlast => exact ⟨_, .free name hdir hnone hlast, Or.inl rfl⟩
  | link _ _ _ hfollow => cases hfollow
  | @detour here rest target name hdir hlink _ =>
    by_cases hrest : rest = []
    · subst hrest
      exact ⟨_, .link name hdir hlink rfl, Or.inr ⟨_, target, rfl⟩⟩
    · exact ⟨_, .detour name hdir hlink (Or.inl hrest), Or.inl rfl⟩

theorem Leads.unfollowed (h : Leads t true links here steps spot) :
    ∃ spot', Leads t false links here steps spot' ∧
      (spot' = spot ∨ ∃ p target, spot' = .taken p (.link target)) := by
  induction h with
  | arrive hstrides =>
    obtain ⟨s', hstrides, rfl | ⟨p, target, rfl⟩⟩ := hstrides.unfollowed
    · exact ⟨_, .arrive hstrides, Or.inl rfl⟩
    · exact ⟨_, .arrive hstrides, Or.inr ⟨p, target, rfl⟩⟩
  | turn hstrides _ ih =>
    obtain ⟨s', hstrides, rfl | ⟨p, target, rfl⟩⟩ := hstrides.unfollowed
    · obtain ⟨spot', ih, hspot⟩ := ih
      exact ⟨spot', .turn hstrides ih, hspot⟩
    · exact ⟨_, .arrive hstrides, Or.inr ⟨p, target, rfl⟩⟩

/-- To follow a link at the end makes a difference only if there is one. -/
theorem Strides.followed (h : Strides t false here steps s)
    (hs : ∀ p target, s ≠ .arrived (.taken p (.link target))) : Strides t true here steps s := by
  induction h with
  | stop hget => exact .stop hget
  | stay hdir hsame _ ih => exact .stay hdir hsame (ih hs)
  | up hdir _ ih => exact .up hdir (ih hs)
  | enter name hdir hget hnode _ ih => exact .enter name hdir hget hnode (ih hs)
  | free name hdir hnone hlast => exact .free name hdir hnone hlast
  | link => exact absurd rfl (hs _ _)
  | detour name hdir hlink _ => exact .detour name hdir hlink (Or.inr rfl)

theorem Leads.followed (h : Leads t false links here steps spot)
    (hspot : ∀ p target, spot ≠ .taken p (.link target)) : Leads t true links here steps spot := by
  induction h with
  | arrive hstrides =>
    refine .arrive (hstrides.followed ?_)
    intro p target heq
    exact hspot p target (Stride.arrived.inj heq)
  | turn hstrides _ ih => exact .turn (hstrides.followed fun p target => nofun) (ih hspot)

theorem Strides.directory (h : Strides t follow here steps s) :
    ∀ there more, s = .detour there more → t.get? there = some .directory := by
  induction h with
  | stop => rintro _ _ ⟨⟩
  | stay _ _ _ ih => exact ih
  | up _ _ ih => exact ih
  | enter _ _ _ _ _ ih => exact ih
  | free => rintro _ _ ⟨⟩
  | link => rintro _ _ ⟨⟩
  | detour name hdir =>
    rintro _ _ ⟨⟩
    split
    · rfl
    · exact hdir

theorem eq_last_or_ends {step last : String} {rest front : List String}
    (h : step :: rest = front ++ [last]) :
    step = last ∧ rest = [] ∨ ∃ front', rest = front' ++ [last] := by
  rcases List.cons_eq_append_iff.1 h with ⟨-, hlast⟩ | ⟨front', -, hrest⟩
  · obtain ⟨rfl, rfl⟩ := List.cons.inj hlast
    exact Or.inl ⟨rfl, rfl⟩
  · exact Or.inr ⟨front', hrest⟩

/-- A path whose last name may be that of an entry leads to a place of that name, if links at the
end are not followed. -/
theorem Strides.last (h : Strides t false here steps s) {last : String} (hne : last ≠ "")
    (hdot : last ≠ ".") (hdots : last ≠ "..") : ∀ front, steps = front ++ [last] →
      (∀ spot, s = .arrived spot → ∃ dir name, spot.place = dir ++ [name] ∧ name.val = last) ∧
      ∀ there more, s = .detour there more → ∃ front, more = front ++ [last] := by
  induction h with
  | stop =>
    intro front hsteps
    simp at hsteps
  | stay _ hsame _ ih =>
    intro front hsteps
    rcases eq_last_or_ends hsteps with ⟨rfl, -⟩ | ⟨front', hrest⟩
    · rcases hsame with rfl | rfl
      · exact absurd rfl hne
      · exact absurd rfl hdot
    · exact ih front' hrest
  | up _ _ ih =>
    intro front hsteps
    rcases eq_last_or_ends hsteps with ⟨rfl, -⟩ | ⟨front', hrest⟩
    · exact absurd rfl hdots
    · exact ih front' hrest
  | enter name _ _ _ hrest ih =>
    intro front hsteps
    rcases eq_last_or_ends hsteps with ⟨hname, rfl⟩ | ⟨front', hback⟩
    · cases hrest with
      | stop =>
        refine ⟨?_, nofun⟩
        rintro _ ⟨⟩
        exact ⟨_, name, rfl, hname⟩
    · exact ih front' hback
  | free name _ _ hends =>
    intro front hsteps
    refine ⟨?_, nofun⟩
    rintro _ ⟨⟩
    rcases eq_last_or_ends hsteps with ⟨hname, -⟩ | ⟨front', hback⟩
    · exact ⟨_, name, rfl, hname⟩
    · rcases hends with rfl | rfl
      · simp at hback
      · obtain rfl : last = "" := by simpa using (congrArg List.getLast? hback).symm
        exact absurd rfl hne
  | link name =>
    intro front hsteps
    refine ⟨?_, nofun⟩
    rintro _ ⟨⟩
    rcases eq_last_or_ends hsteps with ⟨hname, -⟩ | ⟨front', hback⟩
    · exact ⟨_, name, rfl, hname⟩
    · simp at hback
  | @detour here rest target name _ _ hfollow =>
    intro front hsteps
    refine ⟨by rintro _ ⟨⟩, ?_⟩
    rintro _ _ ⟨⟩
    rcases eq_last_or_ends hsteps with ⟨-, rfl⟩ | ⟨front', hback⟩
    · rcases hfollow with hrest | hfollow
      · exact absurd rfl hrest
      · cases hfollow
    · exact ⟨stepsOf target ++ front', by rw [hback, List.append_assoc]⟩

theorem Leads.last {last : String} (hne : last ≠ "") (hdot : last ≠ ".") (hdots : last ≠ "..")
    {front : List String} (h : Leads t false links here (front ++ [last]) spot) :
    ∃ dir name, spot.place = dir ++ [name] ∧ name.val = last := by
  generalize hsteps : front ++ [last] = steps at h
  induction h generalizing front with
  | arrive hstrides => exact (hstrides.last hne hdot hdots front hsteps.symm).1 _ rfl
  | turn hstrides _ ih =>
    obtain ⟨front', hmore⟩ := (hstrides.last hne hdot hdots front hsteps.symm).2 _ _ rfl
    exact ih hmore.symm

/-- A path that leads to a free name ends with it, or with a slash. -/
theorem Strides.getLast?_eq (h : Strides t false here steps s) :
    (∀ dir name slash, s = .arrived (.free dir name slash) →
      steps.getLast? = some name.val ∨ steps.getLast? = some "") ∧
    ∀ there more, s = .detour there more →
      ∃ last, steps.getLast? = some last ∧ more.getLast? = some last := by
  have hcons : ∀ {step : String} {rest : List String} {last : String},
      rest.getLast? = some last → (step :: rest).getLast? = some last := by
    intro step rest last hrest
    rw [List.getLast?_cons, hrest, Option.getD_some]
  have hlonger : ∀ {step : String} {rest : List String} {name : Name},
      rest.getLast? = some name.val ∨ rest.getLast? = some "" →
        (step :: rest).getLast? = some name.val ∨ (step :: rest).getLast? = some "" :=
    fun h => h.imp hcons hcons
  have hfurther : ∀ {step : String} {rest more : List String},
      (∃ last, rest.getLast? = some last ∧ more.getLast? = some last) →
        ∃ last, (step :: rest).getLast? = some last ∧ more.getLast? = some last := by
    rintro step rest more ⟨last, hrest, hmore⟩
    exact ⟨last, hcons hrest, hmore⟩
  induction h with
  | stop => exact ⟨nofun, nofun⟩
  | stay _ _ _ ih =>
    exact ⟨fun dir name slash hs => hlonger (ih.1 dir name slash hs),
      fun there more hs => hfurther (ih.2 there more hs)⟩
  | up _ _ ih =>
    exact ⟨fun dir name slash hs => hlonger (ih.1 dir name slash hs),
      fun there more hs => hfurther (ih.2 there more hs)⟩
  | enter _ _ _ _ _ ih =>
    exact ⟨fun dir name slash hs => hlonger (ih.1 dir name slash hs),
      fun there more hs => hfurther (ih.2 there more hs)⟩
  | free name _ _ hends =>
    refine ⟨?_, nofun⟩
    rintro _ _ _ ⟨⟩
    rcases hends with rfl | rfl
    · exact Or.inl rfl
    · exact Or.inr rfl
  | link => exact ⟨nofun, nofun⟩
  | @detour here rest target name _ _ hfollow =>
    refine ⟨nofun, ?_⟩
    rintro _ _ ⟨⟩
    obtain ⟨front, last, rfl⟩ : ∃ front last, rest = front ++ [last] := by
      rcases List.eq_nil_or_concat rest with rfl | ⟨front, last, hrest⟩
      · exact absurd rfl (hfollow.resolve_right Bool.false_ne_true)
      · exact ⟨front, last, by rw [hrest, List.concat_eq_append]⟩
    refine ⟨last, hcons List.getLast?_concat, ?_⟩
    rw [← List.append_assoc, List.getLast?_concat]

theorem Leads.getLast?_of_free {dir : Place} {name : Name} {slash : Bool}
    (h : Leads t false links here steps (.free dir name slash)) :
    steps.getLast? = some name.val ∨ steps.getLast? = some "" := by
  generalize hspot : Spot.free dir name slash = spot at h
  induction h with
  | arrive hstrides => exact hstrides.getLast?_eq.1 dir name slash (congrArg _ hspot.symm)
  | turn hstrides _ ih =>
    obtain ⟨last, hsteps, hmore⟩ := hstrides.getLast?_eq.2 _ _ rfl
    rw [hsteps, ← hmore]
    exact ih hspot

/-- Before a file was put at a place something led where it leads now, or it leads to the new file;
then it led to the free name if there was nothing. -/
def LedBack {α : Type} (t : FileTree) (q : Place) (arrive : Spot → α) (led : α → Prop) (now : α) :
    Prop :=
  led now ∨ (∃ node, now = arrive (.taken q node)) ∧
    (t.get? q = none → ∃ dir name, q = dir ++ [name] ∧ led (arrive (.free dir name false)))

theorem LedBack.imp {α : Type} {q : Place} {arrive : Spot → α} {led led' : α → Prop} {now : α}
    (hb : LedBack t q arrive led now) (h : ∀ a, led a → led' a) : LedBack t q arrive led' now := by
  rcases hb with hled | ⟨hnow, hfree⟩
  · exact Or.inl (h now hled)
  · refine Or.inr ⟨hnow, ?_⟩
    intro hnone
    obtain ⟨dir, name, hq, hled⟩ := hfree hnone
    exact ⟨dir, name, hq, h _ hled⟩

namespace Filed

variable {q : Place}

theorem exists_get? (hf : Filed q t t') {p : Place} {n : Node} (hget : t.get? p = some n)
    (hn : ∀ target, n ≠ .link target) : ∃ m, t'.get? p = some m ∧ ∀ target, m ≠ .link target := by
  by_cases hp : p = q
  · subst hp
    obtain ⟨bytes, modified, hfile⟩ := hf.file
    exact ⟨_, hfile, fun target => nofun⟩
  · exact ⟨n, (hf.off p hp).trans hget, hn⟩

/-- A path that led to a file, or to a free name that no slash follows, leads to the new file. All
other paths lead where they led. -/
theorem strides (hf : Filed q t t') (hlink : ∀ target, t.get? q ≠ some (.link target)) {node : Node}
    (hnode : t'.get? q = some node) (h : Strides t follow here steps s)
    (hslash : ∀ dir name, s ≠ .arrived (.free dir name true)) :
    Strides t' follow here steps (s.filed q node) := by
  induction h with
  | @stop here old hget =>
    by_cases hhere : here = q
    · subst hhere
      rw [Stride.filed, Spot.filed, if_pos (by rfl)]
      exact .stop hnode
    · rw [Stride.filed, Spot.filed, if_neg (by exact hhere)]
      exact .stop ((hf.off here hhere).trans hget)
  | stay hdir hsame _ ih => exact .stay (hf.get?_directory.2 hdir) hsame (ih hslash)
  | up hdir _ ih => exact .up (hf.get?_directory.2 hdir) (ih hslash)
  | enter name hdir hget hold _ ih =>
    obtain ⟨m, hget', hm⟩ := hf.exists_get? hget hold
    exact .enter name (hf.get?_directory.2 hdir) hget' hm (ih hslash)
  | @free here rest name hdir hnone hrest =>
    by_cases hplace : here ++ [name] = q
    · subst hplace
      obtain ⟨bytes, modified, hfile⟩ := hf.file
      -- A slash after the free name would ask the new file for an entry of its own.
      have hnil : rest = [] := by
        by_contra hne
        exact hslash here name (by rw [decide_eq_true hne])
      subst hnil
      rw [Stride.filed, Spot.filed, if_pos (by rfl)]
      obtain rfl := Option.some.inj (hfile.symm.trans hnode)
      exact .enter name (hf.get?_directory.2 hdir) hfile (fun target => nofun) (.stop hfile)
    · rw [Stride.filed, Spot.filed, if_neg (by exact hplace)]
      exact .free name (hf.get?_directory.2 hdir) ((hf.off _ hplace).trans hnone) hrest
  | @link here target name hdir hget hfollow =>
    have hplace : here ++ [name] ≠ q := by
      rintro rfl
      exact hlink target hget
    rw [Stride.filed, Spot.filed, if_neg (by exact hplace)]
    exact .link name (hf.get?_directory.2 hdir) ((hf.off _ hplace).trans hget) hfollow
  | @detour here rest target name hdir hget hfollow =>
    have hplace : here ++ [name] ≠ q := by
      rintro rfl
      exact hlink target hget
    exact .detour name (hf.get?_directory.2 hdir) ((hf.off _ hplace).trans hget) hfollow

theorem leads (hf : Filed q t t') (hlink : ∀ target, t.get? q ≠ some (.link target)) {node : Node}
    (hnode : t'.get? q = some node) (h : Leads t follow links here steps spot)
    (hslash : ∀ dir name, spot ≠ .free dir name true) :
    Leads t' follow links here steps (spot.filed q node) := by
  induction h with
  | arrive hstrides =>
    refine .arrive (hf.strides hlink hnode hstrides ?_)
    intro dir name hspot
    exact hslash dir name (by cases hspot; rfl)
  | turn hstrides _ ih =>
    exact .turn (hf.strides hlink hnode hstrides fun dir name => nofun) (ih hslash)

/-- Where a path led while a link at its end was not followed, it leads to the new file; else it
leads nowhere. On the way it takes the same turns. -/
theorem stride_to (hf : Filed q t t') {node : Node} (hnode : t'.get? q = some node)
    (h : Strides t false here steps s) {s' : Stride} (h' : t'.stride true here steps = .ok s') :
    (∀ spot, s = .arrived spot → spot.place = q → s' = .arrived (.taken q node)) ∧
      ∀ there more, s = .detour there more → s' = .detour there more := by
  obtain ⟨bytes, modified, hfile⟩ := hf.file
  obtain rfl := Option.some.inj (hfile.symm.trans hnode)
  induction h with
  | @stop here old hget =>
    constructor
    · rintro _ ⟨⟩ rfl
      exact (eq_of_stride_file hfile h').2
    · rintro there more ⟨⟩
  | stay hdir hsame _ ih =>
    rw [stride_stay (hf.get?_directory.2 hdir) hsame] at h'
    exact ih h'
  | up hdir _ ih =>
    rw [stride_up (hf.get?_directory.2 hdir)] at h'
    exact ih h'
  | @enter here rest s old name hdir hget hold _ ih =>
    apply ih
    rw [stride_name (hf.get?_directory.2 hdir)] at h'
    by_cases hplace : here ++ [name] = q
    · rw [hplace, hfile] at h'
      rw [hplace]
      exact h'
    · rw [hf.off _ hplace, hget] at h'
      split at h'
      · rename_i hnone
        cases hnone
      · rename_i target hlink
        exact absurd (Option.some.inj hlink) (hold target)
      · exact h'
  | @free here rest name hdir hnone hrest =>
    constructor
    · rintro _ ⟨⟩ hspot
      have hplace : here ++ [name] = q := hspot
      rw [stride_name (hf.get?_directory.2 hdir), hplace, hfile] at h'
      exact (eq_of_stride_file hfile h').2
    · rintro there more ⟨⟩
  | @link here target name hdir hget hfollow =>
    constructor
    · rintro _ ⟨⟩ hspot
      have hplace : here ++ [name] = q := hspot
      rw [stride_name (hf.get?_directory.2 hdir), hplace, hfile] at h'
      exact (eq_of_stride_file hfile h').2
    · rintro there more ⟨⟩
  | @detour here rest target name hdir hget hfollow =>
    have hrest : rest ≠ [] := by simpa using hfollow
    constructor
    · rintro spot ⟨⟩
    · rintro _ _ ⟨⟩
      rw [stride_name (hf.get?_directory.2 hdir)] at h'
      by_cases hplace : here ++ [name] = q
      · rw [hplace, hfile] at h'
        exact absurd (eq_of_stride_file hfile h').1 hrest
      · rw [hf.off _ hplace, hget] at h'
        simp only [hrest, decide_false, Bool.false_and, Bool.false_eq_true, if_false] at h'
        exact (Except.ok.inj h').symm

theorem leads_to (hf : Filed q t t') {node : Node} (hnode : t'.get? q = some node)
    (h : Leads t false links here steps spot) (hspot : spot.place = q) {spot' : Spot}
    (h' : Leads t' true links here steps spot') : spot' = .taken q node := by
  induction h with
  | arrive hstrides =>
    cases h' with
    | arrive hstrides' =>
      exact Stride.arrived.inj ((hf.stride_to hnode hstrides hstrides'.stride).1 _ rfl hspot)
    | turn hstrides' _ => cases (hf.stride_to hnode hstrides hstrides'.stride).1 _ rfl hspot
  | turn hstrides _ ih =>
    cases h' with
    | arrive hstrides' => cases (hf.stride_to hnode hstrides hstrides'.stride).2 _ _ rfl
    | turn hstrides' hmore =>
      cases (hf.stride_to hnode hstrides hstrides'.stride).2 _ _ rfl
      exact ih hspot hmore

theorem strides_back (hf : Filed q t t') (hc : t'.Connected) (h : Strides t' follow here steps s)
    (hhere : here ≠ q) : LedBack t q .arrived (Strides t follow here steps) s := by
  induction h with
  | @stop here node hget => exact Or.inl (.stop ((hf.off here hhere).symm.trans hget))
  | stay hdir hsame _ ih =>
    have hdir := hf.get?_directory.1 hdir
    exact (ih hhere).imp fun _ => .stay hdir hsame
  | @up here rest s hdir _ ih =>
    have hup : here.dropLast ≠ q := hf.ne_of_get? (hc.get?_dropLast hdir) (by simp)
    have hdir := hf.get?_directory.1 hdir
    exact (ih hup).imp fun _ => .up hdir
  | @enter here rest s node name hdir hget hold hrest ih =>
    have hdir := hf.get?_directory.1 hdir
    by_cases hplace : here ++ [name] = q
    · subst hplace
      obtain ⟨bytes, modified, hfile⟩ := hf.file
      have hno : t'.get? (here ++ [name]) ≠ some .directory := by
        rw [hfile]
        nofun
      -- All steps but the end start in a directory, so the new file is the end.
      cases hrest with
      | stop =>
        refine Or.inr ⟨⟨_, rfl⟩, ?_⟩
        intro hnone
        exact ⟨here, name, rfl, .free name hdir hnone (Or.inl rfl)⟩
      | stay hthere => exact absurd hthere hno
      | up hthere => exact absurd hthere hno
      | enter _ hthere => exact absurd hthere hno
      | free _ hthere => exact absurd hthere hno
      | link _ hthere => exact absurd hthere hno
      | detour _ hthere => exact absurd hthere hno
    · rw [hf.off _ hplace] at hget
      exact (ih hplace).imp fun _ => .enter name hdir hget hold
  | @free here rest name hdir hnone hrest =>
    have hplace : here ++ [name] ≠ q := hf.ne_of_get? hnone (by simp)
    rw [hf.off _ hplace] at hnone
    exact Or.inl (.free name (hf.get?_directory.1 hdir) hnone hrest)
  | @link here target name hdir hget hfollow =>
    have hplace : here ++ [name] ≠ q := hf.ne_of_get? hget (by simp)
    rw [hf.off _ hplace] at hget
    exact Or.inl (.link name (hf.get?_directory.1 hdir) hget hfollow)
  | @detour here rest target name hdir hget hfollow =>
    have hplace : here ++ [name] ≠ q := hf.ne_of_get? hget (by simp)
    rw [hf.off _ hplace] at hget
    exact Or.inl (.detour name (hf.get?_directory.1 hdir) hget hfollow)

theorem leads_back (hf : Filed q t t') (hc : t'.Connected)
    (h : Leads t' follow links here steps spot) (hhere : here ≠ q) :
    LedBack t q id (Leads t follow links here steps) spot := by
  induction h with
  | arrive hstrides =>
    rcases hf.strides_back hc hstrides hhere with hback | ⟨⟨node, hspot⟩, hfree⟩
    · exact Or.inl (.arrive hback)
    · refine Or.inr ⟨⟨node, by cases hspot; rfl⟩, ?_⟩
      intro hnone
      obtain ⟨dir, name, hq, hback⟩ := hfree hnone
      exact ⟨dir, name, hq, .arrive hback⟩
  | turn hstrides _ ih =>
    have hthere := hf.ne_of_get? (hstrides.directory _ _ rfl) (by simp)
    rcases hf.strides_back hc hstrides hhere with hback | ⟨⟨node, hspot⟩, -⟩
    · exact (ih hthere).imp fun _ => .turn hback
    · cases hspot

end Filed

end FileTree
end ReminderScan
