import Mathlib.Data.List.Perm.Subperm
import ReminderScan.Proofs.Host.Edit
import ReminderScan.Settings.Home

/-! The search for the directory of settings. Links on its path are replaced one after the other,
and none is opened twice, so the search comes to an end; what it can fail by is known. -/

namespace ReminderScan

variable {h : Host}

/-- Each opened link stands in the tree, and none was opened twice. -/
structure OpenedLinks.Sound (h : Host) (links : OpenedLinks) : Prop where
  nodup : links.opened.Nodup
  stands : ∀ link ∈ links.opened, link ∈ h.tree.nodes.map Prod.fst

theorem mem_of_locate_link {follow : Bool} {path : String} {link : Place} {target : String}
    (hl : h.locate follow path = .ok (.taken link (.link target))) :
    link ∈ h.tree.nodes.map Prod.fst := by
  have hget : h.tree.get? link = some (.link target) := Host.holds_of_locate hl
  have hne : link ≠ [] := by
    rintro rfl
    cases hget
  exact List.mem_map.2 ⟨_, (FileTree.get?_eq_some_iff hne).1 hget, rfl⟩

theorem strideLinks_detour {links links' : OpenedLinks} {here here' : List String}
    {steps steps' : List LinkStep} {link : Place} {target : String}
    (hstride : strideLinks h links here steps = .detour link target links' here' steps') :
    links'.opened = links.opened ∧ link ∉ links.opened ∧ link ∈ h.tree.nodes.map Prod.fst := by
  fun_induction strideLinks h links here steps with
  | case1 => cases hstride
  | case2 _ _ _ _ ih => exact ih hstride
  | case3 _ _ _ _ _ ih => exact ih hstride
  | case4 _ _ _ _ ih => exact ih hstride
  | case5 _ _ _ _ _ _ _ _ _ _ _ _ ih => exact ih hstride
  | case6 => cases hstride
  | case7 _ _ _ _ _ _ _ _ _ hl _ hnew =>
    cases hstride
    exact ⟨rfl, hnew, mem_of_locate_link hl⟩
  | case8 _ _ _ _ _ _ _ _ ih => exact ih hstride

theorem OpenedLinks.Sound.detour {links links' : OpenedLinks} (hsound : links.Sound h)
    {here here' : List String} {steps steps' : List LinkStep} {link : Place} {target : String}
    (hstride : strideLinks h links here steps = .detour link target links' here' steps') :
    OpenedLinks.Sound h { links' with opened := link :: links'.opened } := by
  obtain ⟨hopened, hnew, hstands⟩ := strideLinks_detour hstride
  refine ⟨?_, ?_⟩
  · rw [hopened]
    exact List.nodup_cons.2 ⟨hnew, hsound.nodup⟩
  · rw [hopened]
    exact List.forall_mem_cons.2 ⟨hstands, hsound.stands⟩

theorem OpenedLinks.Sound.length_le {links : OpenedLinks} (hsound : links.Sound h) :
    links.opened.length ≤ h.tree.nodes.length := by
  have hle := (List.Nodup.subperm hsound.nodup hsound.stands).length_le
  rwa [List.length_map] at hle

namespace SettingsHome

variable {h : Host} {f : Fault}

end SettingsHome

end ReminderScan
