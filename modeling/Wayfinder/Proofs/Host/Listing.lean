import Mathlib.Data.List.Basic
import Wayfinder.Host.FileTree
import Wayfinder.Proofs.Doc.Members

/-! The order in which a directory lists its names is that of the entries of the tree, and may be
any (`exists_reordered_names`). To put the entries in another order changes nothing else: every path
leads where it led, and every file reads as it did. -/
namespace Wayfinder
namespace FileTree
variable {t t' : FileTree}

/-- The same files and directories, listed in another order. -/
structure Reordered (t t' : FileTree) : Prop where
  workingDirectory : t'.workingDirectory = t.workingDirectory
  entries : t'.entries.Perm t.entries
  places : (t.entries.map (·.1)).Nodup

theorem nodup_places_put (h : (t.entries.map (·.1)).Nodup) (place : Place) (e : FileEntry) :
    ((t.put place e).entries.map (·.1)).Nodup := by
  rw [put]
  split
  · next =>
    have hplaces : (t.entries.map fun old => if old.1 == place then (place, e) else old).map (·.1) =
        t.entries.map (·.1) := by
      rw [List.map_map]
      refine List.map_congr_left fun old _ => ?_
      by_cases hold : old.1 = place <;> simp [hold]
    exact hplaces ▸ h
  · next hnot =>
    have hnew : place ∉ t.entries.map (·.1) := by
      intro hmem
      obtain ⟨old, hold, hplace⟩ := List.mem_map.1 hmem
      exact hnot (List.any_eq_true.2 ⟨old, hold, beq_iff_eq.2 hplace⟩)
    have hlast : ((t.entries ++ [(place, e)]).map (·.1)).Perm (place :: t.entries.map (·.1)) := by
      rw [List.map_append]
      exact List.perm_append_singleton place _
    exact hlast.nodup_iff.2 (List.nodup_cons.2 ⟨hnew, h⟩)

/-- Nothing that is written makes a tree list a place twice. -/
theorem nodup_places_update {path : String} {change : ByteArray → ByteArray}
    (h : (t.entries.map (·.1)).Nodup) (hupdate : t.update path change = .ok t') :
    (t'.entries.map (·.1)).Nodup := by
  rw [update] at hupdate
  cases hplace : t.locateFile path with
  | error fault =>
    rw [hplace] at hupdate
    cases hupdate
  | ok place =>
    simp only [hplace, bind, Except.bind] at hupdate
    split at hupdate <;> cases hupdate <;> exact nodup_places_put h place _

theorem nodup_eraseDups {α : Type} [BEq α] [LawfulBEq α] (l : List α) : l.eraseDups.Nodup := by
  match l with
  | [] => exact .nil
  | a :: l =>
    rw [List.eraseDups_cons]
    refine List.nodup_cons.2 ⟨fun h => ?_, nodup_eraseDups _⟩
    simpa using List.mem_eraseDups.1 h
termination_by l.length
decreasing_by exact Nat.lt_succ_of_le (List.length_filter_le _ _)

theorem eraseDups_sublist {α : Type} [BEq α] [LawfulBEq α] (l : List α) :
    l.eraseDups.Sublist l := by
  match l with
  | [] => exact .slnil
  | a :: l =>
    rw [List.eraseDups_cons]
    exact ((eraseDups_sublist _).trans List.filter_sublist).cons_cons a
termination_by l.length
decreasing_by exact Nat.lt_succ_of_le (List.length_filter_le _ _)

namespace Reordered

theorem symm (h : t.Reordered t') : t'.Reordered t where
  workingDirectory := h.workingDirectory.symm
  entries := h.entries.symm
  places := (h.entries.map _).nodup_iff.2 h.places

theorem entry_eq (h : t.Reordered t') (place : Place) : t'.entry? place = t.entry? place := by
  unfold entry?
  rw [lookup_of_perm h.places h.entries.symm, h.workingDirectory, h.entries.any_eq]

theorem requireDirectory_eq (h : t.Reordered t') (place : Place) :
    t'.requireDirectory place = t.requireDirectory place := by
  rw [requireDirectory, requireDirectory, h.entry_eq]

theorem walk_eq (h : t.Reordered t') (place : Place) (names : List String) :
    t'.walk place names = t.walk place names := by
  induction names generalizing place with
  | nil => rfl
  | cons name rest ih =>
    rw [walk, walk, h.requireDirectory_eq]
    exact bind_congr fun _ => ih _

theorem locate_eq (h : t.Reordered t') (path : String) : t'.locate path = t.locate path := by
  rw [locate, locate]
  cases Path.read? path with
  | none => rfl
  | some p => simp only [walkPath, h.walk_eq, h.workingDirectory, h.requireDirectory_eq]

theorem read_eq (h : t.Reordered t') (path : String) : t'.read path = t.read path := by
  simp only [read, h.locate_eq, h.entry_eq]

theorem namesAt_perm (h : t.Reordered t') (place : Place) :
    (t'.namesAt place).Perm (t.namesAt place) := by
  have hbelow := h.entries.filterMap (nameBelow? place ·.1)
  refine (List.perm_ext_iff_of_nodup (nodup_eraseDups _) (nodup_eraseDups _)).2 fun name => ?_
  rw [List.mem_eraseDups, List.mem_eraseDups, hbelow.mem_iff]

/-- The names of a directory are the same ones; what else there is to be said of a path stays. -/
theorem names_ok {path : String} {names? : Option (List String)} (h : t.Reordered t')
    (hnames : t.names path = .ok names?) :
    ∃ names?', t'.names path = .ok names?' ∧ Option.Rel List.Perm names?' names? := by
  simp only [names, h.locate_eq, h.entry_eq] at hnames ⊢
  cases hplace : t.locate path with
  | error fault =>
    rw [hplace] at hnames
    cases hnames
  | ok place =>
    simp only [hplace, bind, Except.bind] at hnames ⊢
    cases hentry : t.entry? place with
    | none =>
      rw [hentry] at hnames
      cases hnames
    | some e =>
      rw [hentry] at hnames
      cases e <;> cases hnames
      · exact ⟨_, rfl, .some (h.namesAt_perm place)⟩
      · exact ⟨_, rfl, .none⟩

end Reordered

/-- A directory may list its names in any order. -/
theorem exists_reordered_names (hplaces : (t.entries.map (·.1)).Nodup) {place : Place}
    {names : List String} (hnames : names.Perm (t.namesAt place)) :
    ∃ t', t.Reordered t' ∧ t'.namesAt place = names := by
  let rank (e : Place × FileEntry) : Nat :=
    (nameBelow? place e.1).elim 0 fun name => names.idxOf name
  let t' : FileTree := { t with entries := t.entries.mergeSort (rank · ≤ rank ·) }
  have ht : t.Reordered t' := ⟨rfl, List.mergeSort_perm _ _, hplaces⟩
  refine ⟨t', ht, ?_⟩
  have hperm : (t'.namesAt place).Perm names := (ht.namesAt_perm place).trans hnames.symm
  have hnodup : names.Nodup := hnames.nodup_iff.2 (nodup_eraseDups _)
  have hranked : t'.entries.Pairwise fun e e' => rank e ≤ rank e' := by
    refine (List.pairwise_mergeSort (fun a b c hab hbc => ?_) (fun a b => ?_) t.entries).imp
      of_decide_eq_true
    · exact decide_eq_true (Nat.le_trans (of_decide_eq_true hab) (of_decide_eq_true hbc))
    · simpa using Nat.le_total (rank a) (rank b)
  have hsorted : (t'.namesAt place).Pairwise fun a b => names.idxOf a ≤ names.idxOf b := by
    refine (List.pairwise_filterMap.2 (hranked.imp fun {e e'} h a ha b hb => ?_)).sublist
      (eraseDups_sublist _)
    simpa [rank, ha, hb] using h
  have hlisted : names.Pairwise fun a b => names.idxOf a ≤ names.idxOf b := by
    refine List.pairwise_iff_getElem.2 fun i j hi hj hij => ?_
    rw [hnodup.idxOf_getElem, hnodup.idxOf_getElem]
    exact Nat.le_of_lt hij
  refine List.Perm.eq_of_pairwise (fun a b ha _ hab hba => ?_) hsorted hlisted hperm
  exact (List.idxOf_inj (hperm.mem_iff.1 ha)).1 (Nat.le_antisymm hab hba)

end FileTree
end Wayfinder
