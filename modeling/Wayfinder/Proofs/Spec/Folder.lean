import Mathlib.Data.List.Nodup
import Mathlib.Data.List.Perm.Basic
import Wayfinder.Host.Workspace
import Wayfinder.Proofs.Host.Listing
import Wayfinder.Sample.Shelf

/-! Specs from a directory do not depend on the order in which it lists its files, except for specs
of one name: these stay in that order. -/
namespace Wayfinder
namespace Spec

/-- The specs in order of their names, those of one name as they were. -/
structure Arranged (held specs : List Spec) : Prop where
  perm : specs.Perm held
  sorted : specs.Pairwise (·.name ≤ ·.name)
  stable : ∀ name, specs.filter (·.name = name) = held.filter (·.name = name)

theorem arranged_sortByName (held : List Spec) : Arranged held (sortByName held) := by
  have htrans (a b c : Spec) (hab : decide (a.name ≤ b.name) = true)
      (hbc : decide (b.name ≤ c.name) = true) : decide (a.name ≤ c.name) = true := by
    simp only [decide_eq_true_eq] at hab hbc ⊢
    exact String.le_trans hab hbc
  have htotal (a b : Spec) : (decide (a.name ≤ b.name) || decide (b.name ≤ a.name)) = true := by
    simpa using String.le_total a.name b.name
  have hperm : (sortByName held).Perm held := List.mergeSort_perm _ _
  refine ⟨hperm, ?_, fun name => ?_⟩
  · exact (List.pairwise_mergeSort htrans htotal held).imp of_decide_eq_true
  · have hties : (held.filter (·.name = name)).Pairwise
        fun a b => decide (a.name ≤ b.name) = true := by
      refine List.pairwise_of_forall_mem_list fun a ha b hb => ?_
      rw [of_decide_eq_true (List.mem_filter.1 ha).2, of_decide_eq_true (List.mem_filter.1 hb).2]
      exact decide_eq_true (String.le_refl name)
    have hsublist : (held.filter (·.name = name)).Sublist (sortByName held) :=
      List.sublist_mergeSort htrans htotal hties List.filter_sublist
    have hfilter := hsublist.filter (·.name = name)
    simp only [List.filter_filter, Bool.and_self] at hfilter
    exact (hfilter.eq_of_length (hperm.filter _).length_eq.symm).symm

theorem mem_of_filter_eq {specs specs' : List Spec} {s : Spec}
    (hties : ∀ name, specs.filter (·.name = name) = specs'.filter (·.name = name))
    (hs : s ∈ specs) : s ∈ specs' := by
  have hsame : s ∈ specs.filter (·.name = s.name) :=
    List.mem_filter.2 ⟨hs, decide_eq_true rfl⟩
  rw [hties] at hsame
  exact List.mem_of_mem_filter hsame

theorem name_le_of_mem {a s : Spec} {specs : List Spec}
    (h : (a :: specs).Pairwise (·.name ≤ ·.name)) (hs : s ∈ a :: specs) : a.name ≤ s.name := by
  obtain rfl | hs := List.mem_cons.1 hs
  · exact String.le_refl _
  · exact List.rel_of_pairwise_cons h hs

/-- Specs in order of their names are known by those of each name. -/
theorem eq_of_filter_eq {specs specs' : List Spec} (h : specs.Pairwise (·.name ≤ ·.name))
    (h' : specs'.Pairwise (·.name ≤ ·.name))
    (hties : ∀ name, specs.filter (·.name = name) = specs'.filter (·.name = name)) :
    specs = specs' := by
  induction specs generalizing specs' with
  | nil =>
    refine (List.eq_nil_iff_forall_not_mem.2 fun s hs => ?_).symm
    exact List.not_mem_nil (mem_of_filter_eq (fun name => (hties name).symm) hs)
  | cons a specs ih =>
    have ha : a ∈ specs' := mem_of_filter_eq hties List.mem_cons_self
    cases specs' with
    | nil => cases ha
    | cons b specs' =>
      have hb : b ∈ a :: specs :=
        mem_of_filter_eq (fun name => (hties name).symm) List.mem_cons_self
      have hname : b.name = a.name :=
        String.le_antisymm (name_le_of_mem h' ha) (name_le_of_mem h hb)
      -- So each of them is the first of its name.
      have hfirst := hties a.name
      simp only [List.filter_cons, hname, decide_true, if_true] at hfirst
      obtain ⟨rfl, -⟩ := List.cons.inj hfirst
      refine congrArg (a :: ·) (ih h.of_cons h'.of_cons fun name => ?_)
      have hrest := hties name
      by_cases hkey : a.name = name
      · simpa [List.filter_cons, hkey] using hrest
      · simpa [List.filter_cons, hkey] using hrest

theorem Arranged.eq_iff {held held' specs specs' : List Spec} (h : Arranged held specs)
    (h' : Arranged held' specs') :
    specs = specs' ↔ ∀ name, held.filter (·.name = name) = held'.filter (·.name = name) := by
  constructor
  · rintro rfl name
    rw [← h.stable, h'.stable]
  · intro hties
    refine eq_of_filter_eq h.sorted h'.sorted fun name => ?_
    rw [h.stable, h'.stable, hties]

theorem Arranged.eq_of_nodup {held held' specs specs' : List Spec} (h : Arranged held specs)
    (h' : Arranged held' specs') (hperm : held'.Perm held) (hnames : (held.map (·.name)).Nodup) :
    specs = specs' := by
  refine List.Perm.eq_of_pairwise (fun a b ha hb hab hba => ?_) h.sorted h'.sorted
    (h.perm.trans (hperm.symm.trans h'.perm.symm))
  have hb := hperm.mem_iff.1 (h'.perm.mem_iff.1 hb)
  exact List.inj_on_of_nodup_map hnames (h.perm.mem_iff.1 ha) hb (String.le_antisymm hab hba)

def inFile (t : FileTree) (path : String) : Except SpecError Spec :=
  ofFile ((t.read path).bind Host.decodeText)

/-- The specs at a path: the one in a file, or one for each YAML file of a directory, as it lists
them. -/
inductive Held (t : FileTree) (path : String) : List Spec → Prop
  | file {s : Spec} (hnames : t.names path = .ok none) (hs : inFile t path = .ok s) :
      Held t path [s]
  | directory {names : List String} {specs : List Spec} (hnames : t.names path = .ok (some names))
      (hspecs : List.Forall₂ (fun name s => inFile t (pathWithin path name) = .ok s)
        (names.filter isYamlName) specs) : Held t path specs

theorem inFile_reordered {t t' : FileTree} (h : t.Reordered t') (path : String) :
    inFile t' path = inFile t path := by
  rw [inFile, inFile, h.read_eq]

theorem Held.reordered {t t' : FileTree} {path : String} {held : List Spec}
    (h : Held t path held) (ht : t.Reordered t') :
    ∃ held', Held t' path held' ∧ held'.Perm held := by
  cases h with
  | @file s hnames hs =>
    obtain ⟨_, hnames', hnone⟩ := ht.names_ok hnames
    cases hnone
    exact ⟨[s], .file hnames' ((inFile_reordered ht path).trans hs), .refl _⟩
  | @directory names _ hnames hspecs =>
    obtain ⟨_, hnames', hsome⟩ := ht.names_ok hnames
    cases hsome with
    | @some names' _ hperm =>
      -- Names in another order give their specs in that order.
      obtain ⟨held', hspecs', hperm'⟩ := List.perm_comp_forall₂ (hperm.filter isYamlName) hspecs
      simp only [← inFile_reordered ht] at hspecs'
      exact ⟨held', .directory hnames' hspecs', hperm'⟩

theorem mapM_eq_ok_iff {α β ε : Type} {f : α → Except ε β} {l : List α} {bs : List β} :
    l.mapM f = .ok bs ↔ List.Forall₂ (fun a b => f a = .ok b) l bs := by
  induction l generalizing bs with
  | nil => simp [pure, Except.pure, eq_comm]
  | cons a l ih =>
    rw [List.mapM_cons, List.forall₂_cons_left_iff]
    cases f a with
    | error err => simp [bind, Except.bind]
    | ok b =>
      cases hl : l.mapM f with
      | error err => simp [bind, Except.bind, ← ih, hl]
      | ok bs' => simp [bind, Except.bind, pure, Except.pure, ← ih, hl, eq_comm]

theorem run_readFolder (path : String) (names : List String) (w : Workspace) :
    (readFolder path names : StateM Workspace _).run w =
      ((names.filter isYamlName).map fun name =>
        (name, (w.files.read (pathWithin path name)).bind Host.decodeText), w) := by
  rw [readFolder]
  induction names.filter isYamlName with
  | nil => rfl
  | cons name names ih =>
    rw [List.mapM_cons]
    exact congrArg (fun r : List FolderEntry × Workspace => ((name, _) :: r.1, r.2)) ih

theorem ofFolder_map (read : String → Except FileFault String) (names : List String) :
    ofFolder ((names.filter isYamlName).map fun name => (name, read name)) =
      sortByName <$> (names.filter isYamlName).mapM fun name => ofFile (read name) := by
  have hyaml : ((names.filter isYamlName).map fun name => (name, read name)).filter
      (isYamlName ·.1) = (names.filter isYamlName).map fun name => (name, read name) := by
    rw [List.filter_map]
    exact congrArg _ (List.filter_eq_self.2 fun name hname => (List.mem_filter.1 hname).2)
  rw [ofFolder, hyaml, List.mapM_map]
  rfl

def specsAt (t : FileTree) (path : String) : Except SpecError (List Spec) :=
  match t.names path with
  | .error fault => .error (.unreadable fault)
  | .ok none => (inFile t path).map ([·])
  | .ok (some names) => (names.filter isYamlName).mapM fun name => inFile t (pathWithin path name)

theorem specsAt_eq_ok_iff {t : FileTree} {path : String} {held : List Spec} :
    specsAt t path = .ok held ↔ Held t path held := by
  constructor
  · intro h
    rw [specsAt] at h
    split at h
    · cases h
    · next hnames =>
      cases hs : inFile t path with
      | error err =>
        rw [hs] at h
        cases h
      | ok s =>
        rw [hs] at h
        cases h
        exact .file hnames hs
    · next hnames => exact .directory hnames (mapM_eq_ok_iff.1 h)
  · intro h
    cases h with
    | file hnames hs =>
      rw [specsAt, hnames, hs]
      rfl
    | directory hnames hspecs =>
      rw [specsAt, hnames]
      exact mapM_eq_ok_iff.2 hspecs

theorem Held.unique {t : FileTree} {path : String} {held held' : List Spec} (h : Held t path held)
    (h' : Held t path held') : held = held' := by
  rw [← specsAt_eq_ok_iff] at h h'
  exact Except.ok.inj (h.symm.trans h')

/-- Files are read in the order in which they are listed; the order by name comes after that. -/
theorem run_load (path : String) (w : Workspace) :
    (load path : StateM Workspace _).run w = (sortByName <$> specsAt w.files path, w) := by
  have hnames : (Host.names path : StateM Workspace _).run w = (w.files.names path, w) := rfl
  rw [load, StateT.run_bind, hnames, specsAt]
  cases w.files.names path with
  | error fault => rfl
  | ok names? =>
    cases names? with
    | none =>
      change ((inFile w.files path).map ([·]), w) = _
      cases inFile w.files path with
      | error err => rfl
      | ok s => exact congrArg (fun specs => (Except.ok specs, w)) (List.mergeSort_singleton s).symm
    | some names =>
      have hfolder := ofFolder_map
        (fun name => (w.files.read (pathWithin path name)).bind Host.decodeText) names
      change (ofFolder ((readFolder path names : StateM Workspace _).run w).1,
        ((readFolder path names : StateM Workspace _).run w).2) = _
      rw [run_readFolder, hfolder]
      rfl

theorem run_load_of_held {path : String} {w : Workspace} {held : List Spec}
    (h : Held w.files path held) :
    (load path : StateM Workspace _).run w = (.ok (sortByName held), w) := by
  rw [run_load, specsAt_eq_ok_iff.2 h]
  rfl

/-- If no name comes twice, then it does not matter at all how the files are listed. -/
theorem run_load_of_nodup {path : String} {w w' : Workspace} {held : List Spec}
    (h : w.files.Reordered w'.files) (hheld : Held w.files path held)
    (hnames : (held.map (·.name)).Nodup) :
    (load path : StateM Workspace _).run w' = (.ok (sortByName held), w') := by
  obtain ⟨held', hheld', hperm⟩ := hheld.reordered h
  rw [run_load_of_held hheld']
  rw [(arranged_sortByName held).eq_of_nodup (arranged_sortByName held') hperm hnames]

end Spec

open Spec

/-- How the files of a directory are listed decides nothing but the order of specs of one name. -/
theorem load_reordered {w w' : Workspace} (h : w.files.Reordered w'.files) (path : String) :
    ((∃ err, (Spec.load path : StateM Workspace _).run w = (.error err, w)) ∧
      ∃ err, (Spec.load path : StateM Workspace _).run w' = (.error err, w')) ∨
    ∃ held held' specs specs',
      Held w.files path held ∧ Held w'.files path held' ∧
      (Spec.load path : StateM Workspace _).run w = (.ok specs, w) ∧
      (Spec.load path : StateM Workspace _).run w' = (.ok specs', w') ∧
      Arranged held specs ∧ Arranged held' specs' ∧ specs.Perm specs' ∧
      (specs = specs' ↔
        ∀ name, held.filter (·.name = name) = held'.filter (·.name = name)) := by
  cases hheld : specsAt w.files path with
  | ok held =>
    have hheld := specsAt_eq_ok_iff.1 hheld
    obtain ⟨held', hheld', hperm⟩ := hheld.reordered h
    have hspecs := arranged_sortByName held
    have hspecs' := arranged_sortByName held'
    exact .inr ⟨held, held', _, _, hheld, hheld', run_load_of_held hheld, run_load_of_held hheld',
      hspecs, hspecs', hspecs.perm.trans (hperm.symm.trans hspecs'.perm.symm),
      hspecs.eq_iff hspecs'⟩
  | error err =>
    cases hheld' : specsAt w'.files path with
    | error err' =>
      rw [run_load, run_load, hheld, hheld']
      exact .inl ⟨⟨err, rfl⟩, err', rfl⟩
    | ok held' =>
      obtain ⟨held, hheld'', -⟩ := (specsAt_eq_ok_iff.1 hheld').reordered h.symm
      cases hheld.symm.trans (specsAt_eq_ok_iff.2 hheld'')

namespace Shelf
variable {one two : String} {s s' : Spec}

theorem reordered (one two : String) : (files one two).Reordered (turned one two) where
  workingDirectory := rfl
  entries := .swap _ _ _
  places := by
    change [["specs", "1.yaml"], ["specs", "2.yaml"]].Nodup
    decide

theorem inFile_first (h : Spec.ofYaml? one = some s) :
    inFile (files one two) (pathWithin "specs" "1.yaml") = .ok s := by
  rw [inFile, read_first, Except.bind, Host.decodeText_toUTF8, ofFile, h]

theorem inFile_second (h : Spec.ofYaml? two = some s) :
    inFile (files one two) (pathWithin "specs" "2.yaml") = .ok s := by
  rw [inFile, read_second, Except.bind, Host.decodeText_toUTF8, ofFile, h]

theorem held_files (h : Spec.ofYaml? one = some s) (h' : Spec.ofYaml? two = some s') :
    Held (files one two) "specs" [s, s'] :=
  .directory (names_files one two) (.cons (inFile_first h) (.cons (inFile_second h') .nil))

theorem held_turned (h : Spec.ofYaml? one = some s) (h' : Spec.ofYaml? two = some s') :
    Held (turned one two) "specs" [s', s] := by
  have hfile := inFile_reordered (reordered one two)
  exact .directory (names_turned one two) (.cons ((hfile _).trans (inFile_second h'))
    (.cons ((hfile _).trans (inFile_first h)) .nil))

theorem filter_two {s s' : Spec} (h : s.name ≠ s'.name) (name : String) :
    [s, s'].filter (·.name = name) = [s', s].filter (·.name = name) := by
  by_cases hs : s.name = name
  · have hs' : ¬s'.name = name := fun hs' => h (hs.trans hs'.symm)
    simp [hs, hs']
  · simp [List.filter_cons, hs]

end Shelf

/-- Of two specs of different names it does not matter which is listed first. -/
theorem shelf_turned_alike :
    (Shelf.files Shelf.tourText Shelf.arrivalText).Reordered
        (Shelf.turned Shelf.tourText Shelf.arrivalText) ∧
      ∃ specs, Arranged [Shelf.tour, Shelf.arrival] specs ∧
        (Spec.load "specs" : StateM Workspace _).run
            { files := Shelf.files Shelf.tourText Shelf.arrivalText } =
          (.ok specs, { files := Shelf.files Shelf.tourText Shelf.arrivalText }) ∧
        (Spec.load "specs" : StateM Workspace _).run
            { files := Shelf.turned Shelf.tourText Shelf.arrivalText } =
          (.ok specs, { files := Shelf.turned Shelf.tourText Shelf.arrivalText }) := by
  let w : Workspace := { files := Shelf.files Shelf.tourText Shelf.arrivalText }
  let w' : Workspace := { files := Shelf.turned Shelf.tourText Shelf.arrivalText }
  have hturned : w.files.Reordered w'.files := Shelf.reordered _ _
  have hheld : Held w.files "specs" [Shelf.tour, Shelf.arrival] :=
    Shelf.held_files Shelf.read_tour Shelf.read_arrival
  have hheld' : Held w'.files "specs" [Shelf.arrival, Shelf.tour] :=
    Shelf.held_turned Shelf.read_tour Shelf.read_arrival
  refine ⟨hturned, ?_⟩
  obtain ⟨⟨err, herr⟩, -⟩ |
    ⟨held, held', specs, specs', h, h', hrun, hrun', harranged, -, -, hiff⟩ :=
      load_reordered hturned "specs"
  · rw [run_load_of_held hheld] at herr
    cases herr
  · obtain rfl : held = _ := h.unique hheld
    obtain rfl : held' = _ := h'.unique hheld'
    obtain rfl : specs = specs' := hiff.2 (Shelf.filter_two (by decide))
    exact ⟨specs, harranged, hrun, hrun'⟩

/-- Two specs of one name come as they are listed. -/
theorem ties_as_listed :
    (Shelf.files Shelf.tourText Shelf.detourText).Reordered
        (Shelf.turned Shelf.tourText Shelf.detourText) ∧
      ((Spec.load "specs" : StateM Workspace _).run
        { files := Shelf.files Shelf.tourText Shelf.detourText }).1 =
          .ok [Shelf.tour, Shelf.detour] ∧
      ((Spec.load "specs" : StateM Workspace _).run
        { files := Shelf.turned Shelf.tourText Shelf.detourText }).1 =
          .ok [Shelf.detour, Shelf.tour] ∧
      [Shelf.tour, Shelf.detour] ≠ [Shelf.detour, Shelf.tour] := by
  have htours : sortByName [Shelf.tour, Shelf.detour] = [Shelf.tour, Shelf.detour] :=
    List.mergeSort_of_pairwise (by decide)
  have hdetours : sortByName [Shelf.detour, Shelf.tour] = [Shelf.detour, Shelf.tour] :=
    List.mergeSort_of_pairwise (by decide)
  refine ⟨Shelf.reordered _ _, ?_, ?_, fun h => ?_⟩
  · rw [run_load_of_held (Shelf.held_files Shelf.read_tour Shelf.read_detour), htours]
  · rw [run_load_of_held (Shelf.held_turned Shelf.read_tour Shelf.read_detour), hdetours]
  · have hsame : Shelf.tour.startUrl = Shelf.detour.startUrl :=
      congrArg Spec.startUrl (List.cons.inj h).1
    exact absurd hsame (by decide)

end Wayfinder
