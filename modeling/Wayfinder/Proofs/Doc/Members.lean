import Wayfinder.Doc.Basic
import Wayfinder.Proofs.Json.Records

/-! The members of an object as the fields of a record and as a variant. Which member stands where
does not matter, as long as no name comes twice. -/
namespace Wayfinder
open List (lookup)

section
variable {κ β : Type} [BEq κ] [LawfulBEq κ] {l l' : List (κ × β)} {k : κ} {v : β}

theorem lookup_eq_some_iff_mem (h : (l.map (·.1)).Nodup) : l.lookup k = some v ↔ (k, v) ∈ l := by
  induction l with
  | nil => simp
  | cons e l ih =>
    obtain ⟨key, w⟩ := e
    obtain ⟨hkey, hl⟩ := List.nodup_cons.1 h
    by_cases hk : k = key
    · subst hk
      have hnot : (k, v) ∉ l := fun hmem => hkey (List.mem_map.2 ⟨_, hmem, rfl⟩)
      simp [hnot, eq_comm]
    · simp [List.lookup_cons, beq_eq_false_iff_ne.2 hk, hk, ih hl]

theorem lookup_eq_none_iff_not_mem : l.lookup k = none ↔ k ∉ l.map (·.1) := by
  simp only [List.lookup_eq_none_iff, List.mem_map, bne_iff_ne, not_exists, not_and]
  exact forall₂_congr fun _ _ => ne_comm

theorem lookup_of_perm (h : (l.map (·.1)).Nodup) (hperm : l.Perm l') :
    l'.lookup k = l.lookup k := by
  have h' : (l'.map (·.1)).Nodup := (hperm.map (·.1)).nodup_iff.1 h
  refine Option.ext fun v => ?_
  rw [lookup_eq_some_iff_mem h', lookup_eq_some_iff_mem h, hperm.mem_iff]

theorem lookup_filter_ne {l : List (String × β)} {k tag : String} (hk : k ≠ tag) :
    (l.filter (·.1 ≠ tag)).lookup k = l.lookup k := by
  induction l with
  | nil => rfl
  | cons e l ih =>
    obtain ⟨key, w⟩ := e
    by_cases hkey : key = tag
    · have hne : (k == tag) = false := beq_eq_false_iff_ne.2 hk
      simpa [List.filter_cons, List.lookup_cons, hkey, hne] using ih
    · simp only [ne_eq, List.filter_cons, hkey, not_false_eq_true, decide_true, if_true,
        List.lookup_cons, ih]

end

namespace Json
variable {fields : List (String × Option Json)} {k : String}

theorem keys_present (fields : List (String × Option Json)) :
    ((present fields).map (·.1)).Sublist (fields.map (·.1)) := by
  induction fields with
  | nil => exact .slnil
  | cons f fields ih =>
    obtain ⟨k, _ | j⟩ := f
    · exact .cons _ ih
    · exact .cons_cons _ ih

theorem lookup_present (h : (fields.map (·.1)).Nodup) :
    (present fields).lookup k = (fields.lookup k).join := by
  induction fields with
  | nil => rfl
  | cons f fields ih =>
    obtain ⟨key, v⟩ := f
    obtain ⟨hkey, hrest⟩ := List.nodup_cons.1 h
    have hcons : present ((key, v) :: fields) = (v.map (key, ·)).toList ++ present fields := by
      cases v <;> rfl
    rw [hcons]
    by_cases hk : k = key
    · subst hk
      rw [List.lookup_cons_self]
      cases v with
      | some j => exact List.lookup_cons_self
      | none =>
        exact lookup_eq_none_iff_not_mem.2 fun hmem => hkey ((keys_present fields).subset hmem)
    · have hne : (k == key) = false := beq_eq_false_iff_ne.2 hk
      rw [List.lookup_cons, hne, ← ih hrest]
      cases v with
      | some j => simp [List.lookup_cons, hne]
      | none => rfl

end Json

namespace Doc
variable {names : List String} {tag : String} {l : List (String × Json)}

def ofMembers (l : List (String × Json)) : List (Doc × Doc) :=
  l.map fun (k, v) => (.json (.str k), .json v)

theorem filterMap_indexed {i : Nat} (hi : i < names.length) (hnames : names.Nodup)
    (hl : (l.map (·.1)).Nodup) :
    (l.map fun e => (names.idxOf? e.1, Doc.json e.2)).filterMap
        (fun (j, v) => if j = some i then some v else none)
      = ((l.lookup names[i]).map .json).toList := by
  have hidx : ∀ k, names.idxOf? k = some i ↔ names[i] = k := by
    intro k
    rw [List.idxOf?_eq_some_iff]
    refine ⟨fun h => h.2.1, fun h => ⟨hi, h, fun j hj hjk => ?_⟩⟩
    exact Nat.ne_of_lt hj ((List.getElem_inj hnames).1 (hjk.trans h.symm))
  induction l with
  | nil => rfl
  | cons e l ih =>
    obtain ⟨k, v⟩ := e
    obtain ⟨hk, hrest⟩ := List.nodup_cons.1 hl
    by_cases h : names[i] = k
    · have hnone : l.lookup k = none := lookup_eq_none_iff_not_mem.2 hk
      have hhere : names.idxOf? k = some i := (hidx k).2 h
      simp only [List.map_cons, List.filterMap_cons, hhere, if_true, ih hrest, h, hnone,
        List.lookup_cons_self]
      rfl
    · have hnot : names.idxOf? k ≠ some i := mt (hidx k).1 h
      simp only [List.map_cons, List.filterMap_cons, hnot, if_false, ih hrest, List.lookup_cons,
        beq_eq_false_iff_ne.2 h]

theorem pick?_members (hnames : names.Nodup) (hl : (l.map (·.1)).Nodup) :
    pick? names (ofMembers l) = some (names.map fun n => (l.lookup n).map .json) := by
  have hindexed (f : Doc × Doc → Option (Option Nat × Doc))
      (hf : ∀ e : String × Json, f (.json (.str e.1), .json e.2)
        = some (names.idxOf? e.1, .json e.2)) :
      (ofMembers l).mapM f = some (l.map fun e => (names.idxOf? e.1, Doc.json e.2)) := by
    rw [ofMembers, List.mapM_map]
    exact mapM_eq_some_map fun e _ => hf e
  have hfields : names.map (fun n => (l.lookup n).map Doc.json)
      = (List.range names.length).map fun i => (names[i]?.bind fun n => l.lookup n).map .json := by
    refine List.ext_getElem (by simp) fun i hi _ => ?_
    simp [List.getElem?_eq_getElem (by simpa using hi : i < names.length)]
  rw [pick?, hindexed _ fun _ => by rfl, Option.bind_eq_bind, Option.bind_some, hfields]
  refine mapM_eq_some_map fun i hi => ?_
  have hi : i < names.length := List.mem_range.1 hi
  rw [filterMap_indexed hi hnames hl, List.getElem?_eq_getElem hi]
  obtain hnone | ⟨v, hsome⟩ := (l.lookup names[i]).eq_none_or_eq_some
  · simp [hnone]
  · simp [hsome]

theorem fields?_members (hnames : names.Nodup) (hl : (l.map (·.1)).Nodup) :
    fields? names (.json (.obj l)) = some (names.map fun n => (l.lookup n).map .json) :=
  pick?_members hnames hl

theorem splitTag_members :
    splitTag tag (ofMembers l)
      = some ((l.filter (·.1 = tag)).map (.json ·.2), ofMembers (l.filter (·.1 ≠ tag))) := by
  induction l with
  | nil => rfl
  | cons e l ih =>
    obtain ⟨k, v⟩ := e
    rw [ofMembers] at ih
    by_cases hk : k = tag <;> simp [ofMembers, splitTag, ih, settle, hk]

theorem filter_name_eq (hl : (l.map (·.1)).Nodup) {v : Json} (htag : l.lookup tag = some v) :
    l.filter (·.1 = tag) = [(tag, v)] := by
  induction l with
  | nil => cases htag
  | cons e l ih =>
    obtain ⟨k, w⟩ := e
    obtain ⟨hk, hrest⟩ := List.nodup_cons.1 hl
    by_cases h : tag = k
    · subst h
      have hnone : l.filter (·.1 = tag) = [] := by
        refine List.filter_eq_nil_iff.2 fun e he heq => hk ?_
        exact List.mem_map.2 ⟨e, he, of_decide_eq_true heq⟩
      rw [List.lookup_cons_self] at htag
      cases htag
      simp only [List.filter_cons, decide_true, if_true, hnone]
    · rw [List.lookup_cons, beq_eq_false_iff_ne.2 h] at htag
      simpa [List.filter_cons, Ne.symm h] using ih hrest htag

def others (tag : String) (l : List (String × Json)) : Doc :=
  .record (ofMembers (l.filter (·.1 ≠ tag)))

theorem variant?_members {v : String} (hl : (l.map (·.1)).Nodup)
    (htag : l.lookup tag = some (.str v)) (hv : v ∈ names) :
    variant? tag names (.json (.obj l))
      = some (v, others tag l) := by
  change taggedRecord? tag names (ofMembers l) = _
  rw [taggedRecord?, splitTag_members, filter_name_eq hl htag]
  simp [variantName?, hv, others]

theorem fields?_others (hnames : names.Nodup) (htag : tag ∉ names) (hl : (l.map (·.1)).Nodup) :
    fields? names (others tag l) = some (names.map fun n => (l.lookup n).map .json) := by
  have hothers : ((l.filter (·.1 ≠ tag)).map (·.1)).Nodup :=
    hl.sublist (List.filter_sublist.map _)
  rw [others, fields?, pick?_members hnames hothers]
  refine congrArg some (List.map_congr_left fun n hn => ?_)
  have hne : n ≠ tag := by
    rintro rfl
    exact htag hn
  rw [lookup_filter_ne hne]

end Doc
end Wayfinder
