import Mathlib.Data.List.Forall2
import Wayfinder.Proofs.Doc.Members

/-! Leaving out members. A thinning says what may be left of a value when members that hold their
defaults are deleted, in any choice and at any depth. What is left of an object may be in any order.
-/
namespace Wayfinder

structure Thinning where
  Leaves : Json → Json → Prop
  refl : ∀ j, Leaves j j

def Thinning.whole : Thinning where
  Leaves j j' := j' = j
  refl _ := rfl

/-- How a member may be thinned. Only a member with a default can be left out. -/
structure Member where
  thinning : Thinning := .whole
  default? : Option Json := none

inductive Thinned (members : String → Member) :
    List (String × Json) → List (String × Json) → Prop where
  | nil : Thinned members [] []
  | keep {k : String} {j j' : Json} {l l' : List (String × Json)} :
    (members k).thinning.Leaves j j' → Thinned members l l' →
    Thinned members ((k, j) :: l) ((k, j') :: l')
  | drop {k : String} {j : Json} {l l' : List (String × Json)} :
    (members k).default? = some j → Thinned members l l' → Thinned members ((k, j) :: l) l'

inductive Member.Left (m : Member) : Option Json → Option Json → Prop where
  | absent : Left m none none
  | kept {j j' : Json} : m.thinning.Leaves j j' → Left m (some j) (some j')
  | dropped {j : Json} : m.default? = some j → Left m (some j) none

namespace Thinned
variable {members : String → Member} {l l' : List (String × Json)}

theorem refl (l : List (String × Json)) : Thinned members l l := by
  induction l with
  | nil => exact .nil
  | cons e l ih => exact .keep ((members e.1).thinning.refl e.2) ih

theorem keys (h : Thinned members l l') : (l'.map (·.1)).Sublist (l.map (·.1)) := by
  induction h with
  | nil => exact .slnil
  | keep _ _ ih => exact .cons_cons _ ih
  | drop _ _ ih => exact .cons _ ih

theorem left (h : Thinned members l l') (hl : (l.map (·.1)).Nodup) (k : String) :
    (members k).Left (l.lookup k) (l'.lookup k) := by
  induction h with
  | nil => exact .absent
  | @keep key _ _ _ _ hleaves _ ih =>
    obtain ⟨-, hrest⟩ := List.nodup_cons.1 hl
    by_cases hk : k = key
    · subst hk
      rw [List.lookup_cons_self, List.lookup_cons_self]
      exact .kept hleaves
    · rw [List.lookup_cons, List.lookup_cons, beq_eq_false_iff_ne.2 hk]
      exact ih hrest
  | @drop key _ _ _ hdefault hthinned ih =>
    obtain ⟨hkey, hrest⟩ := List.nodup_cons.1 hl
    by_cases hk : k = key
    · subst hk
      rw [List.lookup_cons_self,
        lookup_eq_none_iff_not_mem.2 fun hleft => hkey (hthinned.keys.subset hleft)]
      exact .dropped hdefault
    · rw [List.lookup_cons, beq_eq_false_iff_ne.2 hk]
      exact ih hrest

end Thinned

namespace Thinning

inductive EachLeaves (t : Thinning) : Json → Json → Prop where
  | whole (j : Json) : EachLeaves t j j
  | items {items items' : List Json} :
    List.Forall₂ t.Leaves items items' → EachLeaves t (.arr items) (.arr items')

def each (t : Thinning) : Thinning := ⟨EachLeaves t, .whole⟩

inductive RecordLeaves (members : List (String × Json) → String → Member) :
    Json → Json → Prop where
  | whole (j : Json) : RecordLeaves members j j
  | members {l l' l'' : List (String × Json)} :
    Thinned (members l) l l' → l'.Perm l'' → RecordLeaves members (.obj l) (.obj l'')

def record (members : String → Member) : Thinning := ⟨RecordLeaves fun _ => members, .whole⟩

def tagged (tag : String) (variants : String → String → Member) : Thinning where
  Leaves := RecordLeaves fun l =>
    match l.lookup tag with
    | some (.str v) => variants v
    | _ => fun _ => {}
  refl := .whole

theorem RecordLeaves.left {members : List (String × Json) → String → Member}
    {l : List (String × Json)} {j' : Json} (h : RecordLeaves members (.obj l) j')
    (hl : (l.map (·.1)).Nodup) :
    ∃ l', j' = .obj l' ∧ (l'.map (·.1)).Nodup ∧
      ∀ k, (members l k).Left (l.lookup k) (l'.lookup k) := by
  cases h with
  | whole => exact ⟨l, rfl, hl, (Thinned.refl l).left hl⟩
  | @members _ l' l'' hthinned hperm =>
    have hl' : (l'.map (·.1)).Nodup := hthinned.keys.nodup hl
    refine ⟨l'', rfl, (hperm.map (·.1)).nodup_iff.1 hl', fun k => ?_⟩
    rw [lookup_of_perm hl' hperm]
    exact hthinned.left hl k

theorem record_left {members : String → Member} {l : List (String × Json)} {j' : Json}
    (h : (record members).Leaves (.obj l) j') (hl : (l.map (·.1)).Nodup) :
    ∃ l', j' = .obj l' ∧ (l'.map (·.1)).Nodup ∧
      ∀ k, (members k).Left (l.lookup k) (l'.lookup k) :=
  RecordLeaves.left h hl

theorem tagged_left {tag v : String} {variants : String → String → Member}
    {l : List (String × Json)} {j' : Json} (h : (tagged tag variants).Leaves (.obj l) j')
    (hl : (l.map (·.1)).Nodup) (htag : l.lookup tag = some (.str v)) :
    ∃ l', j' = .obj l' ∧ (l'.map (·.1)).Nodup ∧
      ∀ k, (variants v k).Left (l.lookup k) (l'.lookup k) := by
  obtain ⟨l', rfl, hl', hleft⟩ := RecordLeaves.left h hl
  rw [htag] at hleft
  exact ⟨l', rfl, hl', hleft⟩

/-- Whatever is left of `j` is still read as `x`. -/
def Spares {α : Type} (t : Thinning) (read : Decoder α) (j : Json) (x : α) : Prop :=
  ∀ j', t.Leaves j j' → read (.json j') = some x

variable {α : Type} {t : Thinning} {read : Decoder α} {j : Json} {x : α}

theorem Spares.reads (h : t.Spares read j x) : read (.json j) = some x := h j (t.refl j)

theorem spares_whole (h : read (.json j) = some x) : whole.Spares read j x := by
  rintro j' rfl
  exact h

theorem each_spares {encode : α → Json} {xs : List α}
    (h : ∀ x ∈ xs, t.Spares read (encode x) x) :
    (each t).Spares (Doc.listOf read) (.arr (xs.map encode)) xs := by
  have hitems : ∀ items, List.Forall₂ t.Leaves (xs.map encode) items →
      Doc.listOf read (.json (.arr items)) = some xs := by
    intro items hleft
    change (items.map Doc.json).mapM read = some xs
    rw [List.mapM_map]
    induction xs generalizing items with
    | nil =>
      cases hleft
      rfl
    | cons x xs ih =>
      obtain ⟨hx, hxs⟩ := List.forall_mem_cons.1 h
      obtain _ | ⟨hj, hrest⟩ := hleft
      simp [List.mapM_cons, hx _ hj, ih hxs _ hrest]
  rintro j' (_ | hleft)
  · exact hitems _ (List.forall₂_same.2 fun j _ => t.refl j)
  · exact hitems _ hleft

theorem optional_spares {encode : α → Json} (hnull : ∀ x, ¬t.Leaves (encode x) .null)
    (hnone : ∀ j, t.Leaves .null j → j = .null) (h : ∀ x, t.Spares read (encode x) x)
    (o : Option α) : t.Spares (Doc.optional? read) (.ofOption encode o) o := by
  intro j' hj'
  cases o with
  | none =>
    rw [hnone j' hj']
    rfl
  | some x =>
    have hread := h x j' hj'
    cases j' with
    | null => exact absurd hj' (hnull x)
    | _ => simp [Doc.optional?, hread]

theorem text_spares (s : String) : whole.Spares Doc.text? (.str s) s := spares_whole rfl

theorem optional_text_spares (o : Option String) :
    whole.Spares (Doc.optional? Doc.text?) (.ofOption .str o) o :=
  optional_spares (fun s h => nomatch (h : Json.null = .str s)) (fun _ => id) text_spares o

end Thinning

namespace Member
open Thinning

def nullable (t : Thinning := .whole) : Member := { thinning := t, default? := some .null }

def list (t : Thinning) : Member := { thinning := .each t, default? := some (.arr []) }

def map : Member := { default? := some (.obj []) }

namespace Left
variable {α : Type} {m : Member} {t : Thinning} {read : Decoder α} {encode : α → Json}
  {j : Json} {o : Option Json} {x d : α}

theorem whole (h : ({} : Member).Left (some j) o) : o = some j := by
  cases h with
  | kept hleaves => exact congrArg some hleaves
  | dropped hj => cases hj

theorem required (h : m.Left (some j) o) (hdefault : m.default? = none)
    (hread : m.thinning.Spares read j x) : Doc.required read (o.map .json) = some x := by
  cases h with
  | kept hleaves => exact hread _ hleaves
  | dropped hj => simp [hdefault] at hj

theorem defaulted (h : m.Left (some j) o) (hdefault : m.default? = some j → x = d)
    (hread : m.thinning.Spares read j x) : Doc.defaulted d read (o.map .json) = some x := by
  cases h with
  | kept hleaves => exact hread _ hleaves
  | dropped hj => exact congrArg some (hdefault hj).symm

theorem text {s : String} (h : ({} : Member).Left (some (.str s)) o) :
    Doc.required Doc.text? (o.map .json) = some s := h.required rfl (text_spares s)

/-- A member that may be null stays, null or not. -/
theorem optionalText {s : Option String} (h : ({} : Member).Left (some (.ofOption .str s)) o) :
    Doc.optional Doc.text? (o.map .json) = some s := h.defaulted nofun (optional_text_spares s)

theorem nullable {v : Option α} (h : (Member.nullable t).Left (some (.ofOption encode v)) o)
    (hencode : ∀ a, encode a ≠ .null)
    (hread : t.Spares (Doc.optional? read) (.ofOption encode v) v) :
    Doc.optional read (o.map .json) = some v := by
  refine h.defaulted (fun hnull => ?_) hread
  cases v with
  | none => rfl
  | some a => exact absurd (Option.some.inj hnull).symm (hencode a)

theorem nullableText {s : Option String}
    (h : Member.nullable.Left (some (.ofOption .str s)) o) :
    Doc.optional Doc.text? (o.map .json) = some s :=
  h.nullable (fun _ => nofun) (optional_text_spares s)

theorem list {xs : List α} (h : (Member.list t).Left (some (.arr (xs.map encode))) o)
    (hread : ∀ x ∈ xs, t.Spares read (encode x) x) :
    Doc.defaulted [] (Doc.listOf read) (o.map .json) = some xs := by
  refine h.defaulted (fun hnil => ?_) (each_spares hread)
  cases xs with
  | nil => rfl
  | cons => cases hnil

theorem map {args : Args} (h : Member.map.Left (some (.obj args.entries)) o) :
    Doc.defaulted ∅ Doc.args? (o.map .json) = some args := by
  refine h.defaulted (fun hnil => ?_) (spares_whole ?_)
  · exact SortedMap.ext (Json.obj.inj (Option.some.inj hnil)).symm
  · exact congrArg some (SortedMap.ofPairs_entries args)

end Left
end Member
end Wayfinder
