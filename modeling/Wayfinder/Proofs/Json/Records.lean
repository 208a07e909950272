import Wayfinder.Proofs.Json.Reading

/-! Records, which leave out the fields that have no value. Reading an object as a record of its own
field names gives every field its value, and none to a field that was left out. -/
namespace Wayfinder

theorem mapM_eq_some_map {α β : Type} {f : α → Option β} {g : α → β} {l : List α}
    (h : ∀ a ∈ l, f a = some (g a)) : l.mapM f = some (l.map g) := by
  induction l with
  | nil => rfl
  | cons a l ih =>
    obtain ⟨ha, hl⟩ := List.forall_mem_cons.1 h
    rw [List.mapM_cons, ha, ih hl]
    rfl

namespace Json
variable {fields others : List (String × Option Json)}

theorem plain_map {α : Type} {f : α → Json} (hf : ∀ a, (f a).Plain) (o : Option α) :
    ∀ j ∈ o.map f, j.Plain := by
  intro j hj
  obtain ⟨a, -, rfl⟩ := Option.map_eq_some_iff.1 hj
  exact hf a

theorem plain_present (fields : List (String × Option Json))
    (h : ∀ f ∈ fields, ∀ j ∈ f.2, j.Plain) : (Json.obj (present fields)).Plain := by
  induction fields with
  | nil => trivial
  | cons f fields ih =>
    obtain ⟨hf, hfields⟩ := List.forall_mem_cons.1 h
    obtain ⟨k, _ | j⟩ := f
    · exact ih hfields
    · exact ⟨hf j rfl, ih hfields⟩

theorem mem_keys_of_mem_present {f : String × Json} (h : f ∈ present fields) :
    f.1 ∈ fields.map (·.1) := by
  obtain ⟨⟨k, v⟩, hmem, hf⟩ := List.mem_filterMap.1 h
  obtain ⟨j, -, rfl⟩ := Option.map_eq_some_iff.1 hf
  exact List.mem_map_of_mem hmem

/-- Two records with the same field names differ in their members if they differ at all. -/
theorem present_injective (hkeys : fields.map (·.1) = others.map (·.1))
    (hnodup : (fields.map (·.1)).Nodup) (h : present fields = present others) :
    fields = others := by
  induction fields generalizing others with
  | nil => exact (List.map_eq_nil_iff.1 hkeys.symm).symm
  | cons f fields ih =>
    obtain _ | ⟨g, others⟩ := others
    · cases hkeys
    · obtain ⟨k, v⟩ := f
      obtain ⟨k', w⟩ := g
      obtain ⟨rfl, hrest⟩ := List.cons_eq_cons.1 hkeys
      obtain ⟨hk, hdistinct⟩ := List.nodup_cons.1 hnodup
      obtain _ | j := v <;> obtain _ | j' := w
      · rw [ih hrest hdistinct h]
      · have hmem : (k, j') ∈ present fields := by
          rw [show present fields = (k, j') :: present others from h]
          exact List.mem_cons_self
        exact absurd (mem_keys_of_mem_present hmem) hk
      · have hmem : (k, j) ∈ present others := by
          rw [show present others = (k, j) :: present fields from h.symm]
          exact List.mem_cons_self
        exact absurd (hrest ▸ mem_keys_of_mem_present hmem) hk
      · obtain ⟨hj, hrestEq⟩ := List.cons_eq_cons.1 h
        cases hj
        rw [ih hrest hdistinct hrestEq]

end Json

namespace JsonText
open Json
variable {fields : List (String × Option Json)}

theorem named_cons (key k : String) (t : JsonText) (members : List (Option String × JsonText)) :
    named key ((some k, t) :: members)
      = (if k = key then [t] else []) ++ named key members := by
  by_cases hk : k = key <;> simp [named, hk]

theorem named_present_of_not_mem {key : String} (h : key ∉ fields.map (·.1)) :
    named key (ofFields (present fields)) = [] := by
  induction fields with
  | nil => rfl
  | cons f fields ih =>
    obtain ⟨hkey, hfields⟩ := not_or.1 (mt List.mem_cons.2 h)
    obtain ⟨k, _ | j⟩ := f
    · exact ih hfields
    · have hrest := named_cons key k (of j) (ofFields (present fields))
      rw [if_neg (Ne.symm hkey), ih hfields] at hrest
      exact hrest

theorem named_present {key : String} {v : Option Json} (hnodup : (fields.map (·.1)).Nodup)
    (h : (key, v) ∈ fields) : named key (ofFields (present fields)) = (v.map of).toList := by
  induction fields with
  | nil => cases h
  | cons f fields ih =>
    obtain ⟨hf, hfields⟩ := List.nodup_cons.1 hnodup
    obtain rfl | hmem := List.mem_cons.1 h
    · cases v with
      | none =>
        change named key (ofFields (present fields)) = []
        exact named_present_of_not_mem hf
      | some j =>
        have hrest := named_cons key key (of j) (ofFields (present fields))
        rw [if_pos rfl, named_present_of_not_mem hf] at hrest
        exact hrest
    · have hkey : f.1 ≠ key := by
        rintro rfl
        exact hf (List.mem_map.2 ⟨_, hmem, rfl⟩)
      obtain ⟨k, _ | j⟩ := f
      · exact ih hfields hmem
      · have hrest := named_cons key k (of j) (ofFields (present fields))
        rw [if_neg hkey, ih hfields hmem] at hrest
        exact hrest

theorem keys_isSome (l : List (String × Json)) : (ofFields l).all (·.1.isSome) = true := by
  induction l with
  | nil => rfl
  | cons f l ih => simpa [ofFields] using ih

theorem fields?_present (fields : List (String × Option Json)) (h : (fields.map (·.1)).Nodup) :
    fields? (fields.map (·.1)) (of (.obj (present fields)))
      = some (fields.map fun f => f.2.map of) := by
  have hnamed : ∀ f ∈ fields,
      named f.1 (ofFields (present fields)) = (f.2.map of).toList := by
    rintro ⟨k, v⟩ hf
    exact named_present h hf
  simp only [of, fields?, keys_isSome, List.mapM_map]
  refine mapM_eq_some_map fun f hf => ?_
  rw [Function.comp_apply, hnamed f hf]
  cases f.2 <;> rfl

end JsonText
end Wayfinder
