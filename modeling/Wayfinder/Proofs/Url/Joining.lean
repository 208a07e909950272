import Mathlib.Data.List.TakeWhile
import Wayfinder.Proofs.Url.Parts

/-! A path joined to an origin, and what is read off the URL that this gives. The origin comes back
whatever the path is; the path does when it begins with a slash and holds neither a query nor a
fragment (`path_rooted`, `rooted_bare_eq_iff`). -/
namespace Wayfinder.Url

def rootedChars : List Char → List Char
  | '/' :: rest => '/' :: rest
  | path => '/' :: path

def rooted (path : String) : String := String.ofList (rootedChars path.toList)

def bare (path : String) : String := String.ofList (path.toList.takeWhile (!endsPath ·))

/-- A path that begins with a slash and holds neither a query nor a fragment. -/
def Plain (path : String) : Prop :=
  path.toList.head? = some '/' ∧ ∀ c ∈ path.toList, endsPath c = false

instance (path : String) : Decidable (Plain path) :=
  @instDecidableAnd _ _ _ (List.decidableBAll (endsPath · = false) path.toList)

theorem rootedChars_of_head {path : List Char} (h : path.head? = some '/') :
    rootedChars path = path := by
  obtain ⟨rest, rfl⟩ := List.head?_eq_some_iff.1 h
  rfl

theorem rootedChars_of_ne {path : List Char} (h : path.head? ≠ some '/') :
    rootedChars path = '/' :: path := by
  unfold rootedChars
  split
  · exact absurd rfl h
  · rfl

theorem head?_rootedChars (path : List Char) : (rootedChars path).head? = some '/' := by
  by_cases h : path.head? = some '/'
  · rw [rootedChars_of_head h, h]
  · rw [rootedChars_of_ne h]
    rfl

/-- No query or fragment is cut off with the slash in front. -/
theorem takeWhile_rootedChars (path : List Char) :
    (rootedChars path).takeWhile (!endsPath ·) = rootedChars (path.takeWhile (!endsPath ·)) := by
  by_cases h : path.head? = some '/'
  · obtain ⟨rest, rfl⟩ := List.head?_eq_some_iff.1 h
    rfl
  · have hcut : (path.takeWhile (!endsPath ·)).head? ≠ some '/' := by
      cases path with
      | nil => simp
      | cons c cs =>
        rw [List.takeWhile_cons]
        split
        · exact h
        · simp
    rw [rootedChars_of_ne h, rootedChars_of_ne hcut]
    rfl

theorem joinChars_eq (origin path : List Char) :
    joinChars origin path = (origin.reverse.dropWhile (· == '/')).reverse ++ rootedChars path := by
  unfold joinChars
  split
  · rfl
  · next hne =>
    rw [rootedChars_of_ne]
    intro h
    obtain ⟨rest, hrest⟩ := List.head?_eq_some_iff.1 h
    exact hne rest hrest

/-- The path of a page is one that comes back from the URL at which it is loaded. -/
theorem rooted_bare_eq_iff (path : String) : rooted (bare path) = path ↔ Plain path := by
  rw [rooted, bare, String.toList_ofList, ← takeWhile_rootedChars, ← String.toList_inj,
    String.toList_ofList]
  have hall : path.toList.takeWhile (!endsPath ·) = path.toList ↔
      ∀ c ∈ path.toList, endsPath c = false := by
    simp [List.takeWhile_eq_self_iff]
  constructor
  · intro h
    have hhead : path.toList.head? = some '/' := by
      rw [← h, takeWhile_rootedChars]
      exact head?_rootedChars _
    rw [rootedChars_of_head hhead] at h
    exact ⟨hhead, hall.1 h⟩
  · rintro ⟨hhead, hplain⟩
    rw [rootedChars_of_head hhead]
    exact hall.2 hplain

namespace Origin
variable {o : Origin} (path : String)

/-- Slashes behind an origin are passed over. -/
theorem join_slashes (hne : o.authority ≠ "") (n : Nat) :
    join (o.text ++ String.ofList (List.replicate n '/')) path = o.text ++ rooted path := by
  obtain hnil | ⟨front, c, hauthority⟩ := List.eq_nil_or_concat o.authority.toList
  · exact absurd (String.toList_eq_nil_iff.1 hnil) hne
  have hc : c ≠ '/' := (o.authority_plain c (by simp [hauthority])).1
  have hslashes : ∀ d ∈ List.replicate n '/', (d == '/') = true := fun d hd => by
    simp [List.eq_of_mem_replicate hd]
  have htrim : ((o.text.toList ++ List.replicate n '/').reverse.dropWhile (· == '/')).reverse =
      o.text.toList := by
    rw [List.reverse_append, List.reverse_replicate, List.dropWhile_append_of_pos hslashes,
      toList_text, hauthority]
    simp [hc]
  rw [join, String.toList_append, String.toList_ofList, joinChars_eq, htrim, ← String.toList_inj]
  simp [rooted]

theorem origin?_rooted : origin? (o.text ++ rooted path) = some o.text := by
  obtain ⟨rest, hrest⟩ := List.head?_eq_some_iff.1 (head?_rootedChars path.toList)
  rw [origin?, String.toList_append, rooted, String.toList_ofList, splitOrigin_append, hrest]
  simp

theorem path_rooted : Url.path (o.text ++ rooted path) = rooted (bare path) := by
  obtain ⟨rest, hrest⟩ := List.head?_eq_some_iff.1 (head?_rootedChars path.toList)
  have hkept : (rootedChars path.toList).dropWhile (· != '/') = rootedChars path.toList := by
    rw [hrest, List.dropWhile_cons_of_neg (by simp)]
  have hne (cs : List Char) : rootedChars cs ≠ [] := fun h => by
    have hhead := head?_rootedChars cs
    simp [h] at hhead
  rw [path_eq_iff, pathChars_eq, String.toList_append, splitOrigin_append, rooted, rooted, bare,
    String.toList_ofList, String.toList_ofList, String.toList_ofList, hkept, takeWhile_rootedChars,
    orSlash_of_ne_nil (hne _)]

end Origin
end Wayfinder.Url
