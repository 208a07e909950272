import Wayfinder.Url

/-! URLs put together from parts, and what is read off them again. A path that begins with a slash
comes back whatever stands behind it. Where there is none, an origin is taken to go on up to the
first slash, so that a query or fragment with a slash in it is taken for a path; and a query or
fragment with `://` in it makes an origin of a reference that has none. Nothing else goes wrong
(`parts_recovered_iff`). -/
namespace Wayfinder.Url

structure Origin where
  scheme : String
  authority : String
  scheme_plain : Text.contains schemeEnd scheme.toList = false
  authority_plain : ∀ c ∈ authority.toList, c ≠ '/' ∧ endsPath c = false

def Origin.text (o : Origin) : String := o.scheme ++ "://" ++ o.authority

structure Reference where
  path : String
  query : Option String := none
  fragment : Option String := none
  path_plain : ∀ c ∈ path.toList, endsPath c = false
  query_plain : ∀ q ∈ query, '#' ∉ q.toList

namespace Reference

def tail (r : Reference) : String :=
  r.query.elim "" ("?" ++ ·) ++ r.fragment.elim "" ("#" ++ ·)

def text (r : Reference) : String := r.path ++ r.tail

def shownPath (r : Reference) : String := if r.path = "" then "/" else r.path

end Reference

/-- An origin with a reference whose path is empty or begins with a slash. -/
structure Located where
  origin : Origin
  reference : Reference
  rooted : reference.path = "" ∨ reference.path.toList.head? = some '/'

def Located.text (u : Located) : String := u.origin.text ++ u.reference.text

def GoesOn (s : List Char) : Prop :=
  ∃ front c rest, s = front ++ '/' :: c :: rest ∧ '/' ∉ front ∧ endsPath c = false

/-- A scheme ends at the first `://`, which does not overlap with what stands before it. -/
theorem cut?_schemeEnd {scheme : List Char} (h : Text.contains schemeEnd scheme = false)
    (rest : List Char) :
    Text.cut? schemeEnd (scheme ++ schemeEnd ++ rest) = some (scheme, rest) := by
  induction scheme with
  | nil => simp [Text.cut?, Text.dropPrefix?, schemeEnd]
  | cons c cs ih =>
    rw [Text.contains_cons, Bool.or_eq_false_iff] at h
    obtain ⟨hhere, hlater⟩ := h
    have hdrop : Text.dropPrefix? schemeEnd (c :: (cs ++ schemeEnd ++ rest)) = none := by
      -- What begins here is over before the end of the scheme, or runs into the colon behind it.
      rcases cs with _ | ⟨_, _ | ⟨_, _⟩⟩
      · simp [Text.dropPrefix?, schemeEnd]
      · simp [Text.dropPrefix?, schemeEnd]
      · simpa [Text.dropPrefix?, schemeEnd] using hhere
    rw [List.cons_append, List.cons_append, Text.cut?, hdrop, ih hlater]
    rfl

theorem not_endsPath_of_mem_schemeEnd {c : Char} (h : c ∈ schemeEnd) : endsPath c = false := by
  simp only [schemeEnd, List.mem_cons, List.not_mem_nil, or_false] at h
  obtain rfl | rfl | rfl := h <;> rfl

namespace Origin
variable (o : Origin) (rest : List Char)

theorem toList_text : o.text.toList = o.scheme.toList ++ schemeEnd ++ o.authority.toList := by
  simp [text, schemeEnd]

/-- What is taken for the origin goes on up to the next slash. -/
theorem splitOrigin_append :
    splitOrigin (o.text.toList ++ rest) =
      (some (o.text.toList ++ rest.takeWhile (· != '/')), rest.dropWhile (· != '/')) := by
  have hauthority : ∀ c ∈ o.authority.toList, (c != '/') = true := fun c hc =>
    bne_iff_ne.2 (o.authority_plain c hc).1
  have hcut := cut?_schemeEnd o.scheme_plain (o.authority.toList ++ rest)
  rw [← List.append_assoc, ← toList_text] at hcut
  rw [splitOrigin, hcut]
  simp only [List.takeWhile_append_of_pos hauthority, List.dropWhile_append_of_pos hauthority,
    ← List.append_assoc, ← toList_text]

end Origin

def orSlash : List Char → List Char
  | [] => ['/']
  | path => path

theorem orSlash_of_ne_nil {path : List Char} (h : path ≠ []) : orSlash path = path := by
  cases path with
  | nil => exact absurd rfl h
  | cons c cs => rfl

theorem pathChars_eq (url : List Char) :
    pathChars url = orSlash ((splitOrigin url).2.takeWhile (!endsPath ·)) := by
  rw [pathChars]
  cases (splitOrigin url).2.takeWhile (!endsPath ·) <;> rfl

theorem goesOn_slash_iff {rest : List Char} :
    GoesOn ('/' :: rest) ↔ rest.takeWhile (!endsPath ·) ≠ [] := by
  constructor
  · rintro ⟨front, c, tail, hs, hfront, hc⟩
    cases front with
    | nil =>
      obtain ⟨-, rfl⟩ := List.cons.inj hs
      simp [hc]
    | cons d front =>
      obtain ⟨rfl, -⟩ := List.cons.inj hs
      exact absurd List.mem_cons_self hfront
  · intro h
    cases rest with
    | nil => exact absurd rfl h
    | cons c tail =>
      refine ⟨[], c, tail, rfl, List.not_mem_nil, ?_⟩
      cases hc : endsPath c with
      | false => rfl
      | true => exact absurd (List.takeWhile_cons_of_neg (by simp [hc])) h

theorem goesOn_cons_iff {c : Char} {s : List Char} (hc : c ≠ '/') : GoesOn (c :: s) ↔ GoesOn s := by
  constructor
  · rintro ⟨front, d, tail, hs, hfront, hd⟩
    cases front with
    | nil => exact absurd (List.cons.inj hs).1 hc
    | cons _ front =>
      exact ⟨front, d, tail, (List.cons.inj hs).2, fun h => hfront (List.mem_cons_of_mem _ h), hd⟩
  · rintro ⟨front, d, tail, rfl, hfront, hd⟩
    refine ⟨c :: front, d, tail, rfl, ?_, hd⟩
    exact fun h => (List.mem_cons.1 h).elim (fun h => hc h.symm) hfront

/-- From its first slash on a text shows no path but that slash, unless it goes on. -/
theorem orSlash_eq_slash_iff (s : List Char) :
    orSlash ((s.dropWhile (· != '/')).takeWhile (!endsPath ·)) = ['/'] ↔ ¬GoesOn s := by
  induction s with
  | nil =>
    refine iff_of_true rfl ?_
    rintro ⟨front, c, rest, hs, -, -⟩
    simp at hs
  | cons c s ih =>
    by_cases hc : c = '/'
    · subst hc
      rw [List.dropWhile_cons_of_neg (by simp), List.takeWhile_cons_of_pos (by decide),
        orSlash_of_ne_nil (List.cons_ne_nil _ _), goesOn_slash_iff]
      simp
    · rw [List.dropWhile_cons_of_pos (by simpa using hc), ih, goesOn_cons_iff hc]

namespace Reference
variable (r : Reference)

theorem head_tail : ∀ c ∈ r.tail.toList.head?, endsPath c = true := by
  obtain ⟨path, query, fragment, hpath, hquery⟩ := r
  cases query <;> cases fragment <;> simp [tail, endsPath]

/-- A path ends where its query or fragment begins. -/
theorem takeWhile_text : r.text.toList.takeWhile (!endsPath ·) = r.path.toList := by
  have hpath : ∀ c ∈ r.path.toList, (!endsPath c) = true := by simpa using r.path_plain
  have htail : r.tail.toList.takeWhile (!endsPath ·) = [] := by
    cases h : r.tail.toList with
    | nil => rfl
    | cons c cs =>
      have hc := r.head_tail c (by simp [h])
      exact List.takeWhile_cons_of_neg (by simp [hc])
  rw [text, String.toList_append, List.takeWhile_append_of_pos hpath, htail, List.append_nil]

theorem toList_shownPath : r.shownPath.toList = orSlash r.path.toList := by
  rw [shownPath]
  split
  · next h =>
    rw [h]
    rfl
  · next h => rw [orSlash_of_ne_nil (by simpa using h)]

end Reference

theorem path_eq_iff {url s : String} : path url = s ↔ pathChars url.toList = s.toList := by
  rw [path, ← String.toList_inj, String.toList_ofList]

namespace Located
variable (u : Located)

theorem splitOrigin_text :
    splitOrigin u.text.toList =
      (some (u.origin.text.toList ++ u.reference.text.toList.takeWhile (· != '/')),
        u.reference.text.toList.dropWhile (· != '/')) := by
  rw [text, String.toList_append, Origin.splitOrigin_append]

theorem origin_eq_iff :
    origin? u.text = some u.origin.text ↔ u.reference.text.toList.takeWhile (· != '/') = [] := by
  rw [origin?, splitOrigin_text, Option.map_some, Option.some_inj, ← String.toList_inj,
    String.toList_ofList, List.append_right_eq_self]

theorem path_eq_shown_iff :
    path u.text = u.reference.shownPath ↔
      orSlash ((u.reference.text.toList.dropWhile (· != '/')).takeWhile (!endsPath ·)) =
        orSlash u.reference.path.toList := by
  rw [path_eq_iff, pathChars_eq, splitOrigin_text, Reference.toList_shownPath]

/-- A path that is not empty begins with the slash at which the origin ends. -/
theorem parts_of_path (h : u.reference.path ≠ "") :
    origin? u.text = some u.origin.text ∧ path u.text = u.reference.shownPath := by
  obtain ⟨rest, hrest⟩ := List.head?_eq_some_iff.1 (u.rooted.resolve_left h)
  have htext : u.reference.text.toList = '/' :: (rest ++ u.reference.tail.toList) := by
    rw [Reference.text, String.toList_append, hrest, List.cons_append]
  constructor
  · rw [origin_eq_iff, htext]
    rfl
  · rw [path_eq_shown_iff, ← u.reference.takeWhile_text, htext,
      List.dropWhile_cons_of_neg (by simp)]

theorem text_of_no_path (h : u.reference.path = "") :
    u.reference.text.toList = u.reference.tail.toList := by
  simp [Reference.text, h]

theorem origin_of_no_path (h : u.reference.path = "") :
    origin? u.text = some u.origin.text ↔ u.reference.tail = "" := by
  rw [origin_eq_iff, u.text_of_no_path h, ← String.toList_eq_nil_iff]
  cases htail : u.reference.tail.toList with
  | nil => simp
  | cons c cs =>
    have hc : c ≠ '/' := by
      rintro rfl
      exact absurd (u.reference.head_tail '/' (by simp [htail])) (by decide)
    simp [hc]

theorem path_of_no_path (h : u.reference.path = "") :
    path u.text = u.reference.shownPath ↔ ¬GoesOn u.reference.tail.toList := by
  rw [path_eq_shown_iff, u.text_of_no_path h, h, ← orSlash_eq_slash_iff]
  rfl

end Located

namespace Reference
variable (r : Reference)

theorem origin_eq_none_iff :
    origin? r.text = none ↔ Text.contains schemeEnd r.text.toList = false := by
  rw [origin?, splitOrigin, Text.contains]
  cases Text.cut? schemeEnd r.text.toList <;> simp

theorem path_of_no_origin (h : Text.contains schemeEnd r.text.toList = false) :
    Url.path r.text = r.shownPath := by
  have hcut : Text.cut? schemeEnd r.text.toList = none := by simpa [Text.contains] using h
  rw [path_eq_iff, pathChars_eq, splitOrigin, hcut, takeWhile_text, toList_shownPath]

end Reference

/-- Which parts of a URL come back: the origin, unless something stands where its path should begin;
the path, unless it is empty and a slash behind it leads on to more of a path. Of a reference all
comes back unless `://` stands in it. -/
theorem parts_recovered_iff (u : Located) (r : Reference) :
    ((origin? u.text = some u.origin.text ↔ u.reference.path ≠ "" ∨ u.reference.tail = "") ∧
      (path u.text = u.reference.shownPath ↔
        u.reference.path ≠ "" ∨ ¬GoesOn u.reference.tail.toList)) ∧
    (origin? r.text = none ∧ path r.text = r.shownPath ↔
      Text.contains schemeEnd r.path.toList = false ∧
        Text.contains schemeEnd r.tail.toList = false) := by
  constructor
  · by_cases h : u.reference.path = ""
    · exact ⟨by simp [u.origin_of_no_path h, h], by simp [u.path_of_no_path h, h]⟩
    · obtain ⟨horigin, hpath⟩ := u.parts_of_path h
      exact ⟨iff_of_true horigin (.inl h), iff_of_true hpath (.inl h)⟩
  · have hsplit : Text.contains schemeEnd r.text.toList =
        (Text.contains schemeEnd r.path.toList || Text.contains schemeEnd r.tail.toList) := by
      rw [Reference.text, String.toList_append]
      exact Text.contains_append (List.cons_ne_nil _ _) r.path.toList fun c hc hmem => by
        have hends := r.head_tail c hc
        rw [not_endsPath_of_mem_schemeEnd hmem] at hends
        cases hends
    rw [← Bool.or_eq_false_iff, ← hsplit, r.origin_eq_none_iff]
    exact and_iff_left_of_imp r.path_of_no_origin

theorem forall_mem_of_all {s : List Char} {p : Char → Prop} [DecidablePred p]
    (h : s.all (p ·) = true) : ∀ c ∈ s, p c :=
  fun c hc => of_decide_eq_true (List.all_eq_true.1 h c hc)

theorem https_plain : Text.contains schemeEnd "https".toList = false := by decide

def askedNext : Located where
  origin := ⟨"https", "portal.test", https_plain, forall_mem_of_all (by decide)⟩
  reference :=
    { path := "", query := some "next=/home", path_plain := forall_mem_of_all rfl
      query_plain := by decide }
  rooted := .inl rfl

def askedBack : Reference where
  path := "/login"
  query := some "back=https://other.test/z"
  path_plain := forall_mem_of_all (by decide)
  query_plain := by decide

/-- The query of a URL without a path is taken for one, that of a reference for an origin. -/
theorem queries_misread :
    (askedNext.text = "https://portal.test?next=/home" ∧
      origin? askedNext.text = some "https://portal.test?next=" ∧ path askedNext.text = "/home" ∧
      ¬(origin? askedNext.text = some askedNext.origin.text ∧
        path askedNext.text = askedNext.reference.shownPath)) ∧
    (askedBack.text = "/login?back=https://other.test/z" ∧
      Text.contains schemeEnd askedBack.path.toList = false ∧
      origin? askedBack.text = some "/login?back=https://other.test" ∧ path askedBack.text = "/z" ∧
      ¬(origin? askedBack.text = none ∧ path askedBack.text = askedBack.shownPath)) := by
  decide

end Wayfinder.Url
