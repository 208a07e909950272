/-! Values under names, kept in increasing order of the names. `get?_insert` says what an insertion
changes, `get?_ofPairs` that a later pair wins over an earlier one of the same name. -/
namespace Wayfinder

universe u
variable {β : Type u}

theorem eq_of_not_lt {a b : String} (hab : ¬a < b) (hba : ¬b < a) : a = b :=
  String.le_antisymm (String.not_lt.1 hba) (String.not_lt.1 hab)

structure SortedMap (β : Type u) where
  entries : List (String × β)
  sorted : entries.Pairwise fun a b => a.1 < b.1

namespace SortedMap

def putEntry (k : String) (v : β) : List (String × β) → List (String × β)
  | [] => [(k, v)]
  | e :: rest =>
    if k < e.1 then (k, v) :: e :: rest
    else if e.1 < k then e :: putEntry k v rest
    else (k, v) :: rest

theorem mem_putEntry {k : String} {v : β} {l : List (String × β)} {e : String × β}
    (h : e ∈ putEntry k v l) : e = (k, v) ∨ e ∈ l := by
  induction l with
  | nil => simpa [putEntry] using h
  | cons a rest ih =>
    rw [putEntry] at h
    split at h
    · simpa using h
    · split at h
      · rcases List.mem_cons.1 h with rfl | h
        · simp
        · rcases ih h with h | h <;> simp [h]
      · rcases List.mem_cons.1 h with h | h <;> simp [h]

theorem putEntry_sorted (k : String) (v : β) {l : List (String × β)}
    (h : l.Pairwise fun a b => a.1 < b.1) :
    (putEntry k v l).Pairwise fun a b => a.1 < b.1 := by
  induction l with
  | nil => simp [putEntry]
  | cons a rest ih =>
    obtain ⟨ha, hrest⟩ := List.pairwise_cons.1 h
    rw [putEntry]
    split
    · next hk =>
      refine List.pairwise_cons.2 ⟨fun e he => ?_, h⟩
      rcases List.mem_cons.1 he with rfl | he
      · exact hk
      · exact String.lt_trans hk (ha e he)
    · next hk =>
      split
      · next hak =>
        refine List.pairwise_cons.2 ⟨fun e he => ?_, ih hrest⟩
        rcases mem_putEntry he with rfl | he
        · exact hak
        · exact ha e he
      · next hak =>
        refine List.pairwise_cons.2 ⟨fun e he => ?_, hrest⟩
        have : k = a.1 := eq_of_not_lt hk hak
        exact this ▸ ha e he

def getEntry (k : String) : List (String × β) → Option β
  | [] => none
  | e :: rest => if e.1 = k then some e.2 else getEntry k rest

theorem getEntry_putEntry (k j : String) (v : β) (l : List (String × β)) :
    getEntry j (putEntry k v l) = if k = j then some v else getEntry j l := by
  induction l with
  | nil => simp [putEntry, getEntry]
  | cons a rest ih =>
    rw [putEntry]
    split
    · simp [getEntry]
    · next hk =>
      split
      · next hak =>
        rw [getEntry, ih, getEntry]
        by_cases h : k = j
        · subst h
          have : a.1 ≠ k := fun e => String.lt_irrefl k (e ▸ hak)
          simp [this]
        · simp [h]
      · next hak =>
        have : k = a.1 := eq_of_not_lt hk hak
        subst this
        by_cases h : a.1 = j <;> simp [getEntry, h]

def empty : SortedMap β := ⟨[], .nil⟩

instance : EmptyCollection (SortedMap β) := ⟨empty⟩

def get? (m : SortedMap β) (k : String) : Option β := getEntry k m.entries

def contains (m : SortedMap β) (k : String) : Bool := (m.get? k).isSome

def insert (m : SortedMap β) (k : String) (v : β) : SortedMap β :=
  ⟨putEntry k v m.entries, putEntry_sorted k v m.sorted⟩

def keys (m : SortedMap β) : List String := m.entries.map (·.1)

def size (m : SortedMap β) : Nat := m.entries.length

def isEmpty (m : SortedMap β) : Bool := m.entries.isEmpty

def ofPairs (pairs : List (String × β)) : SortedMap β :=
  pairs.foldl (fun m (k, v) => m.insert k v) empty

@[simp] theorem get?_empty (k : String) : (empty : SortedMap β).get? k = none := rfl

theorem get?_insert (m : SortedMap β) (k j : String) (v : β) :
    (m.insert k v).get? j = if k = j then some v else m.get? j :=
  getEntry_putEntry k j v m.entries

theorem keys_sorted (m : SortedMap β) : m.keys.Pairwise (· < ·) :=
  List.pairwise_map.2 m.sorted

theorem mem_keys {m : SortedMap β} {k : String} : k ∈ m.keys ↔ m.contains k = true := by
  change k ∈ m.entries.map (·.1) ↔ (getEntry k m.entries).isSome = true
  induction m.entries with
  | nil => simp [getEntry]
  | cons e rest ih =>
    by_cases he : e.1 = k
    · simp [getEntry, he]
    · simp [getEntry, he, Ne.symm he, ← ih]

theorem contains_insert (m : SortedMap β) (k j : String) (v : β) :
    (m.insert k v).contains j = true ↔ k = j ∨ m.contains j = true := by
  rw [contains, contains, get?_insert]
  by_cases h : k = j <;> simp [h]

theorem ext {m n : SortedMap β} (h : m.entries = n.entries) : m = n := by
  cases m; cases n; simpa using h

theorem putEntry_last {k : String} {v : β} {l : List (String × β)} (h : ∀ e ∈ l, e.1 < k) :
    putEntry k v l = l ++ [(k, v)] := by
  induction l with
  | nil => rfl
  | cons a rest ih =>
    have ha := h a (by simp)
    rw [putEntry, if_neg (String.lt_asymm ha), if_pos ha, ih fun e he => h e (by simp [he])]
    rfl

theorem foldl_insert_entries (pairs : List (String × β)) (m : SortedMap β)
    (h : (m.entries ++ pairs).Pairwise fun a b => a.1 < b.1) :
    (pairs.foldl (fun m (k, v) => m.insert k v) m).entries = m.entries ++ pairs := by
  induction pairs generalizing m with
  | nil => simp
  | cons p rest ih =>
    obtain ⟨k, v⟩ := p
    have hins : (m.insert k v).entries = m.entries ++ [(k, v)] :=
      putEntry_last fun e he => (List.pairwise_append.1 h).2.2 e he (k, v) (by simp)
    rw [List.foldl_cons, ih (m.insert k v) (by rw [hins]; simpa using h), hins]
    simp

/-- Collecting the entries of a map gives the map back. -/
theorem ofPairs_entries (m : SortedMap β) : ofPairs m.entries = m :=
  ext (foldl_insert_entries m.entries empty m.sorted)

end SortedMap
end Wayfinder
