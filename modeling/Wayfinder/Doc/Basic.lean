import Wayfinder.Page.Template
import Wayfinder.Yaml.Scalar

/-! Documents from which values are decoded. A document is a typed value, or a YAML node whose
scalars are still as they were written. A text field takes a written scalar as it stands. Where the
kind of a value decides what it means, the node is settled first: its scalars become the values that
they spell, and application tags are refused. -/
namespace Wayfinder

inductive Doc where
  | json (j : Json)
  | nonFinite
  | list (items : List Doc)
  | record (entries : List (Doc × Doc))
  | scalar (s : Yaml.Scalar)
  | sequence (tag : Option String) (items : List Doc)
  | mapping (tag : Option String) (entries : List (Doc × Doc))
  | unreadable

abbrev Decoder (α : Type) := Doc → Option α

namespace Doc

def ofReading : Yaml.Reading → Doc
  | .json j => .json j
  | .nonFinite => .nonFinite

def isRefusedTag (tag : Option String) : Bool := tag.any Yaml.isApplicationTag

mutual
def settle : Doc → Option Doc
  | .scalar s => s.reading?.map ofReading
  | .sequence tag items => if isRefusedTag tag then none else (settleItems items).map .list
  | .mapping tag entries => if isRefusedTag tag then none else (settleEntries entries).map .record
  | .unreadable => none
  | .json j => some (.json j)
  | .nonFinite => some .nonFinite
  | .list items => some (.list items)
  | .record entries => some (.record entries)

def settleItems : List Doc → Option (List Doc)
  | [] => some []
  | d :: rest => do return (← settle d) :: (← settleItems rest)

def settleEntries : List (Doc × Doc) → Option (List (Doc × Doc))
  | [] => some []
  | (k, v) :: rest => do return (← settle k, ← settle v) :: (← settleEntries rest)
end

mutual
/-- A settled document as a JSON value. Keys must be strings; the last of a name wins. -/
def json? : Doc → Option Json
  | .json j => some j
  | .nonFinite => some .null
  | .list items => (jsonItems? items).map .arr
  | .record entries => (jsonEntries? entries).map fun l => .obj (SortedMap.ofPairs l).entries
  | _ => none

def jsonItems? : List Doc → Option (List Json)
  | [] => some []
  | d :: rest => do return (← json? d) :: (← jsonItems? rest)

def jsonEntries? : List (Doc × Doc) → Option (List (String × Json))
  | [] => some []
  | (.json (.str k), v) :: rest => do return (k, ← json? v) :: (← jsonEntries? rest)
  | _ => none
end

def text? : Decoder String
  | .scalar s => some s.text
  | .json (.str s) => some s
  | _ => none

def flag? : Decoder Bool
  | .json (.bool b) => some b
  | _ => none

def natUpTo? (bound : Nat) : Decoder Nat
  | .scalar s => s.natUpTo? bound
  | .json (.num (.whole n)) => if 0 ≤ n && n ≤ bound then some n.toNat else none
  | _ => none

def optional? (read : Decoder α) : Decoder (Option α)
  | .json .null => some none
  | .scalar s =>
    s.absent?.bind fun absent => if absent then some none else (read (.scalar s)).map some
  | d => (read d).map some

def items? : Decoder (List Doc)
  | .json (.arr items) => some (items.map .json)
  | .list items | .sequence _ items => some items
  | .scalar s => if s.isEmptyPlain then some [] else none
  | _ => none

def listOf (read : Decoder α) : Decoder (List α) := fun d => d.items?.bind (·.mapM read)

def args? : Decoder Args
  | .json (.obj fields) => some (SortedMap.ofPairs fields)
  | .record entries => (jsonEntries? entries).map SortedMap.ofPairs
  | _ => none

/-- How a key of a record is understood: as the field at an index, as none of the fields, or not
at all. -/
def fieldIndex? (names : List String) : Doc → Option (Option Nat)
  | .scalar s => some (names.idxOf? s.text)
  | .json (.str s) => some (names.idxOf? s)
  | .json (.num (.whole n)) =>
    if n < 0 then none else some (if n.toNat < names.length then some n.toNat else none)
  | _ => none

def pick? (names : List String) (entries : List (Doc × Doc)) : Option (List (Option Doc)) := do
  let indexed ← entries.mapM fun (k, v) => (fieldIndex? names k).map (·, v)
  (List.range names.length).mapM fun i =>
    match indexed.filterMap fun (j, v) => if j = some i then some v else none with
    | [] => some none
    | [v] => some (some v)
    | _ => none

/-- Settled records may also list their fields in place, without the last ones. -/
def inPlace? (names : List String) (items : List Doc) : Option (List (Option Doc)) :=
  if items.length ≤ names.length then some ((List.range names.length).map (items[·]?)) else none

def fields? (names : List String) : Doc → Option (List (Option Doc))
  | .json (.obj fields) => pick? names (fields.map fun (k, v) => (.json (.str k), .json v))
  | .json (.arr items) => inPlace? names (items.map .json)
  | .record entries | .mapping _ entries => pick? names entries
  | .list items => inPlace? names items
  | .scalar s => if s.isEmptyPlain then some (names.map fun _ => none) else none
  | _ => none

def required (read : Decoder α) : Option Doc → Option α := (·.bind read)

def defaulted (default : α) (read : Decoder α) : Option Doc → Option α
  | none => some default
  | some d => read d

def optional (read : Decoder α) : Option Doc → Option (Option α) := defaulted none (optional? read)

def variantName? (names : List String) : Decoder String
  | .scalar s => if s.text ∈ names then some s.text else none
  | .json (.str s) => if s ∈ names then some s else none
  | .json (.num (.whole n)) => if n < 0 then none else names[n.toNat]?
  | _ => none

def splitTag (tag : String) : List (Doc × Doc) → Option (List Doc × List (Doc × Doc))
  | [] => some ([], [])
  | (k, v) :: rest => do
    let (tags, entries) ← splitTag tag rest
    match ← settle k with
    | .json (.str s) =>
      if s = tag then return (v :: tags, entries)
      else return (tags, (.json (.str s), ← settle v) :: entries)
    | k => return (tags, (k, ← settle v) :: entries)

def taggedRecord? (tag : String) (names : List String) (entries : List (Doc × Doc)) :
    Option (String × Doc) := do
  match ← splitTag tag entries with
  | ([t], entries) => return (← variantName? names t, .record entries)
  | _ => none

def taggedList? (names : List String) : List Doc → Option (String × Doc)
  | [] => none
  | t :: rest => do return (← variantName? names t, .list (← settleItems rest))

/-- The variant that a record names under `tag`, with the other entries settled. In a list the
name comes first. -/
def variant? (tag : String) (names : List String) : Doc → Option (String × Doc)
  | .json (.obj fields) =>
    taggedRecord? tag names (fields.map fun (k, v) => (.json (.str k), .json v))
  | .json (.arr items) => taggedList? names (items.map .json)
  | .record entries => taggedRecord? tag names entries
  | .list items => taggedList? names items
  | .mapping t entries => if isRefusedTag t then none else taggedRecord? tag names entries
  | .sequence t items => if isRefusedTag t then none else taggedList? names items
  | _ => none

end Doc
end Wayfinder
