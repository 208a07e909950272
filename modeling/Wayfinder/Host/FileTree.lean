import Wayfinder.Host.Basic
import Wayfinder.Text.Split

/-! Files held in memory. A tree lists its files and directories by their places, a place being the
names on the way from the root; what lies above an entry is a directory. Paths are walked name by
name from the working directory or the root, and every name but the last must be a directory. -/
namespace Wayfinder

abbrev Place := List String

inductive FileEntry where
  | directory
  | file (content : ByteArray)

structure FileTree where
  workingDirectory : Place := []
  /-- In the order in which a directory lists them. -/
  entries : List (Place × FileEntry) := []

namespace FileTree

def entry? (t : FileTree) (place : Place) : Option FileEntry :=
  match t.entries.lookup place with
  | some e => some e
  | none =>
    if place.isPrefixOf t.workingDirectory || t.entries.any (place.isPrefixOf ·.1)
    then some .directory else none

def put (t : FileTree) (place : Place) (e : FileEntry) : FileTree :=
  { t with entries :=
      if t.entries.any (·.1 == place)
      then t.entries.map fun old => if old.1 == place then (place, e) else old
      else t.entries ++ [(place, e)] }

structure Path where
  absolute : Bool
  names : List String
  slashed : Bool

def Path.read? (path : String) : Option Path :=
  if path.isEmpty then none
  else
    let names := (Text.split '/' path.toList).map String.ofList
    some ⟨path.startsWith "/", names.filter (· ≠ ""), path.endsWith "/"⟩

def Place.below (place : Place) : String → Place
  | "." => place
  | ".." => place.dropLast
  | name => place ++ [name]

def requireDirectory (t : FileTree) (place : Place) : Except FileFault Unit :=
  match t.entry? place with
  | some .directory => .ok ()
  | some (.file _) => .error .notDirectory
  | none => .error .notFound

def walk (t : FileTree) : Place → List String → Except FileFault Place
  | place, [] => .ok place
  | place, name :: rest => do
    t.requireDirectory place
    walk t (Place.below place name) rest

def walkPath (t : FileTree) (path : Path) : Except FileFault Place :=
  walk t (if path.absolute then [] else t.workingDirectory) path.names

def locate (t : FileTree) (path : String) : Except FileFault Place :=
  match Path.read? path with
  | none => .error .notFound
  | some path => do
    let place ← t.walkPath path
    if path.slashed then t.requireDirectory place
    return place

def locateFile (t : FileTree) (path : String) : Except FileFault Place :=
  match Path.read? path with
  | none => .error .notFound
  | some path => do
    let place ← t.walkPath path
    if path.slashed then throw .isDirectory
    return place

def read (t : FileTree) (path : String) : Except FileFault ByteArray := do
  match t.entry? (← t.locate path) with
  | some (.file content) => return content
  | some .directory => throw .isDirectory
  | none => throw .notFound

def nameBelow? : Place → Place → Option String
  | [], name :: _ => some name
  | d :: dir, p :: place => if d = p then nameBelow? dir place else none
  | _, [] => none

def namesAt (t : FileTree) (place : Place) : List String :=
  (t.entries.filterMap (nameBelow? place ·.1)).eraseDups

def names (t : FileTree) (path : String) : Except FileFault (Option (List String)) := do
  let place ← t.locate path
  match t.entry? place with
  | some .directory => return some (t.namesAt place)
  | some (.file _) => return none
  | none => throw .notFound

def update (t : FileTree) (path : String) (change : ByteArray → ByteArray) :
    Except FileFault FileTree := do
  let place ← t.locateFile path
  match t.entry? place with
  | some .directory => throw .isDirectory
  | some (.file content) => return t.put place (.file (change content))
  | none => return t.put place (.file (change .empty))

def write (t : FileTree) (path : String) (content : ByteArray) : Except FileFault FileTree :=
  t.update path fun _ => content

def append (t : FileTree) (path : String) (content : ByteArray) : Except FileFault FileTree :=
  t.update path (· ++ content)

end FileTree
end Wayfinder
