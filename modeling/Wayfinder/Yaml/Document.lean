import Wayfinder.Doc.Basic
import Wayfinder.Yaml.Event
import Wayfinder.Yaml.Lexer

/-! The document of a YAML text. An alias stands for the node that its anchor names. Anchors are
numbered by the count of the names in use when they are met, and an alias refers to a number. What
is nested too deeply, or repeated too often, can be passed over but not read. -/
namespace Wayfinder.Yaml

/-- Aliases replaced by the numbers of the anchors in force, and the nodes by number. -/
def numberFrom (names : List (String × Nat)) :
    List Event → Option (List (Event × Option Nat) × List (Nat × Nat))
  | [] => some ([], [])
  | e :: rest => do
    let anchor := match e with
      | .scalar props _ _ | .sequenceStart props | .mappingStart props => props.anchor
      | _ => none
    let aliased ← match e with
      | .alias name => (names.lookup name).map some
      | _ => some none
    let number := match anchor with
      | some _ => some names.length
      | none => none
    let names := match anchor with
      | some a => (a, names.length) :: names.filter (·.1 != a)
      | none => names
    let (events, targets) ← numberFrom names rest
    let targets := match number with
      | some n => (n, events.length + 1) :: targets
      | none => targets
    return ((e, aliased) :: events, targets)

abbrev Numbered := List (Event × Option Nat)

/-- A node leaves what it says, the events behind it, and how many more aliases may be followed. -/
abbrev Composed (α : Type) := α × Numbered × Nat

def skipOpen : Nat → Numbered → Numbered
  | 0, es => es
  | _, [] => []
  | n + 1, (.collectionEnd, _) :: rest => skipOpen n rest
  | n + 1, (.sequenceStart _, _) :: rest | n + 1, (.mappingStart _, _) :: rest =>
    skipOpen (n + 2) rest
  | n + 1, _ :: rest => skipOpen (n + 1) rest

variable (target : Nat → Numbered)

mutual
/-- `room` is how many more collections may be nested. -/
def compose : Nat → Nat → Nat → Numbered → Composed Doc
  | 0, _, jumps, es => (.unreadable, es, jumps)
  | _, _, jumps, [] => (.unreadable, [], jumps)
  | fuel + 1, room, jumps, (e, number) :: rest =>
    match e with
    | .alias _ =>
      match jumps with
      | 0 => (.unreadable, rest, 0)
      | jumps + 1 =>
        let (d, _, jumps) := compose fuel room jumps (number.elim [] target)
        (d, rest, jumps)
    | .scalar props text style => (.scalar { text, style, tag := props.tag }, rest, jumps)
    | .sequenceStart props =>
      match room with
      | 0 => (.unreadable, skipOpen 1 rest, jumps)
      | room + 1 =>
        let (items, rest, jumps) := composeItems fuel room jumps rest
        (.sequence props.tag items, rest, jumps)
    | .mappingStart props =>
      match room with
      | 0 => (.unreadable, skipOpen 1 rest, jumps)
      | room + 1 =>
        let (entries, rest, jumps) := composeEntries fuel room jumps rest
        (.mapping props.tag entries, rest, jumps)
    | .collectionEnd => (.unreadable, rest, jumps)

def composeItems : Nat → Nat → Nat → Numbered → Composed (List Doc)
  | 0, _, jumps, es => ([], es, jumps)
  | _, _, jumps, [] => ([], [], jumps)
  | _, _, jumps, (.collectionEnd, _) :: rest => ([], rest, jumps)
  | fuel + 1, room, jumps, es =>
    let (d, es, jumps) := compose fuel room jumps es
    let (items, es, jumps) := composeItems fuel room jumps es
    (d :: items, es, jumps)

def composeEntries : Nat → Nat → Nat → Numbered → Composed (List (Doc × Doc))
  | 0, _, jumps, es => ([], es, jumps)
  | _, _, jumps, [] => ([], [], jumps)
  | _, _, jumps, (.collectionEnd, _) :: rest => ([], rest, jumps)
  | fuel + 1, room, jumps, es =>
    let (k, es, jumps) := compose fuel room jumps es
    let (v, es, jumps) := compose fuel room jumps es
    let (entries, es, jumps) := composeEntries fuel room jumps es
    ((k, v) :: entries, es, jumps)
end

def maxNesting : Nat := 128

def maxRepetition : Nat := 100

/-- The document of a text that holds at most one; an empty text is an empty record. -/
def document? (text : String) : Option Doc := do
  match ← (← tokens? text) |> events? with
  | [] => return .mapping none []
  | events =>
    let (numbered, targets) ← numberFrom [] events
    let n := numbered.length
    -- a place is counted from the end, and of two nodes with one number the later counts
    let target (i : Nat) : Numbered :=
      match targets.reverse.lookup i with
      | some fromEnd => numbered.drop (n - fromEnd)
      | none => []
    let (d, _, _) :=
      compose target ((n + 2) * (maxNesting + 2)) maxNesting (maxRepetition * n) numbered
    return d

end Wayfinder.Yaml
