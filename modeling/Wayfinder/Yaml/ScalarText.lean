import Wayfinder.Yaml.Glyph

/-! The text of a scalar in each of its five styles. Between the words of a flow scalar line ends
are folded: one alone becomes a space, of several the first is dropped. -/
namespace Wayfinder.Yaml

structure Gap where
  blanks : List Char := []
  first : Option Char := none
  more : List Char := []
  broken : Bool := false
  tabbed : Bool := false

def Gap.folded (gap : Gap) : List Char :=
  if gap.broken then
    match gap.first with
    | some '\n' => if gap.more.isEmpty then [' '] else gap.more
    | some c => c :: gap.more
    | none => gap.more
  else gap.blanks

/-- `indent` is the least column of a continued line. -/
def takeGap (indent : Int) (gap : Gap) : List Glyph → Gap × List Glyph
  | [] => (gap, [])
  | g :: rest =>
    if isBlank g.char then
      takeGap indent
        (if gap.broken then
          { gap with tabbed := gap.tabbed || (g.char == '\t' && (g.column : Int) < indent) }
        else { gap with blanks := gap.blanks ++ [g.char] }) rest
    else if isBreak g.char then
      takeGap indent
        (if gap.broken then { gap with more := gap.more ++ [g.char] }
        else { gap with blanks := [], first := some g.char, broken := true }) rest
    else (gap, g :: rest)

def isFlowIndicator (c : Char) : Bool :=
  c == ',' || c == '[' || c == ']' || c == '\x7b' || c == '\x7d'

def takePlainWord (flow : Bool) : List Glyph → Option (List Char × List Glyph)
  | [] => some ([], [])
  | g :: rest =>
    if isSpaceOrEnd g.char then some ([], g :: rest)
    else if flow && g.char == ':' && (isFlowIndicator (peek rest) || peek rest == '?') then none
    else if (g.char == ':' && isSpaceOrEnd (peek rest)) || (flow && isFlowIndicator g.char) then
      some ([], g :: rest)
    else (takePlainWord flow rest).map fun (word, rest) => (g.char :: word, rest)

/-- The text, and whether a line end followed it. -/
def takePlain (flow : Bool) (indent : Int) :
    Nat → Gap → List Glyph → Option (List Char × Bool × List Glyph)
  | 0, _, _ => none
  | fuel + 1, gap, gs =>
    if atDocumentMark gs || peek gs == '#' then some ([], gap.broken, gs)
    else do
      let (word, gs) ← takePlainWord flow gs
      let text := if word.isEmpty then [] else gap.folded ++ word
      if !(isBlank (peek gs) || isBreak (peek gs)) then
        return (text, word.isEmpty && gap.broken, gs)
      let (gap, gs) := takeGap indent {} gs
      if gap.tabbed then none
      else if !flow && (columnOf gs : Int) < indent then return (text, gap.broken, gs)
      else
        let (tail, broken, gs) ← takePlain flow indent fuel gap gs
        return (text ++ tail, broken, gs)

/-- A word of a quoted scalar, and whether it ended with an escaped line end. -/
abbrev QuotedWord := List Char × Bool × List Glyph

def takeSingleWord : List Glyph → QuotedWord
  | [] => ([], false, [])
  | g :: rest =>
    match g.char, rest with
    | '\'', q :: rest' =>
      if q.char = '\'' then
        let (word, escaped, rest) := takeSingleWord rest'
        ('\'' :: word, escaped, rest)
      else ([], false, g :: rest)
    | '\'', [] => ([], false, [g])
    | c, rest =>
      if isSpaceOrEnd c then ([], false, g :: rest)
      else
        let (word, escaped, rest) := takeSingleWord rest
        (c :: word, escaped, rest)

def simpleEscape? (c : Char) : Option Char :=
  match c with
  | '0' => some '\x00'
  | 'a' => some '\x07'
  | 'b' => some '\x08'
  | 't' | '\t' => some '\t'
  | 'n' => some '\n'
  | 'v' => some '\x0b'
  | 'f' => some '\x0c'
  | 'r' => some '\r'
  | 'e' => some '\x1b'
  | ' ' => some ' '
  | '"' => some '"'
  | '/' => some '/'
  | '\\' => some '\\'
  | 'N' => some '\u0085'
  | '_' => some '\u00a0'
  | 'L' => some '\u2028'
  | 'P' => some '\u2029'
  | _ => none

def escapeLength? : Char → Option Nat
  | 'x' => some 2
  | 'u' => some 4
  | 'U' => some 8
  | _ => none

def hexDigit? (c : Char) : Option Nat :=
  if '0' ≤ c && c ≤ '9' then some (c.toNat - 48)
  else if 'a' ≤ c && c ≤ 'f' then some (c.toNat - 87)
  else if 'A' ≤ c && c ≤ 'F' then some (c.toNat - 55)
  else none

def hexNumber? (cs : List Char) : Option Nat :=
  cs.foldlM (fun n c => (hexDigit? c).map (n * 16 + ·)) 0

def scalarValue? (n : Nat) : Option Char :=
  if n ≤ 0x10FFFF && !(0xD800 ≤ n && n ≤ 0xDFFF) then some (Char.ofNat n) else none

def takeCode? (n : Nat) (gs : List Glyph) : Option (Char × List Glyph) := do
  let c ← scalarValue? (← hexNumber? ((gs.take n).map (·.char)))
  return (c, gs.drop n)

def takeDoubleWord : Nat → List Glyph → Option QuotedWord
  | 0, _ => none
  | _, [] => some ([], false, [])
  | fuel + 1, g :: rest =>
    if isSpaceOrEnd g.char || g.char == '"' then some ([], false, g :: rest)
    else if g.char == '\\' then
      if isBreak (peek rest) then some ([], true, rest.drop 1)
      else do
        let e := peek rest
        let (c, rest) ← match escapeLength? e with
          | some n => takeCode? n (rest.drop 1)
          | none => (simpleEscape? e).map (·, rest.drop 1)
        let (word, escaped, rest) ← takeDoubleWord fuel rest
        return (c :: word, escaped, rest)
    else do
      let (word, escaped, rest) ← takeDoubleWord fuel rest
      return (g.char :: word, escaped, rest)

def takeQuoted (quote : Char) (takeWord : List Glyph → Option QuotedWord) :
    Nat → List Glyph → Option (List Char × List Glyph)
  | 0, _ => none
  | fuel + 1, gs =>
    if atDocumentMark gs || isEnd (peek gs) then none
    else do
      let (word, escaped, gs) ← takeWord gs
      if peek gs == quote then return (word, gs.drop 1)
      let (gap, gs) := takeGap 0 { broken := escaped } gs
      let (tail, gs) ← takeQuoted quote takeWord fuel gs
      return (word ++ gap.folded ++ tail, gs)

def takeSingleQuoted (gs : List Glyph) : Option (List Char × List Glyph) :=
  takeQuoted '\'' (fun gs => some (takeSingleWord gs)) (gs.length + 1) gs

def takeDoubleQuoted (gs : List Glyph) : Option (List Char × List Glyph) :=
  takeQuoted '"' (takeDoubleWord (gs.length + 1)) (gs.length + 1) gs

inductive Chomping where
  | strip
  | clip
  | keep

/-- Line ends and indentation before a line of a block scalar. With no indentation known yet, any
number of spaces is passed over and the greatest column reached is given. -/
def takeBlockBreaks (indent : Option Nat) (reached : Nat) (breaks : List Char) :
    List Glyph → Option (List Char × Nat × List Glyph)
  | [] => some (breaks, reached, [])
  | g :: rest =>
    let short := indent.all (g.column < ·)
    if short && g.char == ' ' then takeBlockBreaks indent reached breaks rest
    else
      let reached := max reached g.column
      if short && g.char == '\t' then none
      else if isBreak g.char then takeBlockBreaks indent reached (breaks ++ [g.char]) rest
      else some (breaks, reached, g :: rest)

/-- The lines of a block scalar. `first` is the line end of the line before, `breaks` those of the
empty lines after it, `indented` whether that line started with a blank. -/
def takeBlockLines (literal : Bool) (chomping : Chomping) (indent : Nat) :
    Nat → Option Char → List Char → Bool → List Glyph → Option (List Char × List Glyph)
  | 0, _, _, _, _ => none
  | fuel + 1, first, breaks, indented, gs =>
    if columnOf gs == indent && !isEnd (peek gs) then do
      let startsBlank := isBlank (peek gs)
      let join :=
        if !literal && first == some '\n' && !indented && !startsBlank then
          if breaks.isEmpty then [' '] else []
        else first.toList
      let (line, gs) := takeWhileChars (!isBreakOrEnd ·) gs
      let (first, gs) := if isBreak (peek gs) then (some (peek gs), gs.drop 1) else (none, gs)
      let (breaks', _, gs) ← takeBlockBreaks (some indent) 0 [] gs
      let (tail, gs) ← takeBlockLines literal chomping indent fuel first breaks' startsBlank gs
      return (join ++ breaks ++ line ++ tail, gs)
    else
      match chomping with
      | .strip => some ([], gs)
      | .clip => some (first.toList, gs)
      | .keep => some (first.toList ++ breaks, gs)

def chomping? : Char → Option Chomping
  | '+' => some .keep
  | '-' => some .strip
  | _ => none

def takeBlockHeader (gs : List Glyph) : Option (Chomping × Option Nat × List Glyph) :=
  let digit? (gs : List Glyph) : Option (Option Nat × List Glyph) :=
    if (peek gs).isDigit then
      if peek gs == '0' then none else some (some ((peek gs).toNat - 48), gs.drop 1)
    else some (none, gs)
  match chomping? (peek gs) with
  | some chomping => (digit? (gs.drop 1)).map fun (n, gs) => (chomping, n, gs)
  | none =>
    (digit? gs).map fun (n, gs) =>
      match n, chomping? (peek gs) with
      | some _, some chomping => (chomping, n, gs.drop 1)
      | _, _ => (.clip, n, gs)

def takeBlock (literal : Bool) (parent : Int) (gs : List Glyph) :
    Option (List Char × List Glyph) := do
  let (chomping, increment, gs) ← takeBlockHeader gs
  let gs := skipWhile isBlank gs
  let gs := if peek gs == '#' then skipWhile (!isBreakOrEnd ·) gs else gs
  guard (isBreakOrEnd (peek gs))
  let gs := if isBreak (peek gs) then gs.drop 1 else gs
  let given := increment.map fun n => (if 0 ≤ parent then parent else 0).toNat + n
  let (breaks, reached, gs) ← takeBlockBreaks given 0 [] gs
  let indent := given.getD (max (max reached (parent + 1).toNat) 1)
  takeBlockLines literal chomping indent (gs.length + 1) none breaks false gs

end Wayfinder.Yaml
