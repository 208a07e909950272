import Wayfinder.Yaml.Token
import Wayfinder.Yaml.ScalarText

/-! Taking a text apart into tokens. Indentation opens and closes block collections. A mapping key
is known as a key only when its colon is found, so the places where one may have started are kept,
one for each flow level, and the key token is put in afterwards. -/
namespace Wayfinder.Yaml

structure KeyPlace where
  /-- A block mapping at this column can go on only with a key. -/
  required : Bool
  tokens : Nat
  index : Nat
  line : Nat
  column : Nat

structure Lexer where
  rest : List Glyph
  tokens : Array Token := #[]
  indent : Int := -1
  indents : List Int := []
  /-- The key place of the innermost flow level first, that of the block level last. -/
  keys : List (Option KeyPlace) := [none]
  keyAllowed : Bool := true
  ended : Bool := false

namespace Lexer

def inFlow (l : Lexer) : Bool := l.keys.length > 1

def column (l : Lexer) : Nat := columnOf l.rest

def emit (l : Lexer) (t : Token) : Lexer := { l with tokens := l.tokens.push t }

def skip (n : Nat) (l : Lexer) : Lexer := { l with rest := l.rest.drop n }

def allowKey (b : Bool) (l : Lexer) : Lexer := { l with keyAllowed := b }

/-- Passes over blanks, comments and line ends. A tab counts as a blank where no key can start. -/
def skipToToken : Nat → Lexer → Lexer
  | 0, l => l
  | fuel + 1, l =>
    let tabs := l.inFlow || !l.keyAllowed
    let rest := skipWhile (fun c => c == ' ' || (tabs && c == '\t')) l.rest
    let rest := if peek rest == '#' then skipWhile (!isBreakOrEnd ·) rest else rest
    if isBreak (peek rest) then
      skipToToken fuel { l with rest := rest.drop 1, keyAllowed := l.keyAllowed || !l.inFlow }
    else { l with rest }

def skipByteOrderMark (l : Lexer) : Lexer := if peek l.rest == '\ufeff' then l.skip 1 else l

def maxKeyLength : Nat := 1024

/-- A key must have its colon on its own line and not too far away. -/
def dropStaleKeys (l : Lexer) : Option Lexer := do
  let here := l.rest.head?
  let keys ← l.keys.mapM fun
    | none => some none
    | some k =>
      let stale := here.any fun g => k.line < g.line || k.index + maxKeyLength < g.index
      if !stale then some (some k) else if k.required then none else some none
  return { l with keys }

def unroll (column : Int) (l : Lexer) : Lexer :=
  if l.inFlow then l
  else
    let closed := (l.indent :: l.indents).takeWhile (column < ·)
    match (l.indent :: l.indents).drop closed.length with
    | indent :: indents =>
      { l with indent, indents, tokens := l.tokens ++ Array.replicate closed.length .blockEnd }
    | [] => l

/-- Opens a block collection at `column`, before the token numbered `at?` when one is given. -/
def roll (column : Nat) (at? : Option Nat) (t : Token) (l : Lexer) : Lexer :=
  if l.inFlow || column ≤ l.indent then l
  else
    { l with
      indent := column
      indents := l.indent :: l.indents
      tokens := match at? with
        | some n => l.tokens.insertIdxIfInBounds n t
        | none => l.tokens.push t }

def setKey (k : Option KeyPlace) (l : Lexer) : Lexer := { l with keys := k :: l.keys.drop 1 }

def key? (l : Lexer) : Option KeyPlace := l.keys.head?.bind id

def dropKey (l : Lexer) : Option Lexer :=
  if l.key?.any (·.required) then none else some (l.setKey none)

def saveKey (l : Lexer) : Option Lexer :=
  if l.keyAllowed then do
    let g ← l.rest.head?
    let required := !l.inFlow && l.indent == g.column
    return (← l.dropKey).setKey
      (some ⟨required, l.tokens.size, g.index, g.line, g.column⟩)
  else some l

def isUriChar (verbatim : Bool) (c : Char) : Bool :=
  isWordChar c || ";/?:@&=+$.!~*'()".toList.contains c
    || (verbatim && (c == ',' || c == '[' || c == ']'))

def octetCount? (n : Nat) : Option Nat :=
  if n < 0x80 then some 1
  else if 0xC0 ≤ n && n < 0xE0 then some 2
  else if 0xE0 ≤ n && n < 0xF0 then some 3
  else if 0xF0 ≤ n && n < 0xF8 then some 4
  else none

def takeOctet? : List Glyph → Option (Nat × List Glyph)
  | p :: a :: b :: rest =>
    if p.char == '%' then do return (← hexNumber? [a.char, b.char], rest) else none
  | _ => none

def takeUriEscape? (gs : List Glyph) : Option (Char × List Glyph) := do
  let (first, gs) ← takeOctet? gs
  let count ← octetCount? first
  let lead := if count == 1 then first else first % (1 <<< (7 - count))
  let rec more : Nat → Nat → List Glyph → Option (Nat × List Glyph)
    | 0, n, gs => some (n, gs)
    | k + 1, n, gs => do
      let (o, gs) ← takeOctet? gs
      if 0x80 ≤ o && o < 0xC0 then more k (n * 64 + (o - 0x80)) gs else none
  let (n, gs) ← more (count - 1) lead gs
  return (Char.ofNat n, gs)

def takeUri (verbatim : Bool) : Nat → List Glyph → Option (List Char × List Glyph)
  | 0, _ => none
  | fuel + 1, gs =>
    if peek gs == '%' then do
      let (c, gs) ← takeUriEscape? gs
      let (cs, gs) ← takeUri verbatim fuel gs
      return (c :: cs, gs)
    else if isUriChar verbatim (peek gs) then do
      let (cs, rest) ← takeUri verbatim fuel (gs.drop 1)
      return (peek gs :: cs, rest)
    else some ([], gs)

def takeUri1 (verbatim : Bool) (gs : List Glyph) : Option (List Char × List Glyph) :=
  (takeUri verbatim (gs.length + 1) gs).filter fun r => !r.1.isEmpty

def takeHandle (gs : List Glyph) : Option (List Char × List Glyph) :=
  if peek gs == '!' then
    let (word, gs) := takeWhileChars isWordChar (gs.drop 1)
    if peek gs == '!' then some ('!' :: word ++ ['!'], gs.drop 1) else some ('!' :: word, gs)
  else none

/-- A tag in one of its forms `!<uri>`, `!handle!suffix`, `!suffix` and `!`. -/
def takeTag (gs : List Glyph) : Option (Token × List Glyph) :=
  if peekAt 1 gs == '<' then do
    let (uri, gs) ← takeUri1 true (gs.drop 2)
    guard (peek gs == '>')
    return (.tag "" (String.ofList uri), gs.drop 1)
  else do
    let (handle, gs) ← takeHandle gs
    if handle.length > 1 && handle.getLast? == some '!' then
      let (suffix, gs) ← takeUri1 false gs
      return (.tag (String.ofList handle) (String.ofList suffix), gs)
    else
      let (suffix, gs) ← takeUri false (gs.length + 1) gs
      match handle.drop 1 ++ suffix with
      | [] => return (.tag "" "!", gs)
      | suffix => return (.tag "!" (String.ofList suffix), gs)

def takeVersionNumber (gs : List Glyph) : Option (Nat × List Glyph) :=
  let (digits, gs) := takeWhileChars Char.isDigit gs
  if digits.isEmpty || digits.length > 9 then none
  else some (digits.foldl (fun n c => n * 10 + (c.toNat - 48)) 0, gs)

def takeDirective (gs : List Glyph) : Option (Token × List Glyph) := do
  let (name, gs) := takeWhileChars isWordChar gs
  guard (isSpaceOrEnd (peek gs))
  let gs := skipWhile isBlank gs
  let (t, gs) ← match String.ofList name with
    | "YAML" => do
      let (major, gs) ← takeVersionNumber gs
      guard (peek gs == '.')
      let (minor, gs) ← takeVersionNumber (gs.drop 1)
      some (Token.version major minor, gs)
    | "TAG" => do
      let (handle, gs) ← takeHandle gs
      guard (handle == ['!'] || handle.getLast? == some '!')
      guard (isBlank (peek gs))
      let (expansion, gs) ← takeUri1 true (skipWhile isBlank gs)
      guard (isSpaceOrEnd (peek gs))
      some (Token.tagPrefix (String.ofList handle) (String.ofList expansion), gs)
    | _ => none
  let gs := skipWhile isBlank gs
  let gs := if peek gs == '#' then skipWhile (!isBreakOrEnd ·) gs else gs
  guard (isBreakOrEnd (peek gs))
  return (t, if isBreak (peek gs) then gs.drop 1 else gs)

def finish (l : Lexer) : Option Lexer := do
  let l ← (l.unroll (-1)).dropKey
  return { l with ended := true }

def directive (l : Lexer) : Option Lexer := do
  let l ← (l.unroll (-1)).dropKey
  let (t, rest) ← takeDirective (l.rest.drop 1)
  return { l.emit t with rest, keyAllowed := false }

def documentMark (t : Token) (l : Lexer) : Option Lexer := do
  let l ← (l.unroll (-1)).dropKey
  return ((l.emit t).skip 3).allowKey false

def openFlow (t : Token) (l : Lexer) : Option Lexer := do
  let l ← l.saveKey
  return { (l.emit t).skip 1 with keys := none :: l.keys, keyAllowed := true }

def closeFlow (t : Token) (l : Lexer) : Option Lexer := do
  let l ← l.dropKey
  let keys := if l.inFlow then l.keys.drop 1 else l.keys
  return { (l.emit t).skip 1 with keys, keyAllowed := false }

def flowEntry (l : Lexer) : Option Lexer := do
  return (((← l.dropKey).emit .flowEntry).skip 1).allowKey true

def openBlock (t : Token) (l : Lexer) : Option Lexer :=
  if l.inFlow then some l
  else if l.keyAllowed then some (l.roll l.column none t)
  else none

def blockEntry (l : Lexer) : Option Lexer := do
  let l ← (← l.openBlock .blockSequenceStart).dropKey
  return ((l.emit .blockEntry).skip 1).allowKey true

def explicitKey (l : Lexer) : Option Lexer := do
  let l ← (← l.openBlock .blockMappingStart).dropKey
  return ((l.emit .key).skip 1).allowKey (!l.inFlow)

def value (l : Lexer) : Option Lexer :=
  match l.key? with
  | some k =>
    let l := { l with tokens := l.tokens.insertIdxIfInBounds k.tokens .key }
    let l := (l.roll k.column (some k.tokens) .blockMappingStart).setKey none
    some (((l.emit .value).skip 1).allowKey false)
  | none => do
    let l ← l.openBlock .blockMappingStart
    return ((l.emit .value).skip 1).allowKey (!l.inFlow)

def name (make : String → Token) (l : Lexer) : Option Lexer := do
  let l ← l.saveKey
  let (word, rest) := takeWhileChars isWordChar (l.rest.drop 1)
  let after := peek rest
  guard (!word.isEmpty && (isSpaceOrEnd after || "?:,]\x7d%@\x60".toList.contains after))
  return { l.emit (make (String.ofList word)) with rest, keyAllowed := false }

def tag (l : Lexer) : Option Lexer := do
  let l ← l.saveKey
  let (t, rest) ← takeTag l.rest
  guard (isSpaceOrEnd (peek rest) || (l.inFlow && peek rest == ','))
  return { l.emit t with rest, keyAllowed := false }

def blockScalar (literal : Bool) (l : Lexer) : Option Lexer := do
  let l ← l.dropKey
  let (text, rest) ← takeBlock literal l.indent (l.rest.drop 1)
  let t := Token.scalar (String.ofList text) (if literal then .literal else .folded)
  return { l.emit t with rest, keyAllowed := true }

def quotedScalar (double : Bool) (l : Lexer) : Option Lexer := do
  let l ← l.saveKey
  let take := if double then takeDoubleQuoted else takeSingleQuoted
  let (text, rest) ← take (l.rest.drop 1)
  let t := Token.scalar (String.ofList text) (if double then .doubleQuoted else .singleQuoted)
  return { l.emit t with rest, keyAllowed := false }

def plainScalar (l : Lexer) : Option Lexer := do
  let l ← l.saveKey
  let (text, broken, rest) ← takePlain l.inFlow (l.indent + 1) (l.rest.length + 1) {} l.rest
  return { l.emit (.scalar (String.ofList text) .plain) with rest, keyAllowed := broken }

def isIndicator (c : Char) : Bool := "-?:,[]\x7b\x7d#&*!|>'\"%@\x60".toList.contains c

def startsPlain (l : Lexer) : Bool :=
  let c := peek l.rest
  let next := peekAt 1 l.rest
  (!isSpaceOrEnd c && !isIndicator c) || (c == '-' && !isBlank next)
    || (!l.inFlow && (c == '?' || c == ':') && !isSpaceOrEnd next)

def step (l : Lexer) : Option Lexer := do
  let l := l.skipToToken (l.rest.length + 1)
  let l ← l.dropStaleKeys
  let l := l.unroll l.column
  let c := peek l.rest
  let stands := isSpaceOrEnd (peekAt 1 l.rest)
  if isEnd c then l.finish
  else if l.column == 0 && c == '%' then l.directive
  else if isDocumentMark '-' l.rest then l.documentMark .documentStart
  else if isDocumentMark '.' l.rest then l.documentMark .documentEnd
  else if c == '[' then l.openFlow .flowSequenceStart
  else if c == '\x7b' then l.openFlow .flowMappingStart
  else if c == ']' then l.closeFlow .flowSequenceEnd
  else if c == '\x7d' then l.closeFlow .flowMappingEnd
  else if c == ',' then l.flowEntry
  else if c == '-' && stands then l.blockEntry
  else if c == '?' && (l.inFlow || stands) then l.explicitKey
  else if c == ':' && (l.inFlow || stands) then l.value
  else if c == '*' then l.name .alias
  else if c == '&' then l.name .anchor
  else if c == '!' then l.tag
  else if c == '|' && !l.inFlow then l.blockScalar true
  else if c == '>' && !l.inFlow then l.blockScalar false
  else if c == '\'' then l.quotedScalar false
  else if c == '"' then l.quotedScalar true
  else if l.startsPlain then l.plainScalar
  else none

def run : Nat → Lexer → Option Lexer
  | 0, _ => none
  | fuel + 1, l => if l.ended then some l else l.step.bind (run fuel)

end Lexer

def tokens? (text : String) : Option (List Token) :=
  let cs := text.toList
  if cs.all isAllowed then do
    let gs := place 0 0 0 cs
    let l ← Lexer.run (gs.length + 2) (Lexer.skipByteOrderMark { rest := gs })
    return l.tokens.toList
  else none

end Wayfinder.Yaml
