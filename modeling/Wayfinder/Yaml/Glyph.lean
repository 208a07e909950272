/-! A text as placed characters. Every line end but the two Unicode separators becomes one newline,
so a character's place is known before the text is taken apart. The last glyph is always NUL, which
no text can contain. -/
namespace Wayfinder.Yaml

structure Glyph where
  char : Char
  index : Nat
  line : Nat
  column : Nat
deriving Repr

def isAllowed (c : Char) : Bool :=
  let n := c.toNat
  n == 0x9 || n == 0xA || n == 0xD || (0x20 ≤ n && n ≤ 0x7E) || n == 0x85
    || (0xA0 ≤ n && n ≤ 0xD7FF) || (0xE000 ≤ n && n ≤ 0xFFFD) || 0x10000 ≤ n

def isBlank (c : Char) : Bool := c == ' ' || c == '\t'

def isBreak (c : Char) : Bool := c == '\n' || c == '\u2028' || c == '\u2029'

def isEnd (c : Char) : Bool := c == '\x00'

def isBreakOrEnd (c : Char) : Bool := isBreak c || isEnd c

def isSpaceOrEnd (c : Char) : Bool := isBlank c || isBreak c || isEnd c

def isWordChar (c : Char) : Bool := c.isAlphanum || c == '_' || c == '-'

def place (index line column : Nat) : List Char → List Glyph
  | [] => [⟨'\x00', index, line, column⟩]
  | '\r' :: '\n' :: rest => ⟨'\n', index, line, column⟩ :: place (index + 2) (line + 1) 0 rest
  | c :: rest =>
    let c := if c = '\r' || c = '\u0085' then '\n' else c
    ⟨c, index, line, column⟩ ::
      (if isBreak c then place (index + 1) (line + 1) 0 rest
       else place (index + 1) line (column + 1) rest)

def peekAt (n : Nat) (gs : List Glyph) : Char :=
  match gs[n]? with
  | some g => g.char
  | none => '\x00'

def peek : List Glyph → Char
  | g :: _ => g.char
  | [] => '\x00'

def columnOf : List Glyph → Nat
  | g :: _ => g.column
  | [] => 0

def skipWhile (p : Char → Bool) (gs : List Glyph) : List Glyph := gs.dropWhile fun g => p g.char

def takeWhileChars (p : Char → Bool) (gs : List Glyph) : List Char × List Glyph :=
  let (front, rest) := gs.span fun g => p g.char
  (front.map (·.char), rest)

/-- Whether a line starts here with `---` or `...` standing alone. -/
def isDocumentMark (c : Char) (gs : List Glyph) : Bool :=
  columnOf gs == 0 && peek gs == c && peekAt 1 gs == c && peekAt 2 gs == c
    && isSpaceOrEnd (peekAt 3 gs)

def atDocumentMark (gs : List Glyph) : Bool := isDocumentMark '-' gs || isDocumentMark '.' gs

end Wayfinder.Yaml
