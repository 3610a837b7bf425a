import SearchDsl.Json.Basic
/-!
Positions in a YAML text and the blanks between its tokens. A position is what is left to read
with the column of its first character; the block structure of YAML is read off those columns.
Comments run from `#` to the end of the line, and a byte order mark at the start of a line
counts as one column of space; a document marker is `---` or `...` in the first
column, followed by a blank, a line break or the end. A line break is a line feed, or a line or
paragraph separator (U+2028, U+2029); other breaks are line feeds by the time a cursor reads them.
-/

namespace SearchDsl.Yaml

/-- What is left of a YAML text, and the column of its first character. -/
structure Cursor where
  rest : List Char
  col : Nat
  deriving Inhabited

def isBlank (c : Char) : Bool := c = ' ' || c = '\t'

def isBreak (c : Char) : Bool := c = '\n' || c = '\u2028' || c = '\u2029'

def isSpace (c : Char) : Bool := isBlank c || isBreak c

def blankOrEnd : List Char → Bool
  | [] => true
  | c :: _ => isSpace c

def isFlowIndicator (c : Char) : Bool := c = ',' || c = '[' || c = ']' || c = '{' || c = '}'

def isAnchorChar (c : Char) : Bool := c.isAlphanum || c = '-' || c = '_'

namespace Cursor

def advance (c : Cursor) : Cursor :=
  match c.rest with
  | [] => c
  | ch :: r => if isBreak ch then ⟨r, 0⟩ else ⟨r, c.col + 1⟩

def peek? (c : Cursor) : Option Char := c.rest.head?

def atEnd (c : Cursor) : Bool := c.rest.isEmpty

def atMarker (c : Cursor) : Bool :=
  c.col = 0 &&
    match c.rest with
    | '-' :: '-' :: '-' :: r | '.' :: '.' :: '.' :: r => blankOrEnd r
    | _ => false

def live (c : Cursor) : Bool := !c.atEnd && !c.atMarker

def breaksBefore (c later : Cursor) : Bool :=
  (c.rest.take (c.rest.length - later.rest.length)).any isBreak

/-- Whether a key starting here can no longer be a key at a later position: a line break lies
between them, or more than 1024 bytes of UTF-8 do. -/
def keyLapsed (c later : Cursor) : Bool :=
  c.breaksBefore later ||
    1024 < (String.ofList (c.rest.take (c.rest.length - later.rest.length))).utf8ByteSize

end Cursor

def skipBlanks : List Char → Nat → Cursor
  | c :: r, col => if isBlank c then skipBlanks r (col + 1) else ⟨c :: r, col⟩
  | [], col => ⟨[], col⟩

/-- Whether a character is a byte order mark in the first column, which the gaps between tokens
pass over like a blank. -/
def isLeadingMark (c : Char) (col : Nat) : Bool := col = 0 && c = '\uFEFF'

/-- Skip blanks, line breaks and comments; `inComment` says a comment is being skipped. -/
def skipSpaceFrom (inComment : Bool) : List Char → Nat → Cursor
  | [], col => ⟨[], col⟩
  | c :: r, col =>
    if isBreak c then skipSpaceFrom false r 0
    else if inComment || isBlank c || isLeadingMark c col then skipSpaceFrom inComment r (col + 1)
    else if c = '#' then skipSpaceFrom true r (col + 1)
    else ⟨c :: r, col⟩

/-- Skip spaces, line breaks and comments between the tokens of a block. A tab may separate
tokens only after a token on the same line (`tabOk`); at the start of a line, where it would
stand for indentation, it is an error. -/
def skipGapFrom (tabOk inComment : Bool) : List Char → Nat → Except String Cursor
  | [], col => .ok ⟨[], col⟩
  | c :: r, col =>
    if isBreak c then skipGapFrom false false r 0
    else if inComment || c = ' ' || isLeadingMark c col then skipGapFrom tabOk inComment r (col + 1)
    else if c = '\t' then
      if tabOk then skipGapFrom tabOk false r (col + 1)
      else .error "a tab where indentation is expected"
    else if c = '#' then skipGapFrom tabOk true r (col + 1)
    else .ok ⟨c :: r, col⟩

def skipSpacesFrom : List Char → Nat → Except String Cursor
  | ' ' :: r, col => skipSpacesFrom r (col + 1)
  | '\t' :: _, _ => .error "a tab after an indicator"
  | cs, col => .ok ⟨cs, col⟩

namespace Cursor

def gap (tabOk : Bool) (c : Cursor) : Except String Cursor := skipGapFrom tabOk false c.rest c.col

def skipSpaces (c : Cursor) : Except String Cursor := skipSpacesFrom c.rest c.col

def skipInline (c : Cursor) : Cursor := skipBlanks c.rest c.col

def skipSpace (c : Cursor) : Cursor := skipSpaceFrom false c.rest c.col

def flowGap (c : Cursor) : Except String Cursor :=
  let c := c.skipSpace
  if c.atMarker then .error "document marker inside a flow collection" else .ok c

def atLineEnd (c : Cursor) : Bool :=
  match (c.skipInline).rest with
  | [] | '#' :: _ => true
  | ch :: _ => isBreak ch

/-- The end of a node on its line: only blanks and a comment may follow it. The position
returned is at the next token. -/
def finishLine (c : Cursor) : Except String Cursor :=
  if c.atLineEnd then c.gap true else .error "unexpected content after a node"

def advanceBy (c : Cursor) : Nat → Cursor
  | 0 => c
  | n + 1 => c.advance.advanceBy n

end Cursor

def startsEntry : List Char → Bool
  | '-' :: r => blankOrEnd r
  | _ => false

/-- Drop an anchor or tag and the blanks after it, when the text starts with one. An anchor's
name is a word; a tag runs to a blank. -/
def dropProperty : List Char → List Char
  | '&' :: r => (r.dropWhile isAnchorChar).dropWhile isBlank
  | '!' :: r => (r.dropWhile fun x => !isSpace x).dropWhile isBlank
  | cs => cs

/-- Whether a plain text reaches a `:` followed by a blank, a break or the end before the line
ends or a comment starts. -/
def plainReachesColon : List Char → Bool
  | [] => false
  | [':'] => true
  | ':' :: rest@(c :: _) => isSpace c || plainReachesColon rest
  | c :: rest@('#' :: _) => if isSpace c then false else plainReachesColon rest
  | c :: rest => !isBreak c && plainReachesColon rest

/-- The rest of a line after a quoted text whose opening quote is already read; none when the
line ends first. In double quotes a backslash escapes the next character; in single quotes a
doubled quote stands for one. -/
def afterQuoted (quote : Char) : List Char → Option (List Char)
  | [] => none
  | c :: r =>
    if isBreak c then none
    else if c = '\\' && quote = '"' then
      match r with
      | _ :: r' => afterQuoted quote r'
      | [] => none
    else if c = quote then
      match r with
      | c' :: r' => if quote = '\'' && c' = '\'' then afterQuoted quote r' else some (c' :: r')
      | [] => some []
    else afterQuoted quote r

def colonFollows (cs : List Char) : Bool :=
  match cs.dropWhile isBlank with
  | ':' :: r => blankOrEnd r
  | _ => false

def startsExplicitKey : List Char → Bool
  | '?' :: r => blankOrEnd r
  | _ => false

/-- Whether a line starts a block mapping entry: an explicit key (`? `), or an implicit key
(an optional anchor and tag, then a quoted text, an alias or a plain text on this line)
followed by `:` and a blank. -/
def startsKey (cs : List Char) : Bool :=
  match dropProperty (dropProperty cs) with
  | '"' :: r => (afterQuoted '"' r).any colonFollows
  | '\'' :: r => (afterQuoted '\'' r).any colonFollows
  | '*' :: r => colonFollows (r.dropWhile isAnchorChar)
  | '[' :: _ | '{' :: _ | ']' :: _ | '}' :: _ | ',' :: _ | '#' :: _ | '&' :: _ | '!' :: _
  | '|' :: _ | '>' :: _ | '%' :: _ | '@' :: _ | '\x60' :: _ => false
  | '?' :: r => blankOrEnd r || plainReachesColon r
  | '-' :: r => !blankOrEnd r && plainReachesColon r
  | ':' :: r => blankOrEnd r || plainReachesColon r
  | r => plainReachesColon r

end SearchDsl.Yaml
