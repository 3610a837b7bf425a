import SearchDsl.Yaml.Cursor
import SearchDsl.Yaml.Scalar
/-!
The five ways YAML writes a scalar's text: double-quoted with escapes, single-quoted, plain,
literal (`|`) and folded (`>`).

Quoted and plain scalars fold their line breaks: a single line feed between two lines becomes a
space, and each further break (an empty line) stays a line break; a run of breaks that starts
with a line or paragraph separator is kept whole; blanks at the end of a line are dropped. A
plain scalar ends at `: ` and before ` #`; in a block it also ends where a line does not stand
right of its parent, and in a flow collection at `,`, `[`, `]`, `{` and `}`; there a `:`
followed by one of these or by `?` is an error.

A block scalar keeps the lines indented at least as far as its content, and their line breaks
as written; a folded one joins adjacent lines that do not start with a blank, and that a single
line feed parts, by a space. Its chomping indicator drops all final line breaks (`-`), keeps one
(the default) or keeps them all (`+`).
-/

namespace SearchDsl.Yaml

/-- What a run of line breaks folds into: a line feed alone is a space, a line feed before
further breaks gives way to them, and a run that starts with another break is kept. -/
def foldBreaks : List Char → List Char
  | ['\n'] => [' ']
  | '\n' :: rest => rest
  | breaks => breaks

/-- The character a one-letter escape of a double-quoted scalar stands for. -/
def simpleEscape? : Char → Option Char
  | '0' => some '\x00'
  | 'a' => some '\x07'
  | 'b' => some '\x08'
  | 't' => some '\t'
  | '\t' => some '\t'
  | 'n' => some '\n'
  | 'v' => some '\x0b'
  | 'f' => some '\x0c'
  | 'r' => some '\r'
  | 'e' => some '\x1b'
  | ' ' => some ' '
  | '"' => some '"'
  | '/' => some '/'
  | '\\' => some '\\'
  | 'N' => some '\u0085'
  | '_' => some '\u00a0'
  | 'L' => some '\u2028'
  | 'P' => some '\u2029'
  | _ => none

def codeWidth : Char → Nat
  | 'x' => 2
  | 'u' => 4
  | 'U' => 8
  | _ => 0

def codeChar? (digits : List Char) : Option Char :=
  (digitsIn 16 digits).bind fun n =>
    if n < 0xd800 ∨ (0xdfff < n ∧ n < 0x110000) then some (Char.ofNat n) else none

/-- The line breaks crossed inside a quoted scalar, last first; after an escaped break the
breaks that follow are kept as they are. -/
structure Folding where
  breaks : List Char
  escaped : Bool

/-- Read the body of a double-quoted scalar after its opening quote. `acc` holds the text read
so far and `pending` the blanks not yet known to be inside a line, both last character first. -/
def doubleBody : Nat → Cursor → List Char → List Char → Option Folding → Except String (String × Cursor)
  | 0, _, _, _, _ => .error "text too deep"
  | fuel + 1, c, acc, pending, some f =>
    match c.rest with
    | [] => .error "unterminated double-quoted scalar"
    | ch :: _ =>
      if isBlank ch then doubleBody fuel c.advance acc pending (some f)
      else if isBreak ch then
        doubleBody fuel c.advance acc pending (some { f with breaks := ch :: f.breaks })
      else if c.atMarker then .error "document marker inside a quoted scalar"
      else
        let joined := if f.escaped then f.breaks.reverse else foldBreaks f.breaks.reverse
        doubleBody fuel c (joined.reverse ++ acc) [] none
  | fuel + 1, c, acc, pending, none =>
    match c.rest with
    | [] => .error "unterminated double-quoted scalar"
    | '"' :: _ => .ok (String.ofList (pending ++ acc).reverse, c.advance)
    | '\\' :: e :: r =>
      if isBreak e then doubleBody fuel (c.advanceBy 2) (pending ++ acc) [] (some ⟨[], true⟩)
      else
      match simpleEscape? e with
      | some x => doubleBody fuel (c.advanceBy 2) (x :: pending ++ acc) [] none
      | none =>
        let width := codeWidth e
        if width = 0 then .error "unknown escape"
        else
          match codeChar? (r.take width) with
          | some x =>
            if (r.take width).length = width then
              doubleBody fuel (c.advanceBy (2 + width)) (x :: pending ++ acc) [] none
            else .error "short code escape"
          | none => .error "invalid code escape"
    | ch :: _ =>
      if isBreak ch then doubleBody fuel c.advance acc [] (some ⟨[ch], false⟩)
      else if isBlank ch then doubleBody fuel c.advance acc (ch :: pending) none
      else doubleBody fuel c.advance (ch :: pending ++ acc) [] none

/-- Read the body of a single-quoted scalar after its opening quote; a doubled quote stands for
one. The line breaks being crossed are kept last first. -/
def singleBody : Nat → Cursor → List Char → List Char → Option (List Char) →
    Except String (String × Cursor)
  | 0, _, _, _, _ => .error "text too deep"
  | fuel + 1, c, acc, pending, some breaks =>
    match c.rest with
    | [] => .error "unterminated single-quoted scalar"
    | ch :: _ =>
      if isBlank ch then singleBody fuel c.advance acc pending (some breaks)
      else if isBreak ch then singleBody fuel c.advance acc pending (some (ch :: breaks))
      else if c.atMarker then .error "document marker inside a quoted scalar"
      else singleBody fuel c ((foldBreaks breaks.reverse).reverse ++ acc) [] none
  | fuel + 1, c, acc, pending, none =>
    match c.rest with
    | [] => .error "unterminated single-quoted scalar"
    | '\'' :: '\'' :: _ => singleBody fuel (c.advanceBy 2) ('\'' :: pending ++ acc) [] none
    | '\'' :: _ => .ok (String.ofList (pending ++ acc).reverse, c.advance)
    | ch :: _ =>
      if isBreak ch then singleBody fuel c.advance acc [] (some [ch])
      else if isBlank ch then singleBody fuel c.advance acc (ch :: pending) none
      else singleBody fuel c.advance (ch :: pending ++ acc) [] none

/-- Whether a plain scalar ends at this character: `:` before a blank, a break or the end, and
in a flow collection a flow indicator. -/
def plainStops (flow : Bool) (ch : Char) (r : List Char) : Bool :=
  (ch = ':' && blankOrEnd r) || (flow && isFlowIndicator ch)

/-- Whether a `:` inside a plain scalar of a flow collection is followed by a flow indicator or
`?`, which is an error. -/
def colonMisplaced (flow : Bool) (ch : Char) (r : List Char) : Bool :=
  flow && ch = ':' && r.head?.any fun x => isFlowIndicator x || x = '?'

/-- Read a plain scalar. `acc` holds its text and `pending` the blanks or folded breaks not yet
known to be inside it, last character first; the line breaks being crossed are kept last first.
The position returned is where reading stopped, after the blanks and line breaks that follow
the text. A tab in the indentation of a continuation line, left of the column after the
parent's, is an error. -/
def plainBody (flow : Bool) (parent : Int) :
    Nat → Cursor → List Char → List Char → Option (List Char) → Except String (String × Cursor)
  | 0, c, acc, _, _ => .ok (String.ofList acc.reverse, c)
  | fuel + 1, c, acc, pending, some breaks =>
    match c.rest with
    | [] => .ok (String.ofList acc.reverse, c)
    | ch :: _ =>
      if ch = '\t' && (c.col : Int) < parent + 1 then .error "a tab in the indentation of a plain scalar"
      else if isBlank ch then plainBody flow parent fuel c.advance acc pending (some breaks)
      else if isBreak ch then plainBody flow parent fuel c.advance acc pending (some (ch :: breaks))
      else if c.atMarker || ch = '#' || (!flow && (c.col : Int) ≤ parent) then
        .ok (String.ofList acc.reverse, c)
      else plainBody flow parent fuel c acc (foldBreaks breaks.reverse).reverse none
  | fuel + 1, c, acc, pending, none =>
    match c.rest with
    | [] => .ok (String.ofList acc.reverse, c)
    | ch :: r =>
      if isBreak ch then plainBody flow parent fuel c.advance acc [] (some [ch])
      else if isBlank ch then plainBody flow parent fuel c.advance acc (ch :: pending) none
      else if (ch = '#' && !pending.isEmpty) || plainStops flow ch r then
        .ok (String.ofList acc.reverse, c)
      else if colonMisplaced flow ch r then .error "a colon before a flow indicator"
      else plainBody flow parent fuel c.advance (ch :: pending ++ acc) [] none

def plainScalar (flow : Bool) (parent : Int) (c : Cursor) : Except String (String × Cursor) :=
  plainBody flow parent (c.rest.length + 1) c [] [] none

def quotedScalar (c : Cursor) : Except String (String × Cursor) :=
  match c.rest with
  | '"' :: _ => doubleBody (2 * c.rest.length + 2) c.advance [] [] none
  | _ => singleBody (2 * c.rest.length + 2) c.advance [] [] none

/-- How a block scalar treats its final line breaks. -/
inductive Chomping where
  | strip | clip | keep
  deriving DecidableEq

/-- The indicators of a block scalar. -/
structure BlockHeader where
  literal : Bool
  chomping : Chomping := .clip
  increment : Option Nat := none

/-- Read one indicator after `|` or `>` into a header: a chomping sign or an indentation digit
from 1 to 9, each at most once. -/
def BlockHeader.take (h : BlockHeader) (ch : Char) : Option (Except String BlockHeader) :=
  if ch = '-' || ch = '+' then
    if h.chomping = .clip then some (.ok { h with chomping := if ch = '-' then .strip else .keep })
    else some (.error "repeated chomping indicator")
  else if ch.isDigit then
    if ch = '0' then some (.error "indentation indicator 0")
    else if h.increment.isNone then some (.ok { h with increment := some (ch.toNat - '0'.toNat) })
    else some (.error "repeated indentation indicator")
  else none

/-- Read the header of a block scalar at `|` or `>`: its indicators, then blanks and a comment
up to the line break. The position returned is at that break, or at the end. -/
def blockHeader (c : Cursor) : Except String (BlockHeader × Cursor) := do
  let h0 : BlockHeader := { literal := c.peek? = some '|' }
  let c := c.advance
  let (h, c) ← match c.peek? >>= h0.take with
    | none => pure (h0, c)
    | some r => do
      let h1 ← r
      let c := c.advance
      match c.peek? >>= h1.take with
      | none => pure (h1, c)
      | some r => do pure (← r, c.advance)
  let c := c.skipInline
  match c.rest with
  | [] => pure (h, c)
  | '#' :: _ => pure (h, skipToBreak c.rest c.col)
  | ch :: _ => if isBreak ch then pure (h, c) else throw "unexpected text after a block scalar header"
where
  skipToBreak : List Char → Nat → Cursor
    | [], col => ⟨[], col⟩
    | ch :: r, col => if isBreak ch then ⟨ch :: r, col⟩ else skipToBreak r (col + 1)

/-- A line of a block scalar: an empty one with its line break, or its text after the
indentation and the line break that ends it, if any. -/
inductive BlockLine where
  | empty (brk : Char)
  | text (chars : List Char) (brk : Option Char)

def dropIndent : Nat → List Char → Nat × List Char
  | n + 1, ' ' :: r => let (k, r') := dropIndent n r; (k + 1, r')
  | _, cs => (0, cs)

def splitLine : List Char → List Char × List Char
  | [] => ([], [])
  | c :: r => if isBreak c then ([], c :: r) else let (l, rest) := splitLine r; (c :: l, rest)

/-- The lines of a block scalar indented by `indent`, read from the start of a line; the rest
is returned from a line break before the first line that is not the scalar's. A tab left of
the indentation is an error, also on the line that ends the scalar. -/
def blockLines (indent : Nat) : Nat → List Char → Except String (List BlockLine × List Char)
  | 0, cs => .ok ([], '\n' :: cs)
  | fuel + 1, cs =>
    let (k, r) := dropIndent indent cs
    if k < indent && r.head? = some '\t' then .error "a tab in the indentation of a block scalar"
    else
      match r with
      | [] => .ok ([], [])
      | ch :: r' =>
        if isBreak ch then do
          let (ls, rest) ← blockLines indent fuel r'
          pure (.empty ch :: ls, rest)
        else if k < indent then .ok ([], '\n' :: cs)
        else
          match splitLine r with
          | (text, []) => .ok ([.text text none], [])
          | (text, b :: r') => do
            let (ls, rest) ← blockLines indent fuel r'
            pure (.text text (some b) :: ls, rest)

/-- The widest indentation of the leading empty lines and the first line with content. Their
indentation is spaces only: a tab in it is an error. -/
def leadingIndent (cur best : Nat) : List Char → Except String Nat
  | ' ' :: r => leadingIndent (cur + 1) best r
  | '\t' :: _ => .error "a tab in the indentation of a block scalar"
  | c :: r => if isBreak c then leadingIndent 0 (max best cur) r else .ok (max best cur)
  | [] => .ok (max best cur)

/-- The text of a block scalar's lines. `lead` is the line break that ends the last text line,
`trailing` the breaks of the empty lines since, and `blankStart` says the last text line started
with a blank. A folded scalar joins two text lines by a space where a single line feed parts
them and neither starts with a blank; every other break is kept as it is. -/
def blockText (literal : Bool) (chomping : Chomping) :
    List BlockLine → List Char → Option Char → List Char → Bool → List Char
  | [], acc, lead, trailing, _ =>
    match chomping with
    | .strip => acc
    | .clip => acc ++ lead.toList
    | .keep => acc ++ lead.toList ++ trailing
  | .empty b :: ls, acc, lead, trailing, blankStart =>
    blockText literal chomping ls acc lead (trailing ++ [b]) blankStart
  | .text t brk :: ls, acc, lead, trailing, blankStart =>
    let startsBlank := t.head?.any isBlank
    let sep : List Char :=
      if !literal && lead = some '\n' && !blankStart && !startsBlank then
        (if trailing.isEmpty then [' '] else [])
      else lead.toList
    blockText literal chomping ls (acc ++ sep ++ trailing ++ t) brk [] startsBlank

/-- Read a block scalar at `|` or `>` whose parent stands at column `parent` (-1 at the top).
The position returned is at the line break before the next line, or at the end. -/
def blockScalar (parent : Int) (c : Cursor) : Except String (String × Cursor) := do
  let (h, c) ← blockHeader c
  match c.rest with
  | [] => pure ("", c)
  | _ :: body =>
    let floor : Nat := (parent + 1).toNat
    let indent : Nat ← match h.increment with
      | some i => pure (if parent ≥ 0 then parent.toNat + i else i)
      | none => do pure (max (max (← leadingIndent 0 0 body) floor) 1)
    let (lines, rest) ← blockLines indent (body.length + 1) body
    pure (String.ofList (blockText h.literal h.chomping lines [] none [] false), ⟨rest, 0⟩)

end SearchDsl.Yaml
