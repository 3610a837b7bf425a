import SearchDsl.Yaml.Styles
import SearchDsl.Yaml.Tags
import SearchDsl.Yaml.Node
/-!
Reading a YAML text of at most one document into JSON.

The block structure is read off columns: the entries of a block sequence (`- `) and the keys of
a block mapping (`key: `) stand in one column, and what belongs to an entry or key stands right
of it, except that a sequence, or a block scalar with nothing before it on its line, may be a
key's value in the key's own column. Flow collections (`[...]`, `{...}`) may span lines freely.
An anchor (`&name`) and a tag may stand before a node, on its line or on lines of their own
above it, each at most once; an alias (`*name`) has neither.

Reading gives the document's root node and its anchors, which `Yaml.Node` turns into JSON. A
text with no document is null, and a second document is an error.
-/

namespace SearchDsl.Yaml

/-- What reading a document knows besides its text: the tag handles its directives declare, and
its anchors so far. -/
structure Scope where
  handles : List (String × String) := []
  anchors : Anchors := {}
  deriving Inhabited

/-- Whether the name of an anchor or alias may end before this text: at a blank, a line break,
the end, or one of the indicators `?`, `:`, `,`, `]`, `}`, `%`, `@` and the backquote. -/
def endsName : List Char → Bool
  | [] => true
  | c :: _ => isSpace c || c = '?' || c = ':' || c = ',' || c = ']' || c = '}' || c = '%' ||
      c = '@' || c = '\x60'

/-- The anchor and tag written before a node. -/
structure Props where
  anchor : Option String := none
  tag : Option String := none

namespace Props

def isEmpty (p : Props) : Bool := p.anchor.isNone && p.tag.isNone

def enter (p : Props) (env : Scope) : Option (Nat × Nat) × Scope :=
  match p.anchor with
  | some a => let (t, anchors) := env.anchors.enter a; (some t, { env with anchors := anchors })
  | none => (none, env)

/-- Give a node read after its properties its tag, and record it under its anchor. An alias
takes neither. -/
def finish (p : Props) (ticket : Option (Nat × Nat)) (n : Node) (env : Scope) :
    Except String (Node × Scope) := do
  if !p.isEmpty && n.isAlias then throw "an alias may not have an anchor or a tag"
  let n := n.withTag p.tag
  pure (n, match ticket with
    | some t => { env with anchors := env.anchors.record t n }
    | none => env)

/-- Read one anchor or tag into the properties; none when no property starts here. After it
come blanks, or in a flow collection any spaces. -/
def readOne (flow : Bool) (handles : List (String × String)) (p : Props) (c : Cursor) :
    Except String (Option (Props × Cursor)) :=
  let next (c : Cursor) : Cursor := if flow then c.skipSpace else c.skipInline
  match c.rest with
  | '&' :: r =>
    let name := r.takeWhile isAnchorChar
    if p.anchor.isSome then .error "two anchors on one node"
    else if name.isEmpty || !endsName (r.drop name.length) then .error "invalid anchor"
    else .ok (some ({ p with anchor := some (String.ofList name) }, next (c.advanceBy (name.length + 1))))
  | '!' :: _ => do
    if p.tag.isSome then throw "two tags on one node"
    let (tok, n) ← scanTag flow c.rest
    let tag ← tok.resolve handles
    pure (some ({ p with tag := some tag }, next (c.advanceBy n)))
  | _ => .ok none

/-- Read the anchor and tag before a node, in either order, adding to those read on earlier
lines. -/
def read (flow : Bool) (handles : List (String × String)) (p : Props) (c : Cursor) :
    Except String (Props × Cursor) := do
  match ← readOne flow handles p c with
  | none => pure (p, c)
  | some (p, c) =>
    match ← readOne flow handles p c with
    | none => pure (p, c)
    | some pc => pure pc

end Props

/-- An alias: the number its name stands for here. Its name ends as an anchor's does. -/
def readAlias (c : Cursor) (env : Scope) : Except String (Node × Cursor) :=
  let name := c.rest.tail.takeWhile isAnchorChar
  if name.isEmpty || !endsName (c.rest.tail.drop name.length) then .error "invalid alias"
  else
    match env.anchors.idOf (String.ofList name) with
    | some id => .ok (.alias id, c.advanceBy (name.length + 1))
    | none => .error "unknown anchor"

def startsPlain (flow : Bool) (ch : Char) (r : List Char) : Bool :=
  if ch = '-' then !blankOrEnd r
  else if ch = '?' || ch = ':' then !flow && !blankOrEnd r
  else !isSpace ch && !isFlowIndicator ch &&
    !(ch = '#' || ch = '&' || ch = '*' || ch = '!' || ch = '|' || ch = '>' || ch = '\'' ||
      ch = '"' || ch = '%' || ch = '@' || ch = '\x60')

/-- Read a block mapping key here: its properties, then an alias, a quoted text or a plain text.
Only a key with properties may be empty. The position returned is after the key. -/
def readKey (c : Cursor) (env : Scope) : Except String (Node × Cursor × Scope) := do
  let (props, c) ← Props.read false env.handles {} c
  let (t, env) := props.enter env
  let (n, c) ← match c.rest with
    | '*' :: _ => readAlias c env
    | '"' :: _ | '\'' :: _ => do
      let (s, c') ← quotedScalar c
      pure (Node.scalar s false none, c')
    | ':' :: r =>
      if blankOrEnd r then
        if props.isEmpty then throw "a mapping key may not be left out"
        else pure (Node.empty, c)
      else do
        let (s, c') ← plainScalar false c.col c
        pure (Node.scalar s true none, c')
    | _ => do
      let (s, c') ← plainScalar false c.col c
      pure (Node.scalar s true none, c')
  let (n, env) ← props.finish t n env
  pure (n, c, env)

def startsValue : List Char → Bool
  | ':' :: r => blankOrEnd r
  | _ => false

def startsBlockScalar : List Char → Bool
  | '|' :: _ | '>' :: _ => true
  | _ => false

/-- The rest of the line after a plain scalar read from `start` up to `stop`: where the scalar
ran on to later lines, reading stopped at the next token already. -/
def afterPlain (start stop : Cursor) : Except String Cursor :=
  if start.breaksBefore stop then stop.gap true else stop.finishLine

mutual

/-- A block node whose first character is here, right of column `parent`, after the properties
`outer` read on earlier lines. Where `indentless`, a sequence in the parent's own column may
stand for a node that starts on a later line. The position returned is at the next content. -/
def blockNode : Nat → Int → Bool → Props → Cursor → Scope → Except String (Node × Cursor × Scope)
  | 0, _, _, _, _, _ => .error "nesting too deep"
  | fuel + 1, parent, indentless, outer, c, env =>
    if startsEntry c.rest || startsKey c.rest then do
      let (t, env) := outer.enter env
      let (n, c, env) ←
        if startsEntry c.rest then blockSeq fuel c.col c env [] else blockMap fuel c.col c env []
      let (n, env) ← outer.finish t n env
      pure (n, c, env)
    else propsNode fuel parent indentless outer c env

/-- A node that is no block collection, here on a line of the block structure inside a block
collection in column `parent`: its properties, added to `outer`, then the node on this line or,
after properties that end the line, on a later one. -/
def propsNode : Nat → Int → Bool → Props → Cursor → Scope → Except String (Node × Cursor × Scope)
  | 0, _, _, _, _, _ => .error "nesting too deep"
  | fuel + 1, parent, indentless, outer, c, env => do
    let (props, c1) ← Props.read false env.handles outer c
    if !props.isEmpty && c1.atLineEnd then below fuel parent indentless true props c1 env
    else do
      let (t, env) := props.enter env
      let (n, c2, env) ← inlineNode fuel parent c1 env
      let (n, env) ← props.finish t n env
      pure (n, c2, env)

/-- The node of an entry or value whose content starts on a later line, after the properties
`outer`: a block node right of column `parent`, a block scalar in that column, or where
`indentless` a sequence in that column; else the empty node. A tab may end the current line
only where `tabOk`. -/
def below : Nat → Int → Bool → Bool → Props → Cursor → Scope →
    Except String (Node × Cursor × Scope)
  | 0, _, _, _, _, _, _ => .error "nesting too deep"
  | fuel + 1, parent, indentless, tabOk, outer, c, env => do
    let c ← c.gap tabOk
    if c.live && (c.col : Int) > parent then blockNode fuel parent false outer c env
    else do
      let (t, env) := outer.enter env
      let (n, c, env) ←
        if c.live && (c.col : Int) = parent && startsBlockScalar c.rest then
          inlineNode fuel parent c env
        else if indentless && c.live && (c.col : Int) = parent && startsEntry c.rest then
          blockSeq fuel c.col c env []
        else pure (Node.empty, c, env)
      let (n, env) ← outer.finish t n env
      pure (n, c, env)

/-- The node after an indicator that a tab may not follow (`-`, `?`, or the `:` of an explicit
key) in column `col`: on the same line, where it may be a block collection, or on a later line. -/
def afterIndicator : Nat → Nat → Bool → Cursor → Scope → Except String (Node × Cursor × Scope)
  | 0, _, _, _, _ => .error "nesting too deep"
  | fuel + 1, col, indentless, c, env => do
    let c1 ← c.advance.skipSpaces
    if c1.atLineEnd then below fuel col indentless false {} c1 env
    else blockNode fuel col false {} c1 env

/-- A block sequence whose entries stand in column `col`, the first one here; `acc` holds the
entries read so far, last first. -/
def blockSeq : Nat → Nat → Cursor → Scope → List Node → Except String (Node × Cursor × Scope)
  | 0, _, _, _, _ => .error "nesting too deep"
  | fuel + 1, col, c, env, acc => do
    let (n, c2, env) ← afterIndicator fuel col false c env
    let acc := n :: acc
    if c2.live && c2.col = col && startsEntry c2.rest then blockSeq fuel col c2 env acc
    else if c2.live && c2.col > col then throw "bad indentation of a sequence entry"
    else pure (.seq none acc.reverse, c2, env)

/-- A block mapping whose keys stand in column `col`, the first one here; `acc` holds the
entries read so far, last first. -/
def blockMap : Nat → Nat → Cursor → Scope → List (Node × Node) →
    Except String (Node × Cursor × Scope)
  | 0, _, _, _, _ => .error "nesting too deep"
  | fuel + 1, col, c, env, acc => do
    let (k, n, c3, env) ← mapEntry fuel col c env
    let acc := (k, n) :: acc
    if c3.live && c3.col = col then
      if startsKey c3.rest then blockMap fuel col c3 env acc
      else throw "expected a mapping key"
    else if c3.live && c3.col > col then throw "bad indentation of a mapping entry"
    else pure (.map none acc.reverse, c3, env)

/-- One entry of a block mapping whose keys stand in column `col`, starting here: an explicit
key after `?`, whose value follows a `:` in the same column or is empty, or a key on one line
of at most 1024 bytes up to its `:`, followed by its value. -/
def mapEntry : Nat → Nat → Cursor → Scope → Except String (Node × Node × Cursor × Scope)
  | 0, _, _, _ => .error "nesting too deep"
  | fuel + 1, col, c, env =>
    if startsExplicitKey c.rest then do
      let (k, c1, env) ← afterIndicator fuel col true c env
      if c1.live && c1.col = col && startsValue c1.rest then do
        let (n, c2, env) ← afterIndicator fuel col true c1 env
        pure (k, n, c2, env)
      else pure (k, .empty, c1, env)
    else do
      let (k, c1, env) ← readKey c env
      let c2 := c1.skipInline
      match c2.rest with
      | ':' :: _ =>
        if c.keyLapsed c2 then throw "a key must end within 1024 bytes"
        let (n, c3, env) ← mapValue fuel col true c2.advance env
        pure (k, n, c3, env)
      | _ => throw "expected ':' after a mapping key"

/-- The node after the `:` of a key on one line in column `parent`, or after a document start
(`parent` is -1). On the same line it is a scalar, an alias or a flow collection; a block
collection starts on a later line, where `indentless` lets a sequence stand in the parent's
column. -/
def mapValue : Nat → Int → Bool → Cursor → Scope → Except String (Node × Cursor × Scope)
  | 0, _, _, _, _ => .error "nesting too deep"
  | fuel + 1, parent, indentless, c, env => do
    let c1 := c.skipInline
    if c1.atLineEnd then below fuel parent indentless true {} c1 env
    else if startsEntry c1.rest then throw "a block sequence may not start on this line"
    else if startsKey c1.rest then throw "a block mapping may not start on this line"
    else propsNode fuel parent indentless {} c1 env

/-- A node that starts here on a line of the block structure inside a block collection in
column `parent`: an alias, a quoted, block or plain scalar, or a flow collection. The position
returned is at the next token, after the rest of the line. -/
def inlineNode : Nat → Int → Cursor → Scope → Except String (Node × Cursor × Scope)
  | 0, _, _, _ => .error "nesting too deep"
  | fuel + 1, parent, c, env =>
    match c.rest with
    | [] => pure (.empty, c, env)
    | '*' :: _ => do
      let (n, c') ← readAlias c env
      pure (n, ← c'.finishLine, env)
    | '"' :: _ | '\'' :: _ => do
      let (s, c') ← quotedScalar c
      pure (.scalar s false none, ← c'.finishLine, env)
    | '[' :: _ => do
      let (n, c', env) ← flowSeq fuel parent c.advance env []
      pure (n, ← c'.finishLine, env)
    | '{' :: _ => do
      let (n, c', env) ← flowMap fuel parent c.advance env []
      pure (n, ← c'.finishLine, env)
    | '|' :: _ | '>' :: _ => do
      let (s, c') ← blockScalar parent c
      pure (.scalar s false none, ← c'.finishLine, env)
    | ch :: r =>
      if startsPlain false ch r then do
        let (s, c') ← plainScalar false parent c
        pure (.scalar s true none, ← afterPlain c c', env)
      else .error "a node may not start with this character"

/-- A node inside a flow collection, starting here; `parent` is the column of the block
collection around the flow collection. -/
def flowNode : Nat → Int → Cursor → Scope → Except String (Node × Cursor × Scope)
  | 0, _, _, _ => .error "nesting too deep"
  | fuel + 1, parent, c, env => do
    let (props, c) ← Props.read true env.handles {} c
    let (t, env) := props.enter env
    let (n, c, env) ← match c.rest with
      | [] => throw "unterminated flow collection"
      | '*' :: _ => do
        let (n, c') ← readAlias c env
        pure (n, c', env)
      | '"' :: _ | '\'' :: _ => do
        let (s, c') ← quotedScalar c
        pure (Node.scalar s false none, c', env)
      | '[' :: _ => flowSeq fuel parent c.advance env []
      | '{' :: _ => flowMap fuel parent c.advance env []
      | ch :: r =>
        if startsPlain true ch r then do
          let (s, c') ← plainScalar true parent c
          pure (Node.scalar s true none, c', env)
        else if !props.isEmpty && (isFlowIndicator ch || ch = ':') then pure (Node.empty, c, env)
        else throw "a flow node may not start with this character"
    let (n, env) ← props.finish t n env
    pure (n, c, env)

/-- The value after `:` in a flow collection; empty before `,`, `]` or `}`. -/
def flowValue : Nat → Int → Cursor → Scope → Except String (Node × Cursor × Scope)
  | 0, _, _, _ => .error "nesting too deep"
  | fuel + 1, parent, c, env => do
    let c ← c.flowGap
    match c.rest with
    | ',' :: _ | ']' :: _ | '}' :: _ => pure (.empty, c, env)
    | _ => flowNode fuel parent c env

/-- An entry of a flow collection after its explicit key indicator `?`: the key, then the value
after `:`, or none. The key is empty before `:`, a comma or the collection's end; in a sequence
that indicator then belongs to the empty key, so that the value needs a `:` of its own and the
sequence goes on only after a comma or its end. -/
def flowPair : Nat → Int → Bool → Cursor → Scope → Except String (Node × Node × Cursor × Scope)
  | 0, _, _, _, _ => .error "nesting too deep"
  | fuel + 1, parent, inSeq, c, env => do
    let c ← c.flowGap
    let closing := if inSeq then ']' else '}'
    let (k, c, env) ← match c.rest with
      | ch :: _ =>
        if ch = ':' || ch = ',' || ch = closing then
          pure (Node.empty, if inSeq then c.advance else c, env)
        else flowNode fuel parent c env
      | [] => flowNode fuel parent c env
    let c ← c.flowGap
    match c.rest with
    | ':' :: _ => do
      let (v, c, env) ← flowValue fuel parent c.advance env
      pure (k, v, c, env)
    | _ => pure (k, .empty, c, env)

/-- The entries of a flow sequence after `[` or a `,`. An entry `k: v`, or one with an explicit
key `? k: v`, is a one-key mapping; an implicit key ends on the line where it starts, within
1024 bytes. -/
def flowSeq : Nat → Int → Cursor → Scope → List Node → Except String (Node × Cursor × Scope)
  | 0, _, _, _, _ => .error "nesting too deep"
  | fuel + 1, parent, c, env, acc => do
    let c ← c.flowGap
    match c.rest with
    | [] => throw "unterminated flow sequence"
    | ']' :: _ => pure (.seq none acc.reverse, c.advance, env)
    | '?' :: _ => do
      let (k, v, c, env) ← flowPair fuel parent true c.advance env
      flowSeqNext fuel parent c env (.map none [(k, v)] :: acc)
    | _ =>
      let start := c
      let (n, c, env) ← flowNode fuel parent c env
      let c ← c.flowGap
      let (n, c, env) ← match c.rest with
        | ':' :: _ => do
          if start.keyLapsed c then throw "a key must end on its line, within 1024 bytes"
          let (v, c, env) ← flowValue fuel parent c.advance env
          pure (Node.map none [(n, v)], c, env)
        | _ => pure (n, c, env)
      flowSeqNext fuel parent c env (n :: acc)

def flowSeqNext : Nat → Int → Cursor → Scope → List Node → Except String (Node × Cursor × Scope)
  | 0, _, _, _, _ => .error "nesting too deep"
  | fuel + 1, parent, c, env, acc => do
    let c ← c.flowGap
    match c.rest with
    | ',' :: _ => flowSeq fuel parent c.advance env acc
    | ']' :: _ => pure (.seq none acc.reverse, c.advance, env)
    | _ => throw "expected a comma or the end of a flow sequence"

/-- The entries of a flow mapping after `{` or a `,`; a key without `:` has an empty value, an
explicit key follows `?`, and an implicit key is not left out and, with `:`, ends on the line
where it starts, within 1024 bytes. -/
def flowMap : Nat → Int → Cursor → Scope → List (Node × Node) →
    Except String (Node × Cursor × Scope)
  | 0, _, _, _, _ => .error "nesting too deep"
  | fuel + 1, parent, c, env, acc => do
    let c ← c.flowGap
    match c.rest with
    | [] => throw "unterminated flow mapping"
    | '}' :: _ => pure (.map none acc.reverse, c.advance, env)
    | '?' :: _ => do
      let (k, v, c, env) ← flowPair fuel parent false c.advance env
      flowMapNext fuel parent c env ((k, v) :: acc)
    | _ =>
      let start := c
      let (k, c, env) ← flowNode fuel parent c env
      let c ← c.flowGap
      let (v, c, env) ← match c.rest with
        | ':' :: _ => do
          if start.keyLapsed c then throw "a key must end on its line, within 1024 bytes"
          flowValue fuel parent c.advance env
        | _ => pure (Node.empty, c, env)
      flowMapNext fuel parent c env ((k, v) :: acc)

def flowMapNext : Nat → Int → Cursor → Scope → List (Node × Node) →
    Except String (Node × Cursor × Scope)
  | 0, _, _, _, _ => .error "nesting too deep"
  | fuel + 1, parent, c, env, acc => do
    let c ← c.flowGap
    match c.rest with
    | ',' :: _ => flowMap fuel parent c.advance env acc
    | '}' :: _ => pure (.map none acc.reverse, c.advance, env)
    | _ => throw "expected a comma or the end of a flow mapping"

end

def normalizeBreaks : List Char → List Char
  | [] => []
  | '\r' :: '\n' :: r => '\n' :: normalizeBreaks r
  | '\r' :: r => '\n' :: normalizeBreaks r
  | '\u0085' :: r => '\n' :: normalizeBreaks r
  | c :: r => c :: normalizeBreaks r

/-- Read the directives before a document, each a line with `%` in the first column; also
whether there was one. -/
def readDirectives : Nat → Directives → Cursor → Except String (Directives × Bool × Cursor)
  | 0, d, c => .ok (d, false, c)
  | fuel + 1, d, c =>
    if c.col = 0 && c.peek? = some '%' then do
      let line := c.rest.tail.takeWhile fun ch => !isBreak ch
      let d ← d.add line
      let (d, _, c) ← readDirectives fuel d (← Cursor.gap true ⟨c.rest.drop (line.length + 1), 0⟩)
      pure (d, true, c)
    else .ok (d, false, c)

def skipEndMarkers : Nat → Cursor → Except String Cursor
  | 0, c => .ok c
  | fuel + 1, c =>
    if c.atMarker && c.peek? = some '.' then do skipEndMarkers fuel (← (c.advanceBy 3).finishLine)
    else .ok c

/-- The characters a YAML text may hold: tab, line breaks, printable ASCII, next line, and the
rest of Unicode from no-break space up, surrogates and the two noncharacters at the end of the
basic plane apart. -/
def isPrintable (c : Char) : Bool :=
  let n := c.toNat
  n = 0x09 || n = 0x0A || n = 0x0D || (0x20 ≤ n && n ≤ 0x7E) || n = 0x85 ||
    (0xA0 ≤ n && n ≤ 0xD7FF) || (0xE000 ≤ n && n ≤ 0xFFFD) || 0x10000 ≤ n

/-- The JSON value of a YAML text holding at most one document; no document is null. A document
starts after its directives with `---`, or without directives at its first content; end
markers may follow it. -/
def read (text : String) : Except String Json := do
  let raw := match text.toList with
    | '\uFEFF' :: r => r
    | r => r
  if !raw.all isPrintable then throw "control characters are not allowed"
  let cs := normalizeBreaks raw
  let fuel := 8 * (cs.length + 2)
  let (d, directives, c) ← readDirectives fuel {} (← Cursor.gap false ⟨cs, 0⟩)
  let env : Scope := { handles := d.handles }
  let (root, c, env) ←
    if c.atMarker && c.peek? = some '-' then mapValue fuel (-1) false (c.advanceBy 3) env
    else if directives then throw "a directive must be followed by a document start"
    else if c.atEnd then pure (Node.empty, c, env)
    else if c.atMarker then throw "a document end before any document"
    else blockNode fuel (-1) false {} c env
  let c ← skipEndMarkers fuel c
  if c.atMarker then throw "more than one document"
  if !c.atEnd then throw "unexpected content after the document"
  documentValue root env.anchors

end SearchDsl.Yaml
