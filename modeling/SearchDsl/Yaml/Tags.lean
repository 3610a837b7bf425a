import SearchDsl.Yaml.Cursor
import SearchDsl.Yaml.Scalar
/-!
Tags and directives of a YAML text.

A tag is written `!<uri>` (verbatim), `!handle!suffix`, `!suffix` or `!` alone. Its text is made
of the characters of a URI, where `%` and two hex digits stand for one byte of UTF-8; a tag ends
at a blank, a line break or the end, or in a flow collection also at a comma. A handle is
replaced by the prefix a `%TAG` directive declares for it; without one, `!` stands for itself
and `!!` for the prefix of the core schema. A document may be preceded by one `%YAML` directive
of version 1.1 or 1.2 and by `%TAG` directives, each handle once; any other directive is an
error.
-/

namespace SearchDsl.Yaml

def isUriChar (verbatim : Bool) (c : Char) : Bool :=
  isAnchorChar c || c = ';' || c = '/' || c = '?' || c = ':' || c = '@' || c = '&' || c = '=' ||
    c = '+' || c = '$' || c = '.' || c = '%' || c = '!' || c = '~' || c = '*' || c = '\'' ||
    c = '(' || c = ')' || (verbatim && (c = ',' || c = '[' || c = ']'))

def utf8Width (b : Nat) : Option Nat :=
  if b < 0x80 then some 1
  else if b / 0x20 = 0x06 then some 2
  else if b / 0x10 = 0x0E then some 3
  else if b / 0x08 = 0x1E then some 4
  else none

def utf8Bytes (c : Char) : List Nat := (String.singleton c).toUTF8.toList.map UInt8.toNat

/-- The longest run of tag characters at the head of a text, as bytes, and the text after it.
A `%` escape gives one byte; the escapes of one character follow each other, a first byte that
tells how many bytes follow (`owed`), each of the form `10xxxxxx`. -/
def uriRun (verbatim : Bool) (owed : Nat) : List Char → Except String (List Nat × List Char)
  | '%' :: h :: l :: rest =>
    match digitIn 16 h, digitIn 16 l with
    | some hi, some lo =>
      let b := 16 * hi + lo
      let more (owed : Nat) := (uriRun verbatim owed rest).map fun (bs, r) => (b :: bs, r)
      if owed = 0 then
        match utf8Width b with
        | some w => more (w - 1)
        | none => .error "an incorrect leading UTF-8 octet"
      else if b / 0x40 = 2 then more (owed - 1)
      else .error "an incorrect trailing UTF-8 octet"
    | _, _ => .error "did not find URI escaped octet"
  | c :: r =>
    if owed ≠ 0 || c = '%' then .error "did not find URI escaped octet"
    else if isUriChar verbatim c then
      (uriRun verbatim 0 r).map fun (bs, rest) => (utf8Bytes c ++ bs, rest)
    else .ok ([], c :: r)
  | [] => if owed ≠ 0 then .error "did not find URI escaped octet" else .ok ([], [])

def utf8Text (bs : List Nat) : Except String String :=
  match String.fromUTF8? (ByteArray.mk (bs.map UInt8.ofNat).toArray) with
  | some s => .ok s
  | none => .error "a tag that is not UTF-8"

/-- A tag as written before a node. -/
inductive TagToken where
  | verbatim (uri : String)
  | shorthand (handle suffix : String)
  deriving Repr, DecidableEq

/-- Read the tag at the head of a text that starts with `!`; also the number of characters it
takes. -/
def scanTag (flow : Bool) (cs : List Char) : Except String (TagToken × Nat) := do
  let (tok, rest) ← match cs with
    | '!' :: '<' :: r => do
      let (bs, rest) ← uriRun true 0 r
      if bs.isEmpty then throw "did not find expected tag URI"
      match rest with
      | '>' :: rest => pure (TagToken.verbatim (← utf8Text bs), rest)
      | _ => throw "did not find the expected >"
    | '!' :: r =>
      let word := r.takeWhile isAnchorChar
      match r.drop word.length with
      | '!' :: r2 => do
        let (bs, rest) ← uriRun false 0 r2
        if bs.isEmpty then throw "did not find expected tag URI"
        pure (TagToken.shorthand ("!" ++ String.ofList word ++ "!") (← utf8Text bs), rest)
      | r2 => do
        let (bs, rest) ← uriRun false 0 r2
        let suffix := String.ofList word ++ (← utf8Text bs)
        if suffix.isEmpty then pure (TagToken.shorthand "" "!", rest)
        else pure (TagToken.shorthand "!" suffix, rest)
    | _ => throw "did not find expected !"
  if blankOrEnd rest || (flow && rest.head? = some ',') then pure (tok, cs.length - rest.length)
  else throw "did not find expected whitespace or line break"

def defaultHandles : List (String × String) := [("!", "!"), ("!!", coreTagPrefix)]

/-- A tag in full: a verbatim tag is its URI, `!` alone stays `!`, and a handle is replaced by
its prefix, the handles declared by directives first. A handle nobody declares is an error. -/
def TagToken.resolve (handles : List (String × String)) : TagToken → Except String String
  | .verbatim uri => .ok uri
  | .shorthand h suffix =>
    if h.isEmpty then .ok suffix
    else
      match (handles ++ defaultHandles).lookup h with
      | some pre => .ok (pre ++ suffix)
      | none => .error "found undefined tag handle"

/-- What the directives before a document declare: whether a `%YAML` version was given, and the
`%TAG` handles with their prefixes. -/
structure Directives where
  version : Bool := false
  handles : List (String × String) := []
  deriving Inhabited

def versionNumber (cs : List Char) : Except String (Nat × List Char) :=
  let ds := cs.takeWhile Char.isDigit
  if ds.isEmpty then .error "did not find expected version number"
  else if 9 < ds.length then .error "found extremely long version number"
  else .ok (ds.foldl (fun n c => 10 * n + (c.toNat - '0'.toNat)) 0, cs.drop ds.length)

def directiveEnd (cs : List Char) : Except String Unit :=
  match cs.dropWhile isBlank with
  | [] | '#' :: _ => .ok ()
  | _ => .error "did not find expected comment or line break"

namespace Directives

/-- Read one directive, the text of its line after `%`: `YAML` and a version, given once and
either 1.1 or 1.2; or `TAG`, a handle (`!`, `!!` or `!name!`) not declared before, and a prefix.
The name ends at a blank. -/
def add (d : Directives) (line : List Char) : Except String Directives := do
  let name := line.takeWhile isAnchorChar
  let rest := line.drop name.length
  if name.isEmpty then throw "could not find expected directive name"
  if !blankOrEnd rest then throw "found unexpected non-alphabetical character"
  if name = "YAML".toList then
    let (major, rest) ← versionNumber (rest.dropWhile isBlank)
    let rest ← match rest with
      | '.' :: r => pure r
      | _ => throw "did not find expected digit or . character"
    let (minor, rest) ← versionNumber rest
    directiveEnd rest
    if d.version then throw "found duplicate %YAML directive"
    if major ≠ 1 || (minor ≠ 1 && minor ≠ 2) then throw "found incompatible YAML document"
    pure { d with version := true }
  else if name = "TAG".toList then
    let rest := rest.dropWhile isBlank
    let handle ← match rest with
      | '!' :: r =>
        let word := r.takeWhile isAnchorChar
        match r.drop word.length with
        | '!' :: _ => pure ('!' :: word ++ ['!'])
        | _ => if word.isEmpty then pure ['!'] else throw "did not find expected !"
      | _ => throw "did not find expected !"
    let rest := rest.drop handle.length
    if !(rest.head?.any isBlank) then throw "did not find expected whitespace"
    let (bs, rest) ← uriRun true 0 (rest.dropWhile isBlank)
    if bs.isEmpty then throw "did not find expected tag URI"
    if !blankOrEnd rest then throw "did not find expected whitespace or line break"
    directiveEnd rest
    let pre ← utf8Text bs
    let h := String.ofList handle
    if (d.handles.lookup h).isSome then throw "found duplicate %TAG directive"
    pure { d with handles := d.handles ++ [(h, pre)] }
  else throw "found unknown directive name"

end Directives

end SearchDsl.Yaml
