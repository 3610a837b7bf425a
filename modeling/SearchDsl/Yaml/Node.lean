import SearchDsl.Yaml.Scalar
/-!
The nodes of a YAML document as written, the anchors that name them, and the JSON value of a
document.

A node is a scalar with its text, whether it was plain, and its tag; a sequence or a mapping with
its tag; or an alias, which refers to an anchored node by a number. Anchors are numbered as the
document is read, each node's anchor where the node begins: an anchor takes the count of the
distinct names before it, so a name given a second time takes the number the next new name will
take as well. An alias takes the number its name has where the alias stands, and a number refers
to the node that began last among those that took it, wherever that node stands.

The JSON value of a document replaces every alias by the node its number refers to, and reads
each scalar as `Yaml.Scalar` says; a mapping key is the text of a scalar, its tag aside.
Collections nest at most 128 deep, and aliases are followed at most a hundred times as often as
the document has parse events: a scalar or an alias is one event, a collection two around its
entries. A collection whose tag is of the `!` handle has no JSON value.
-/

namespace SearchDsl.Yaml

/-- A node of a YAML document as written. -/
inductive Node where
  | scalar (text : String) (plain : Bool) (tag : Option String)
  | alias (id : Nat)
  | seq (tag : Option String) (items : List Node)
  | map (tag : Option String) (entries : List (Node × Node))
  deriving Inhabited

namespace Node

def empty : Node := .scalar "" true none

def isAlias : Node → Bool
  | .alias _ => true
  | _ => false

/-- Give a node a tag, when one is written before it. -/
def withTag (n : Node) : Option String → Node
  | none => n
  | some t =>
    match n with
    | .scalar text plain _ => .scalar text plain (some t)
    | .alias id => .alias id
    | .seq _ items => .seq (some t) items
    | .map _ entries => .map (some t) entries

mutual

def events : Node → Nat
  | .scalar _ _ _ | .alias _ => 1
  | .seq _ items => itemEvents items + 2
  | .map _ entries => entryEvents entries + 2

def itemEvents : List Node → Nat
  | [] => 0
  | n :: ns => events n + itemEvents ns

def entryEvents : List (Node × Node) → Nat
  | [] => 0
  | (k, v) :: es => events k + events v + entryEvents es

end

end Node

/-- The anchors of a document as far as it is read: the distinct names in the order of their
first use, the number each name stands for now, how many anchored nodes have begun, and the
anchored nodes read, each with its number and its place in the order of beginning. -/
structure Anchors where
  names : List String := []
  current : List (String × Nat) := []
  begun : Nat := 0
  nodes : List (Nat × Nat × Node) := []
  deriving Inhabited

namespace Anchors

/-- Begin a node with an anchor: the anchor takes the count of distinct names before it, and
the name stands for that number from here on. Returns the number and the node's place in the
order of beginning. -/
def enter (a : Anchors) (name : String) : (Nat × Nat) × Anchors :=
  let id := a.names.length
  ((id, a.begun),
    { a with
      names := if a.names.contains name then a.names else a.names ++ [name]
      current := (name, id) :: a.current
      begun := a.begun + 1 })

def record (a : Anchors) (ticket : Nat × Nat) (n : Node) : Anchors :=
  { a with nodes := (ticket.1, ticket.2, n) :: a.nodes }

def idOf (a : Anchors) (name : String) : Option Nat := a.current.lookup name

/-- The node each number refers to: of the nodes that took it, the one that began last. -/
def table (a : Anchors) : Array (Option Node) :=
  let latest := a.nodes.foldl
    (fun (t : Array (Option (Nat × Node))) (e : Nat × Nat × Node) =>
      match t[e.1]? with
      | some (some (place, _)) => if place < e.2.1 then t.setIfInBounds e.1 (some (e.2.1, e.2.2)) else t
      | _ => t.setIfInBounds e.1 (some (e.2.1, e.2.2)))
    (Array.replicate a.begun none)
  latest.map (Option.map Prod.snd)

end Anchors

/-- What replacing aliases needs: the node each number refers to, and how many aliases may be
followed in all. -/
structure Unfolding where
  table : Array (Option Node)
  limit : Nat

abbrev Walk := StateT Nat (Except String)

namespace Unfolding

/-- The node that a node stands for: an alias is followed to the node its number refers to, and
counted; following more aliases than the limit allows is an error. -/
def resolve (u : Unfolding) : Node → Walk Node
  | .alias id => do
    let followed ← get
    if u.limit < followed + 1 then throw "aliases are followed too often"
    set (followed + 1)
    match u.table[id]? with
    | some (some n) => pure n
    | _ => throw "an alias refers to no node"
  | n => pure n

def scalarValue (text : String) (plain : Bool) : Option String → Except String Json
  | some tag => resolveTagged tag text
  | none => if plain then resolvePlain text else .ok (.str text)

def collectionTag : Option String → Except String Unit
  | some tag => if isLocalTag tag then .error ("a local tag " ++ tag) else .ok ()
  | none => .ok ()

def keyText (u : Unfolding) (k : Node) : Walk String := do
  match ← u.resolve k with
  | .scalar text _ _ => pure text
  | _ => throw "a mapping key must be a scalar"

/-- The JSON value of a node in which `depth` more collections may nest. -/
def value (u : Unfolding) : Nat → Node → Walk Json
  | 0, n => do
    match ← u.resolve n with
    | .scalar text plain tag => scalarValue text plain tag
    | _ => throw "collections nest too deeply"
  | depth + 1, n => do
    match ← u.resolve n with
    | .scalar text plain tag => scalarValue text plain tag
    | .alias _ => throw "an alias refers to an alias"
    | .seq tag items => do
      collectionTag tag
      pure (.arr (← items.mapM (u.value depth)))
    | .map tag entries => do
      collectionTag tag
      let members ← entries.mapM fun (k, v) => do
        let key ← u.keyText k
        pure (key, ← u.value depth v)
      pure (Json.mkObj members)

end Unfolding

def maxDepth : Nat := 128

def documentValue (root : Node) (anchors : Anchors) : Except String Json :=
  let u : Unfolding := { table := anchors.table, limit := 100 * root.events }
  (u.value maxDepth root).run' 0

end SearchDsl.Yaml
