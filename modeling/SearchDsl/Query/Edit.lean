import SearchDsl.Query.Decode
/-!
Edits of a stored clause: what the typed setters of each kind do to a clause in place. An edit
belongs to the kinds that have its setter; applied to a clause of another kind it changes
nothing. An edit that fails leaves the clause as it was; one that removes a child clause also
returns it.
-/

namespace SearchDsl

/-- One of the four bounds of a range. -/
inductive BoundSide where
  | gt | gte | lt | lte
  deriving DecidableEq, Repr, Inhabited

namespace BoundSide

def all : List BoundSide := [gt, gte, lt, lte]

def key : BoundSide → String
  | gt => "gt" | gte => "gte" | lt => "lt" | lte => "lte"

def ofKey? (s : String) : Option BoundSide := all.find? fun b => b.key = s

end BoundSide

def Bounds.set (b : Bounds) : BoundSide → Option Scalar → Bounds
  | .gt, v => { b with gt := v }
  | .gte, v => { b with gte := v }
  | .lt, v => { b with lt := v }
  | .lte, v => { b with lte := v }

/-- An edit of a stored clause by one typed setter. -/
inductive ClauseEdit where
  | setField (field : String)
  | setValue (v : Scalar)
  | pushValue (v : Scalar)
  | setPattern (value : String)
  | setFlags (flags : String)
  | setBound (side : BoundSide) (v : Option Scalar)
  | pushId (id : String)
  | setQuery (v : Scalar)
  | setMatchType (t : MultiMatchType)
  | pushRole (role : BoolRole) (c : Clause)
  | removeRole (role : BoolRole) (i : Nat)
  | pushQuery (c : Clause)
  | removeQuery (i : Nat)
  | setNegativeBoost (l : Loose)
  | setPositive (q : Query)
  | setNegative (q : Query)
  | setFilter (q : Query)
  | pushFunction (f : ScoreFunction)
  | setRule (r : Rule)
  deriving Repr, Inhabited

namespace Clause

def clear (c : Clause) : Clause := empty c.kind

/-- The clauses of a role of a `bool` clause; other kinds have none. -/
def role (c : Clause) (r : BoolRole) : List Clause :=
  match c, r with
  | bool must _ _ _ _, .must => must
  | bool _ filter _ _ _, .filter => filter
  | bool _ _ should _ _, .should => should
  | bool _ _ _ mustNot _, .mustNot => mustNot
  | _, _ => []

/-- Replace the clauses of a role of a `bool` clause. -/
def setRole (c : Clause) (r : BoolRole) (cs : List Clause) : Clause :=
  match c, r with
  | bool _ f s n ps, .must => bool cs f s n ps
  | bool m _ s n ps, .filter => bool m cs s n ps
  | bool m f _ n ps, .should => bool m f cs n ps
  | bool m f s _ ps, .mustNot => bool m f s cs ps
  | c, _ => c

/-- Apply an edit: the edited clause and the clause it removed, or the error of a setter that
refuses its argument. -/
def edit (c : Clause) (e : ClauseEdit) : Except Error (Clause × Option Clause) :=
  match c, e with
  | term q, .setField f => (q.setField f).map fun q => (term q, none)
  | term q, .setValue v => .ok (term (q.setValue v), none)
  | terms q, .pushValue v => .ok (terms (q.pushValue v), none)
  | termPrefix q, .setPattern v => .ok (termPrefix (q.setValue v), none)
  | wildcard q, .setPattern v => .ok (wildcard (q.setValue v), none)
  | regexp q, .setFlags f => .ok (regexp (q.setFlags f), none)
  | range q, .setBound side v => .ok (range { q with bounds := q.bounds.set side v }, none)
  | ids q, .pushId id => .ok (ids (q.push id), none)
  | matchText q, .setQuery v => .ok (matchText (q.setQuery v), none)
  | matchBoolPrefix q, .setQuery v => .ok (matchBoolPrefix (q.setQuery v), none)
  | matchPhrase q, .setQuery v => .ok (matchPhrase (q.setQuery v), none)
  | matchPhrasePrefix q, .setQuery v => .ok (matchPhrasePrefix (q.setQuery v), none)
  | multiMatch q, .setMatchType t => .ok (multiMatch (q.setMatchType t), none)
  | c@(bool ..), .pushRole r child => .ok (c.setRole r (pushTo (c.role r) child), none)
  | c@(bool ..), .removeRole r i =>
    let (rest, removed) := removeAt (c.role r) i
    .ok (c.setRole r rest, removed)
  | disMax qs ps, .pushQuery child => .ok (disMax (pushTo qs child) ps, none)
  | disMax qs ps, .removeQuery i =>
    let (rest, removed) := removeAt qs i
    .ok (disMax rest ps, removed)
  | boosting p n _ ps, .setNegativeBoost l =>
    (negativeBoostOf (some l)).map fun nb => (boosting p n nb ps, none)
  | boosting _ n nb ps, .setPositive q =>
    if q.isEmpty then .error ((Error.ofKind .positiveRequired).withClause .boosting)
    else .ok (boosting (some q) n nb ps, none)
  | boosting p _ nb ps, .setNegative q =>
    if q.isEmpty then .error ((Error.ofKind .negativeRequired).withClause .boosting)
    else .ok (boosting p (some q) nb ps, none)
  | constantScore _ ps, .setFilter q =>
    .ok (constantScore (if q.isEmpty then none else some q) ps, none)
  | functionScore q fs ps, .pushFunction f => .ok (functionScore q (fs ++ [f]) ps, none)
  | intervals q, .setRule r => .ok (intervals (q.setRule r), none)
  | c, _ => .ok (c, none)

end Clause

end SearchDsl
