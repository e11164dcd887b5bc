import SearchTemplate.Datum.SetOrder
import SearchTemplate.Yaml.Node.Parser
import SearchTemplate.Yaml.Scalar
import SearchTemplate.Yaml.Token.Lexer

/-!
# Values of documents

`Yaml.read` reads the value of a document. The values of collections are made level by level, so
that of several faults the one nearest to the root counts, and of those the first in the text.
An alias has the value of its node. As a document may lie inside of itself, an alias of a
collection has nothing in it from level `aliasLevels` on.

How deep a document may nest is not bounded here. A reader whose stack is bounded gives up on a
document that nests too deep for it.
-/

namespace SearchTemplate.Yaml

/-- A value, or a fault with its level. -/
abbrev Built (α : Type) := Except (Nat × Fault) α

namespace Built

variable {α β : Type}

/-- Two values, or the fault at the lower level, the first one if both are at the same. -/
def both : Built α → Built β → Built (α × β)
  | .ok a, .ok b => .ok (a, b)
  | .ok _, .error e => .error e
  | .error e, .ok _ => .error e
  | .error d, .error e => .error (if d.1 ≤ e.1 then d else e)

def all : List (Built α) → Built (List α)
  | [] => .ok []
  | x :: rest => (both x (all rest)).map fun p => p.1 :: p.2

def atLevel (level : Nat) : Except Fault α → Built α
  | .ok a => .ok a
  | .error fault => .error (level, fault)

end Built

namespace Document

/-- The node that an alias stands for. -/
def target (d : Document) : Node → Option Node
  | .alias name => d.anchored.lookup name
  | n => some n

def hasTag (d : Document) (tag : Tag) (n : Node) : Bool :=
  match d.target n with
  | some (.scalar t _) => t == tag
  | some (.sequence t _) => t == tag
  | some (.mapping t _) => t == tag
  | _ => false

/-- The value that a mapping stands for: the one under its `=` key. -/
def standsFor? (d : Document) (n : Node) : Option Node :=
  match d.target n with
  | some (.mapping _ entries) => (entries.find? fun e => d.hasTag .value e.1).map Prod.snd
  | _ => none

/-- The text of a scalar, or of the scalar that a mapping stands for, over at most `fuel` nodes. -/
def scalarText (d : Document) : Nat → Node → Except Fault Text
  | 0, _ => .error .endlessText
  | fuel + 1, n =>
    match d.standsFor? n with
    | some value => scalarText d fuel value
    | none =>
      match d.target n with
      | some (.scalar _ text) => .ok text
      | _ => .error .malformed

/-- The text that a node stands for. One that leads on over more nodes than there are has none. -/
def textOf (d : Document) (n : Node) : Except Fault Text := d.scalarText d.nodes.length n

/-! ## Merging -/

/-- The entries of a mapping, those of the mappings under its merge keys before its own. The
aliases in `inside` are being merged already and add nothing. -/
def mergedEntries (d : Document) :
    Nat → List Text → List (Node × Node) → Except Fault (List (Node × Node))
  | 0, _, _ => .error .malformed
  | fuel + 1, inside, entries => do
    let isMerge (e : Node × Node) : Bool := d.hasTag .merge e.1
    let ofMapping (n : Node) : Except Fault (List (Node × Node)) := do
      let again := match n with
        | .alias name => inside.contains name
        | _ => false
      let inside := match n with
        | .alias name => name :: inside
        | _ => inside
      match d.target n with
      | some (.mapping _ es) => if again then return [] else mergedEntries d fuel inside es
      | _ => throw .malformed
    let merged ← (entries.filter isMerge).mapM fun e =>
      match d.target e.2 with
      | some (.sequence _ items) => do
        let parts ← items.mapM ofMapping
        return parts.reverse.flatten
      | _ => ofMapping e.2
    return merged.flatten ++ entries.filter fun e => !isMerge e

/-! ## Values -/

def aliasLevels : Nat := 4

/-- The value of a key, which is at the given level and no collection. A key that stands for the
value of a mapping is a text like any other here. -/
def buildKey (d : Document) (level : Nat) (n : Node) (value : Built Datum) : Built Datum :=
  match d.target n with
  | some (.scalar .value text) => .ok (.str text)
  | _ =>
    match value with
    | .ok k => if k.isScalar then .ok k else .error (level, .malformed)
    | .error (faultLevel, fault) =>
      .error (level, if level < faultLevel then .malformed else fault)

/-- The value of a node at a level. Nodes and aliases inside of one another are at most `fuel`. -/
def build (d : Document) : Nat → Nat → Node → Built Datum
  | 0, level, _ => .error (level, .malformed)
  | fuel + 1, level, n =>
    let inner := level + 1
    let entriesOf (entries : List (Node × Node)) : Built (List (Datum × Datum)) :=
      Built.all (entries.map fun e =>
        .both (d.buildKey inner e.1 (build d fuel inner e.1)) (build d fuel inner e.2))
    let mapOf (entries : List (Node × Node)) : Built (List (Datum × Datum)) := do
      let merged ← Built.atLevel inner (d.mergedEntries (fuel + 1) [] entries)
      return (← entriesOf merged).foldl (fun es e => Datum.setEntry e.1 e.2 es) []
    let pairOf (item : Node) : Built Datum :=
      match d.target item with
      | some (.mapping _ [(k, v)]) =>
        (Built.both (build d fuel inner k) (build d fuel inner v)).map fun p =>
          .list [p.1, p.2]
      | _ => .error (inner, .malformed)
    match n with
    | .alias name =>
      match d.anchored.lookup name with
      | some n => build d fuel level (if aliasLevels ≤ level then n.hollow else n)
      | none => .error (level, .malformed)
    | .scalar tag text =>
      if [Tag.seq, .map, .set, .omap, .pairs].contains tag then .error (inner, .malformed)
      else Built.atLevel level (scalarValue text tag)
    | .sequence .seq items => (Built.all (items.map (build d fuel inner))).map .list
    | .sequence .omap items => (Built.all (items.map pairOf)).map .list
    | .sequence .pairs items => (Built.all (items.map pairOf)).map .list
    | .sequence .map _ => .error (inner, .malformed)
    | .sequence .set _ => .error (inner, .malformed)
    | .sequence _ _ => .error (level, .malformed)
    | .mapping .map entries => (mapOf entries).map .map
    | .mapping .set entries =>
      (mapOf entries).map fun es => .set (Datum.inSetOrder (es.map Prod.fst))
    | .mapping .seq _ => .error (inner, .malformed)
    | .mapping .omap _ => .error (inner, .malformed)
    | .mapping .pairs _ => .error (inner, .malformed)
    | .mapping .merge _ => .error (level, .malformed)
    | .mapping .value _ => .error (level, .malformed)
    | .mapping (.other _) _ => .error (level, .malformed)
    | .mapping tag entries =>
      Built.atLevel level do
        scalarValue (← d.textOf (.mapping tag entries)) tag

end Document

/-- Line ends of all kinds as line feeds. -/
def normalizeBreaks : Text → Text
  | .char '\r' :: .char '\n' :: rest => .char '\n' :: normalizeBreaks rest
  | .char '\r' :: rest => .char '\n' :: normalizeBreaks rest
  | s :: rest => s :: normalizeBreaks rest
  | [] => []

/-- The value of the document in a text, `none` if there is no document. -/
def read (text : Text) : Except Fault (Option Datum) := do
  match ← Document.ofTokens? (Token.ofText (normalizeBreaks text)) with
  | none => return none
  | some d =>
    let fuel := (Document.aliasLevels + 2) * (text.length + 2)
    match d.build fuel 0 d.root with
    | .ok value => return some value
    | .error (_, fault) => throw fault

end SearchTemplate.Yaml
