import CommentSchema.Definition.Basic
import CommentSchema.Reference
import CommentSchema.TypeExpr

/-! Definitions from type expressions.  Names of built-in types become schema types, lists
and mappings carry the definition of what they hold, unions become alternatives, and every
other name becomes a reference or a copy of the definition registered under it.  A quoted
type is read once more as an expression; what it quotes in turn is always shorter. -/

namespace CommentSchema

abbrev Registry := List (Text × Definition)

def Registry.insert : Registry → Text → Definition → Registry
  | [], name, definition => [(name, definition)]
  | (known, old) :: rest, name, definition =>
      if known = name then (known, definition) :: rest
      else (known, old) :: Registry.insert rest name definition

def Registry.ofList (entries : List (Text × Definition)) : Registry :=
  entries.foldl (fun registry (name, definition) => registry.insert name definition) []

structure Builder where
  known : Registry := []
  base : Text := Reference.defaultBase

namespace Builder

def register (builder : Builder) (name : Text) (definition : Definition) : Builder :=
  { builder with known := builder.known.insert name definition }

private def ofType (type : String) : Definition := { type := some type.toList }

private def ofFormat (format : String) : Definition :=
  { type := some "string".toList, format := some format.toList }

def scalars : List (Text × Definition) :=
  [("str", ofType "string"), ("string", ofType "string"), ("int", ofType "integer"),
    ("integer", ofType "integer"), ("float", ofType "number"), ("number", ofType "number"),
    ("bool", ofType "boolean"), ("boolean", ofType "boolean"), ("bytes", ofFormat "byte"),
    ("datetime", ofFormat "date-time"), ("datetime.datetime", ofFormat "date-time"),
    ("date", ofFormat "date"), ("datetime.date", ofFormat "date"), ("Any", {}),
    ("typing.Any", {}), ("object", {})].map fun (name, definition) => (name.toList, definition)

def arrayNames : List Text :=
  ["list", "List", "Sequence", "Iterable", "set", "Set", "frozenset", "tuple", "Tuple",
    "typing.List", "typing.Sequence", "typing.Set", "typing.Tuple"].map String.toList

def mapNames : List Text :=
  ["dict", "Dict", "Mapping", "typing.Dict", "typing.Mapping"].map String.toList

def optionalNames : List Text := ["Optional", "typing.Optional"].map String.toList

def unionNames : List Text := ["Union", "typing.Union"].map String.toList

def builtin? (dotted : Text) : Option Definition :=
  match scalars.lookup dotted with
  | some definition => some definition
  | none =>
      if arrayNames.contains dotted then some (ofType "array")
      else if mapNames.contains dotted then some (ofType "object")
      else none

/-- A copy of the registered definition where copies are wanted and there is one. -/
def named (builder : Builder) (context : Text) (inline : Bool) (dotted : Text) : Definition :=
  match builtin? dotted with
  | some definition => definition
  | none =>
      let qualified := Reference.qualify context dotted
      match inline, builder.known.lookup qualified with
      | true, some definition => definition
      | _, _ => { ref := some (builder.base ++ qualified) }

/-- How many links a chain of attributes or of alternatives may have. -/
def chainLimit : Nat := 950

def attributeLinks : Expr → Nat
  | .attribute value _ => attributeLinks value + 1
  | _ => 0

def unionLinks : Expr → Nat
  | .binary .bitOr left right => max (unionLinks left) (unionLinks right) + 1
  | _ => 0

/-- The error that an expression is not supported, or that it cannot even be shown. -/
def refuse (problem : Text → Problem) (field : Text) (expr : Expr) : Error :=
  match TypeExpr.print expr with
  | .ok text => .comment ⟨problem text, field, some text⟩
  | .error error => error

/-- The error that an expression stands for no type; a quotation that is torn cannot be read. -/
def noType (field : Text) : Expr → Error
  | .constant (.torn content _) => TypeExpr.tornError content
  | expr => refuse .typeUnsupported field expr

def dottedName? (expr : Expr) : Except Error (Option Text) :=
  if attributeLinks expr > chainLimit then .error .depthExceeded else .ok expr.dottedName?

inductive Generic where
  | array
  | optional
  | mapping
  | union
deriving DecidableEq, Repr

def genericOf? (name : Text) : Option Generic :=
  if arrayNames.contains name then some .array
  else if optionalNames.contains name then some .optional
  else if mapNames.contains name then some .mapping
  else if unionNames.contains name then some .union
  else none

def generic? (base : Expr) : Except Error (Option Generic) := do
  let dotted? ← dottedName? base
  .ok (dotted?.bind genericOf?)

/-- One alternative stands for itself; several, or none, are a list of alternatives. -/
def alternatives : List Definition → Definition
  | [single] => single
  | several => { oneOf := several }

def withNull (nullable : Bool) (definition : Definition) : Definition :=
  if nullable then { definition with nullable := some true } else definition

abbrev Members := List Definition × Bool

def combine (expr : Expr) (members : Except Error Members) : Except Error Definition :=
  match expr with
  | .constant .none => .ok { type := some "null".toList }
  | .binary .bitOr _ _ =>
      if unionLinks expr > chainLimit then .error .depthExceeded
      else members.map fun (nodes, nullable) => withNull nullable (alternatives nodes)
  | _ => members.map fun (nodes, _) => alternatives nodes

def single (definition : Definition) : Except Error Members := .ok ([definition], false)

/-- An argument of a subscript: whether it is null, and its definition, which is asked for only
where it is needed. -/
structure Argument where
  isNull : Bool
  node : Unit → Except Error Definition

def firstNode : List Argument → Except Error Definition
  | [] => .error .index
  | first :: _ => first.node ()

def argumentMembers : List Argument → Except Error Members
  | [] => .ok ([], false)
  | argument :: rest =>
      if argument.isNull then do
        let (nodes, _) ← argumentMembers rest
        .ok (nodes, true)
      else do
        let first ← argument.node ()
        let (nodes, nullable) ← argumentMembers rest
        .ok (first :: nodes, nullable)

/-- A mapping has a key, which says nothing here, and a value. -/
def mapped (field : Text) (expr : Expr) : List Argument → Except Error Members
  | [_, value] => do
      let value ← value.node ()
      single { type := some "object".toList, additionalProperties := some value }
  | _ => .error (refuse .mappingArity field expr)

def applied (field : Text) (expr base : Expr) (arguments : List Argument) :
    Except Error Members := do
  match ← generic? base with
  | some .array =>
      let first ← firstNode arguments
      single { type := some "array".toList, items := some first }
  | some .optional =>
      let first ← firstNode arguments
      single (withNull true first)
  | some .mapping => mapped field expr arguments
  | some .union =>
      let (nodes, nullable) ← argumentMembers arguments
      single (withNull nullable (alternatives nodes))
  | none => .error (refuse .genericUnsupported field expr)

def joined (left right : Except Error Members) : Except Error Members := do
  let (nodes, nullable) ← left
  let (nodes', nullable') ← right
  .ok (nodes ++ nodes', nullable || nullable')

def isNull : Expr → Bool
  | .constant .none => true
  | _ => false

section

variable (builder : Builder) (field context : Text) (inline : Bool)
  (quoted : Text → Except Error Definition)

mutual
/-- The alternatives that an expression stands for in a union, `quoted` giving the
definition of a quoted text; unions inside unions are taken apart. -/
def members (expr : Expr) : Except Error Members :=
  match expr with
  | .constant .none => .ok ([], true)
  | .constant (.str text _) => do single (← quoted text)
  | .name id => single (builder.named context inline id)
  | .attribute value name => do
      match ← dottedName? (.attribute value name) with
      | some dotted => single (builder.named context inline dotted)
      | none => .error (refuse .typeUnsupported field (.attribute value name))
  | .subscript base (.tuple elements) =>
      applied field (.subscript base (.tuple elements)) base (arguments elements)
  | .subscript base argument =>
      applied field (.subscript base argument) base
        [⟨isNull argument, fun _ => combine argument (members argument)⟩]
  | .binary .bitOr left right => joined (members left) (members right)
  | expr => .error (noType field expr)
termination_by structural expr

def arguments (exprs : List Expr) : List Argument :=
  match exprs with
  | [] => []
  | expr :: rest => ⟨isNull expr, fun _ => combine expr (members expr)⟩ :: arguments rest
termination_by structural exprs
end

def node (expr : Expr) : Except Error Definition :=
  combine expr (builder.members field context inline quoted expr)

end

/-- The definition of a quoted text, `depth` bounding how often quotations nest. -/
def quotedNode [Dialect] (builder : Builder) (field context : Text) (inline : Bool) :
    Nat → Text → Except Error Definition
  | 0, text => do
      let expr ← TypeExpr.parse text
      builder.node field context inline (fun _ => .error .depthExceeded) expr
  | depth + 1, text => do
      let expr ← TypeExpr.parse text
      builder.node field context inline (builder.quotedNode field context inline depth) expr

def build [Dialect] (builder : Builder) (field : Text) (expr : Expr) (context : Text)
    (inline : Bool) : Except Error Definition :=
  let quoted (text : Text) := builder.quotedNode field context inline text.length text
  match builder.node field context inline quoted expr with
  | .error (.tooDeep _) => .error (.comment ⟨.nodeTooDeep field, field, none⟩)
  | outcome => outcome

/-- What is built where the stack is bounded by more than the length of chains. -/
def buildOnStack [Dialect] (builder : Builder) (field : Text) (expr : Expr) (context : Text)
    (inline : Bool) : Except Error Definition :=
  match Dialect.exhaustion? expr with
  | some .building => .error (.comment ⟨.nodeTooDeep field, field, none⟩)
  | some (.reading text) => .error (.comment ⟨.typeTooDeep text, [], some text⟩)
  | none => builder.build field expr context inline

end Builder

end CommentSchema
