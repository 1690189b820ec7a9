import CommentSchema.Proofs.Change
import CommentSchema.Proofs.Text.Occurrence

/-! Building with copies of registered definitions is building with references and replacing
those afterwards.  A reference gives way to the definition registered under what it names,
wherever it stands in the result; the expression fails in both ways or in none. -/

namespace CommentSchema.Builder

/-- The definition that is registered under the name in a reference. -/
def referent? (builder : Builder) (ref : Text) : Option Definition :=
  (builder.base.isPrefixOf? ref).bind fun name => builder.known.lookup name

mutual
/-- The definition with a copy in the place of every reference to a registered definition, at
every depth.  A copy is nullable where the reference was, and is not searched itself. -/
def inlined (builder : Builder) (definition : Definition) : Definition :=
  match definition with
  | ⟨type, ref, format, nullable, items, additionalProperties, enum, default, oneOf, examples,
      description, htmlDescription⟩ =>
      match ref.bind builder.referent? with
      | some registered => withNull (nullable == some true) registered
      | none =>
          ⟨type, ref, format, nullable, builder.inlinedOption items,
            builder.inlinedOption additionalProperties, enum, default, builder.inlinedEach oneOf,
            examples, description, htmlDescription⟩
termination_by structural definition

def inlinedOption (builder : Builder) (definition : Option Definition) : Option Definition :=
  match definition with
  | none => none
  | some definition => some (builder.inlined definition)
termination_by structural definition

def inlinedEach (builder : Builder) (definitions : List Definition) : List Definition :=
  match definitions with
  | [] => []
  | definition :: rest => builder.inlined definition :: builder.inlinedEach rest
termination_by structural definitions
end

variable {builder : Builder}

theorem inlinedOption_eq_map (definition : Option Definition) :
    builder.inlinedOption definition = definition.map builder.inlined := by
  cases definition with
  | none => rfl
  | some definition => rfl

theorem inlinedEach_eq_map (definitions : List Definition) :
    builder.inlinedEach definitions = definitions.map builder.inlined := by
  induction definitions with
  | nil => rfl
  | cons definition rest ih => rw [inlinedEach, ih, List.map_cons]

theorem inlined_of_referent {definition registered : Definition}
    (found : definition.ref.bind builder.referent? = some registered) :
    builder.inlined definition = withNull (definition.nullable == some true) registered := by
  cases definition
  rw [inlined, found]

theorem inlined_of_no_referent {definition : Definition}
    (absent : definition.ref.bind builder.referent? = none) :
    builder.inlined definition = { definition with
      items := definition.items.map builder.inlined
      additionalProperties := definition.additionalProperties.map builder.inlined
      oneOf := definition.oneOf.map builder.inlined } := by
  cases definition
  rw [inlined, absent, inlinedOption_eq_map, inlinedOption_eq_map, inlinedEach_eq_map]

/-- A copy is not searched, not even for a reference to itself. -/
example : inlined { known := [("T".toList, { ref := some "#/definitions/T".toList })] }
    { items := some { ref := some "#/definitions/T".toList, nullable := some true } } =
      { items := some { ref := some "#/definitions/T".toList, nullable := some true } } := rfl

theorem referent?_append (builder : Builder) (name : Text) :
    builder.referent? (builder.base ++ name) = builder.known.lookup name := by
  rw [referent?, Text.isPrefixOf?_append, Option.bind_some]

/-- A reference that is made nullable gives way to a nullable copy. -/
theorem inlined_withNull (nullable : Bool) (definition : Definition) :
    builder.inlined (withNull nullable definition) =
      withNull nullable (builder.inlined definition) := by
  cases nullable with
  | false => rfl
  | true =>
      cases found : definition.ref.bind builder.referent? with
      | some registered =>
          have same : (withNull true definition).ref.bind builder.referent? = some registered :=
            found
          rw [inlined_of_referent found, inlined_of_referent same]
          cases definition.nullable == some true with
          | true => rfl
          | false => rfl
      | none =>
          have same : (withNull true definition).ref.bind builder.referent? = none := found
          rw [inlined_of_no_referent found, inlined_of_no_referent same]
          rfl

theorem inlined_alternatives (nodes : List Definition) :
    builder.inlined (alternatives nodes) = alternatives (nodes.map builder.inlined) := by
  have several : builder.inlined { oneOf := nodes } = { oneOf := nodes.map builder.inlined } :=
    inlined_of_no_referent rfl
  match nodes with
  | [] => exact several
  | [node] => rfl
  | _ :: _ :: _ => exact several

theorem inlined_of_builtin {dotted : Text} {definition : Definition}
    (builtin : builtin? dotted = some definition) : builder.inlined definition = definition := by
  obtain ⟨ref, items, additionalProperties, oneOf⟩ := plain_of_builtin builtin
  rw [inlined_of_no_referent (by rw [ref]; rfl), items, additionalProperties, oneOf]
  cases definition
  simp_all

theorem inlined_named (builder : Builder) (context dotted : Text) :
    builder.inlined (builder.named context false dotted) = builder.named context true dotted := by
  unfold named
  cases builtin : builtin? dotted with
  | some definition => exact inlined_of_builtin builtin
  | none =>
      have refers := referent?_append builder (Reference.qualify context dotted)
      dsimp only
      cases known : builder.known.lookup (Reference.qualify context dotted) with
      | some registered => exact inlined_of_referent (refers.trans known)
      | none => exact inlined_of_no_referent (refers.trans known)

theorem inlined_goesInside (builder : Builder) : GoesInside builder.inlined where
  null := inlined_of_no_referent rfl
  array _ := inlined_of_no_referent rfl
  object _ := inlined_of_no_referent rfl
  withNull := inlined_withNull
  alternatives := inlined_alternatives

section

/-- Both ways of building make the same of an expression, but for the references. -/
def Inlines (builder : Builder) (field context : Text) (quoted : Text → Except Error Definition)
    (expr : Expr) : Prop :=
  builder.members field context true (fun text => (quoted text).map builder.inlined) expr =
    (builder.members field context false quoted expr).map (changedMembers builder.inlined)

variable {field context : Text} {quoted : Text → Except Error Definition}

theorem node_inlined {expr : Expr} (inlines : builder.Inlines field context quoted expr) :
    builder.node field context true (fun text => (quoted text).map builder.inlined) expr =
      (builder.node field context false quoted expr).map builder.inlined :=
  (inlined_goesInside builder).node inlines

theorem members_inlined (expr : Expr) : builder.Inlines field context quoted expr :=
  (inlined_goesInside builder).members
    (fun dotted => (inlined_named builder context dotted).symm) (fun _ => rfl) expr

end

theorem quotedNode_inlined [Dialect] (builder : Builder) (field context : Text) (depth : Nat)
    (text : Text) :
    builder.quotedNode field context true depth text =
      (builder.quotedNode field context false depth text).map builder.inlined :=
  (inlined_goesInside builder).quotedNode
    (fun dotted => (inlined_named builder context dotted).symm) depth text

/-- Building with copies gives what building with references gives, with every reference to a
registered definition replaced, and the same errors. -/
theorem build_inline [Dialect] (builder : Builder) (field : Text) (expr : Expr) (context : Text) :
    builder.build field expr context true =
      (builder.build field expr context false).map builder.inlined := by
  have quoted : (fun text => builder.quotedNode field context true text.length text) =
      fun text => (builder.quotedNode field context false text.length text).map
        builder.inlined := funext fun text => quotedNode_inlined builder field context _ text
  simp only [build, quoted, node_inlined (members_inlined expr)]
  cases builder.node field context false
    (fun text => builder.quotedNode field context false text.length text) expr with
  | ok definition => rfl
  | error error => cases error <;> rfl

end CommentSchema.Builder
