import CommentSchema.Proofs.Visit

/-! Quoted types inside of quoted types.  Each time the builder comes to a quotation it begins
again, with the text that is quoted.  A quoted text has its marks around it in the text that
quotes it, so what is read gets shorter every time; between two quotations the expression gets
smaller.  The recursion thus comes to an end before it has read as many texts, one inside the
other, as the first of them has characters. -/

namespace CommentSchema

namespace Expr

variable {expr leaf : Expr}

def isQuotation : Expr → Bool
  | .constant (.str ..) => true
  | _ => false

theorem isQuotation_of_isUnion (union : expr.isUnion = true) : expr.isQuotation = false := by
  cases expr with
  | constant => cases union
  | _ => rfl

theorem mem_strings_of_mem_leaves {points : List CodePoint} (member : leaf ∈ expr.leaves)
    (quotes : points ∈ leaf.strings) : points ∈ expr.strings := by
  fun_induction leaves expr with
  | case1 left right inLeft inRight =>
      rw [strings]
      rcases List.mem_append.mp member with member | member
      · exact List.mem_append_left _ (inLeft member)
      · exact List.mem_append_right _ (inRight member)
  | case2 => rwa [List.mem_singleton.mp member] at quotes

theorem sizeOf_le_of_mem_leaves (member : leaf ∈ expr.leaves) : sizeOf leaf ≤ sizeOf expr := by
  fun_induction leaves expr with
  | case1 left right inLeft inRight =>
      rw [binary.sizeOf_spec]
      rcases List.mem_append.mp member with member | member
      · have smaller := inLeft member
        omega
      · have smaller := inRight member
        omega
  | case2 => rw [List.mem_singleton.mp member]

theorem sizeOf_lt_of_mem_leaves (union : expr.isUnion = true) (member : leaf ∈ expr.leaves) :
    sizeOf leaf < sizeOf expr := by
  unfold isUnion at union
  split at union
  · next left right =>
      rw [binary.sizeOf_spec]
      rcases List.mem_append.mp member with member | member
      · have smaller := sizeOf_le_of_mem_leaves member
        omega
      · have smaller := sizeOf_le_of_mem_leaves member
        omega
  · cases union

end Expr

namespace Builder

section

variable {builder : Builder} {field context : Text} {inline : Bool}
  {quoted quoted' : Text → Except Error Definition}

theorem argument_congr {argument : Expr}
    (same : isNull argument = false → builder.node field context inline quoted argument =
      builder.node field context inline quoted' argument) :
    builder.argument field context inline quoted argument =
      builder.argument field context inline quoted' argument := by
  cases null : isNull argument with
  | true =>
      rw [eq_null_of_isNull null]
      rfl
  | false => rw [Builder.argument, Builder.argument, same null]

theorem argumentMembers_congr {exprs : List Expr}
    (same : ∀ expr ∈ exprs, isNull expr = false → builder.node field context inline quoted expr =
      builder.node field context inline quoted' expr) :
    argumentMembers (exprs.map (builder.argument field context inline quoted)) =
      argumentMembers (exprs.map (builder.argument field context inline quoted')) :=
  congrArg argumentMembers
    (List.map_congr_left fun expr member => argument_congr (same expr member))

end

section

variable [Dialect] {expr other : Expr} {source text : Text} {marked : Bool}

/-- To build the expression the builder reads another one of the same text. -/
def ReadsWithin (expr other : Expr) : Prop := expr.isQuotation = false ∧ Reads expr other

/-- The expressions of the same text that the builder reads on its way. -/
abbrev VisitsWithin : Expr → Expr → Prop := Relation.ReflTransGen ReadsWithin

/-- On its way through what the source says, the builder reads the text. -/
def Rereads (source text : Text) : Prop :=
  ∃ type marked, TypeExpr.parse source = .ok type ∧
    VisitsWithin type (.constant (.str text marked))

/-! ### What is read -/

theorem within_or_quoted (reads : Reads expr other) :
    ReadsWithin expr other ∨
      ∃ text marked, expr = .constant (.str text marked) ∧ TypeExpr.parse text = .ok other := by
  cases reads with
  | quoted marked read => exact .inr ⟨_, marked, rfl, read⟩
  | member unites present visible =>
      refine .inl ⟨?_, .member unites present visible⟩
      cases unites with
      | chain union => exact Expr.isQuotation_of_isUnion union
      | listed => rfl
  | first generic split => exact .inl ⟨rfl, .first generic split⟩
  | value mapping split => exact .inl ⟨rfl, .value mapping split⟩

/-- An alternative or an argument. -/
theorem ReadsWithin.part (reads : ReadsWithin expr other) :
    (expr.isUnion = true ∧ other ∈ expr.leaves) ∨
      ∃ base index, expr = .subscript base index ∧ other ∈ index.argumentsOf := by
  obtain ⟨unquoted, reads⟩ := reads
  cases reads with
  | quoted => cases unquoted
  | member unites present visible =>
      cases unites with
      | chain union => exact .inl ⟨union, present⟩
      | listed index union => exact .inr ⟨_, index, rfl, present⟩
  | first generic split => exact .inr ⟨_, _, rfl, split ▸ List.mem_cons_self⟩
  | value mapping split =>
      exact .inr ⟨_, _, rfl, split ▸ List.mem_cons_of_mem _ List.mem_cons_self⟩

theorem ReadsWithin.sizeOf_lt (reads : ReadsWithin expr other) : sizeOf other < sizeOf expr := by
  rcases reads.part with ⟨union, member⟩ | ⟨base, index, rfl, member⟩
  · exact Expr.sizeOf_lt_of_mem_leaves union member
  · exact Expr.sizeOf_lt_of_mem_argumentsOf member

theorem ReadsWithin.strings_subset (reads : ReadsWithin expr other) :
    other.strings ⊆ expr.strings := by
  intro points quotes
  rcases reads.part with ⟨-, member⟩ | ⟨base, index, rfl, member⟩
  · exact Expr.mem_strings_of_mem_leaves member quotes
  · rw [Expr.strings]
    exact Expr.mem_strings_of_mem_argumentsOf member quotes

theorem strings_subset_of_visitsWithin (visits : VisitsWithin expr other) :
    other.strings ⊆ expr.strings := by
  induction visits using Relation.ReflTransGen.head_induction_on with
  | refl => exact List.Subset.refl _
  | head reads _ ih => exact List.Subset.trans ih reads.strings_subset

theorem length_add_two_le_of_mem {type : Expr} {points : List CodePoint}
    (read : TypeExpr.parse source = .ok type) (visits : VisitsWithin type other)
    (quotes : points ∈ other.strings) : points.length + 2 ≤ source.length := by
  have shorter := TypeExpr.shorter_parse read points (strings_subset_of_visitsWithin visits quotes)
  omega

theorem Rereads.length_add_two_le (rereads : Rereads source text) :
    text.length + 2 ≤ source.length := by
  obtain ⟨type, marked, read, visits⟩ := rereads
  have shorter := length_add_two_le_of_mem read visits List.mem_cons_self
  rwa [List.length_map] at shorter

theorem length_of_chain {texts : List Text} (chain : List.IsChain Rereads (source :: texts)) :
    2 * texts.length ≤ source.length := by
  induction texts generalizing source with
  | nil => exact Nat.zero_le _
  | cons text rest ih =>
      rw [List.isChain_cons_cons] at chain
      have shorter := chain.1.length_add_two_le
      have others := ih chain.2
      rw [List.length_cons]
      omega

theorem length_pos_of_parse {type : Expr} (read : TypeExpr.parse source = .ok type) :
    0 < source.length := by
  cases source with
  | nil => cases read
  | cons c rest => exact Nat.zero_lt_succ _

/-! ### The calls of the builder -/

/-- A call of the builder: the text that is being read, and an expression that it comes to in
it. -/
structure Call where
  text : Text
  expr : Expr
  written : ∃ type, TypeExpr.parse text = .ok type ∧ VisitsWithin type expr

namespace Call

variable {call next : Call}

/-- One call makes another one. -/
inductive Makes (call next : Call) : Prop
  | within (text : next.text = call.text) (reads : ReadsWithin call.expr next.expr)
  | quoted (marked : Bool) (quotation : call.expr = .constant (.str next.text marked))
      (read : TypeExpr.parse next.text = .ok next.expr)

theorem length_add_two_le (quotation : call.expr = .constant (.str text marked)) :
    text.length + 2 ≤ call.text.length := by
  obtain ⟨type, read, visits⟩ := call.written
  rw [quotation] at visits
  exact Rereads.length_add_two_le ⟨type, marked, read, visits⟩

/-- The text that is read gets shorter, or it stays the same and the expression gets smaller. -/
theorem Makes.decreases (makes : Makes call next) :
    Prod.Lex (· < ·) (· < ·) (next.text.length, sizeOf next.expr)
      (call.text.length, sizeOf call.expr) := by
  cases makes with
  | within same reads =>
      rw [same]
      exact .right _ reads.sizeOf_lt
  | quoted marked quotation read =>
      have shorter := length_add_two_le quotation
      exact .left _ _ (by omega)

theorem wellFounded_makes : WellFounded fun next call => Makes call next :=
  Subrelation.wf Makes.decreases
    (InvImage.wf (fun call : Call => (call.text.length, sizeOf call.expr))
      (WellFounded.prod_lex Nat.lt_wfRel.wf Nat.lt_wfRel.wf))

theorem Makes.length_le (makes : Makes call next) : next.text.length ≤ call.text.length := by
  cases makes with
  | within same reads => rw [same]
  | quoted marked quotation read =>
      have shorter := length_add_two_le quotation
      omega

/-- Whatever the builder reads next makes one more call. -/
theorem exists_makes (reads : Reads call.expr other) :
    ∃ next : Call, next.expr = other ∧ Makes call next := by
  rcases within_or_quoted reads with within | ⟨text, marked, quotation, read⟩
  · obtain ⟨type, read, visits⟩ := call.written
    exact ⟨⟨call.text, other, type, read, visits.tail within⟩, rfl, .within rfl within⟩
  · exact ⟨⟨text, other, other, read, .refl⟩, rfl, .quoted marked quotation read⟩

/-- The builder comes to what it reads in a text that is no longer than the first one. -/
theorem exists_of_visits {type visited : Expr} (read : TypeExpr.parse source = .ok type)
    (visits : Visits type visited) :
    ∃ call : Call, call.expr = visited ∧ call.text.length ≤ source.length := by
  induction visits with
  | refl => exact ⟨⟨source, type, type, read, .refl⟩, rfl, Nat.le_refl _⟩
  | tail _ reads ih =>
      obtain ⟨call, rfl, shorter⟩ := ih
      obtain ⟨next, same, makes⟩ := exists_makes reads
      exact ⟨next, same, makes.length_le.trans shorter⟩

end Call

theorem length_lt_of_visits {type visited : Expr} {points : List CodePoint}
    (read : TypeExpr.parse source = .ok type) (visits : Visits type visited)
    (quotes : points ∈ visited.strings) : points.length < source.length := by
  obtain ⟨call, rfl, shorter⟩ := Call.exists_of_visits read visits
  obtain ⟨type, readInside, visitsInside⟩ := call.written
  have inside := length_add_two_le_of_mem readInside visitsInside quotes
  omega

/-! ### The running builder -/

section

variable {builder : Builder} {field context : Text} {inline : Bool}
  {quoted quoted' : Text → Except Error Definition}

section

variable {base index : Expr}
  (same : ∀ argument, ReadsWithin (.subscript base index) argument →
    builder.node field context inline quoted argument =
      builder.node field context inline quoted' argument)

include same

theorem firstNode_congr
    (generic : generic? base = .ok (some .array) ∨ generic? base = .ok (some .optional)) :
    firstNode (index.argumentsOf.map (builder.argument field context inline quoted)) =
      firstNode (index.argumentsOf.map (builder.argument field context inline quoted')) := by
  cases split : index.argumentsOf with
  | nil => rfl
  | cons first others => exact same first ⟨rfl, .first generic split⟩

theorem mapped_congr (mapping : generic? base = .ok (some .mapping)) :
    mapped field expr (index.argumentsOf.map (builder.argument field context inline quoted)) =
      mapped field expr
        (index.argumentsOf.map (builder.argument field context inline quoted')) := by
  rcases split : index.argumentsOf with _ | ⟨key, _ | ⟨value, _ | ⟨third, others⟩⟩⟩
  · rfl
  · rfl
  · have values := same value ⟨rfl, .value mapping split⟩
    simp only [List.map_cons, List.map_nil, mapped, argument, values]
  · rfl

/-- A base only uses the arguments that are read for it. -/
theorem applied_congr :
    applied field (.subscript base index) base
        (index.argumentsOf.map (builder.argument field context inline quoted)) =
      applied field (.subscript base index) base
        (index.argumentsOf.map (builder.argument field context inline quoted')) := by
  unfold applied
  cases named : generic? base with
  | error fault => rfl
  | ok generic =>
      rw [Error.ok_bind, Error.ok_bind]
      match generic with
      | some .array => rw [firstNode_congr same (.inl named)]
      | some .optional => rw [firstNode_congr same (.inr named)]
      | some .mapping => exact mapped_congr same named
      | some .union =>
          have members := argumentMembers_congr fun argument member visible =>
            same argument ⟨rfl, .member (.listed index named) member visible⟩
          rw [members]
      | none => rfl

end

/-- To build an expression, the builder asks for nothing but for what it reads. -/
theorem node_congr_of_reads
    (quotation : ∀ text marked, expr = .constant (.str text marked) → quoted text = quoted' text)
    (within : ∀ other, ReadsWithin expr other → builder.node field context inline quoted other =
      builder.node field context inline quoted' other) :
    builder.node field context inline quoted expr =
      builder.node field context inline quoted' expr := by
  induction expr using Expr.typeInduction with
  | null | name | dotted => simp only [node, members]
  | quotation text marked => simp only [node, members, quotation text marked rfl]
  | subscript base index => rw [node_subscript, node_subscript, applied_congr within]
  | alternatives left right =>
      rw [node, node, members_eq_argumentMembers, members_eq_argumentMembers,
        argumentMembers_congr fun leaf member visible =>
          within leaf ⟨rfl, .member (.chain rfl) member visible⟩]
  | other expr form =>
      rw [node, node, members_of_not_isTypeForm _ _ _ _ _ form,
        members_of_not_isTypeForm _ _ _ _ _ form]

theorem node_congr_of_visits (expr : Expr)
    (same : ∀ text marked, VisitsWithin expr (.constant (.str text marked)) →
      quoted text = quoted' text) :
    builder.node field context inline quoted expr =
      builder.node field context inline quoted' expr := by
  -- Between two quotations, what is read gets smaller.
  induction size : sizeOf expr using Nat.strongRecOn generalizing expr with
  | ind _ smaller =>
      subst size
      refine node_congr_of_reads (fun text marked quotation => ?_) fun other reads => ?_
      · subst quotation
        exact same text marked .refl
      · exact smaller _ reads.sizeOf_lt other
          (fun text marked visits => same text marked (.head reads visits)) rfl

end

/-- The definition of a quoted text where so many texts may be read, one inside the other; for
the next one there is the fallback. -/
def reread (builder : Builder) (field context : Text) (inline : Bool)
    (fallback : Text → Except Error Definition) : Nat → Text → Except Error Definition
  | 0, text => fallback text
  | steps + 1, text => do
      let expr ← TypeExpr.parse text
      builder.node field context inline (builder.reread field context inline fallback steps) expr

/-- The fallback is never asked for where the steps are as many as the other characters of the
text. -/
theorem node_reread {builder : Builder} {field context : Text} {inline : Bool} {type : Expr}
    {steps : Nat} (fallback : Text → Except Error Definition)
    (read : TypeExpr.parse source = .ok type) (enough : source.length ≤ steps + 1) :
    builder.node field context inline (builder.reread field context inline fallback steps) type =
      builder.node field context inline (builder.quotedAt field context inline none) type := by
  -- One text further inside, there is a step less, and the text has two characters less.
  induction steps generalizing source type with
  | zero =>
      refine node_congr_of_visits type fun text marked visits => ?_
      have shorter := Rereads.length_add_two_le ⟨type, marked, read, visits⟩
      omega
  | succ steps ih =>
      refine node_congr_of_visits type fun text marked visits => ?_
      have shorter := Rereads.length_add_two_le ⟨type, marked, read, visits⟩
      rw [reread, quotedAt_none]
      cases inner : TypeExpr.parse text with
      | error fault => rfl
      | ok expr => exact ih inner (by omega)

end

/-- Reading quoted types comes to an end.  Each quotation that the builder comes to, be it a text
that it reads or a torn one that it cannot read, is shorter than the text it began with, and it
never reads as many texts, one inside the other, as that text has characters; so a bound on them
of that size changes nothing.  Each of its calls reads a shorter text than the call before, or a
smaller expression of the same text. -/
theorem rereading_terminates [Dialect] (builder : Builder) (field context : Text) (inline : Bool) :
    (∀ source type, TypeExpr.parse source = .ok type →
      (∀ text marked, Visits type (.constant (.str text marked)) → text.length < source.length) ∧
      (∀ content marked, Visits type (.constant (.torn content marked)) →
        content.points.length < source.length) ∧
      (∀ texts, List.IsChain Rereads (source :: texts) → texts.length < source.length) ∧
      ∀ fallback steps, source.length ≤ steps + 1 →
        builder.node field context inline
            (builder.reread field context inline fallback steps) type =
          builder.node field context inline
            (fun text => builder.quotedNode field context inline text.length text) type) ∧
    (∀ expr quoted quoted', (∀ text marked, VisitsWithin expr (.constant (.str text marked)) →
        quoted text = quoted' text) →
      builder.node field context inline quoted expr =
        builder.node field context inline quoted' expr) ∧
    (∀ (call : Call) other, Reads call.expr other →
      ∃ next : Call, next.expr = other ∧ call.Makes next) ∧
    (∀ call next : Call, call.Makes next →
      Prod.Lex (· < ·) (· < ·) (next.text.length, sizeOf next.expr)
        (call.text.length, sizeOf call.expr)) ∧
    WellFounded fun next call : Call => call.Makes next := by
  refine ⟨fun source type read => ⟨?_, ?_, ?_, ?_⟩, ?_, ?_, ?_, Call.wellFounded_makes⟩
  · intro text marked visits
    have shorter := length_lt_of_visits read visits List.mem_cons_self
    rwa [List.length_map] at shorter
  · intro content marked visits
    exact length_lt_of_visits read visits List.mem_cons_self
  · intro texts chain
    have bound := length_of_chain chain
    have positive := length_pos_of_parse read
    omega
  · intro fallback steps enough
    exact node_reread fallback read enough
  · intro expr quoted quoted' same
    exact node_congr_of_visits expr same
  · intro call other reads
    exact Call.exists_makes reads
  · intro call next makes
    exact makes.decreases

/-- With a blank given by its name, in `list["Optional['A'] | None"]` the builder reads two texts,
one inside the other. -/
theorem rereading_terminates_nested :
    let builder : Builder := {}
    let name := "A".toList
    let quotation := Expr.constant (.str name false)
    let optional := Expr.subscript (.name "Optional".toList) quotation
    let union := Expr.binary .bitOr optional (.constant .none)
    let inner := "Optional['A'] | None".toList
    let type := Expr.subscript (.name "list".toList) (.constant (.str inner false))
    let source := "list[\x22Optional['A']\\N\x7bSPACE\x7d| None\x22]".toList
    let fallback (_ : Text) : Except Error Definition := .error .depthExceeded
    let sole (text : Text) := if text = inner then builder.quotedNode [] [] false 20 inner
      else fallback text
    TypeExpr.parse source = .ok type ∧ TypeExpr.parse inner = .ok union ∧
      Visits type quotation ∧ name.length < source.length ∧
      List.IsChain Rereads [source, inner, name] ∧ [inner, name].length < source.length ∧
      builder.node [] [] false (builder.reread [] [] false fallback 35) type =
        builder.node [] [] false
          (fun text => builder.quotedNode [] [] false text.length text) type ∧
      builder.node [] [] false
          (fun text => builder.quotedNode [] [] false text.length text) type =
        builder.node [] [] false sole type ∧
      ∃ call next : Call, call.expr = type ∧ call.Makes next ∧
        Prod.Lex (· < ·) (· < ·) (next.text.length, sizeOf next.expr)
          (call.text.length, sizeOf call.expr) := by
  intro builder name quotation optional union inner type source fallback sole
  have read : TypeExpr.parse "list[\x22Optional['A']\\N\x7bSPACE\x7d| None\x22]".toList =
      .ok (.subscript (.name "list".toList)
        (.constant (.str "Optional['A'] | None".toList false))) := by cbv
  have readInner : TypeExpr.parse "Optional['A'] | None".toList =
      .ok (.binary .bitOr
        (.subscript (.name "Optional".toList) (.constant (.str "A".toList false)))
        (.constant .none)) := by cbv
  have elements : ReadsWithin type (.constant (.str inner false)) := ⟨rfl, .first (.inl rfl) rfl⟩
  have member : ReadsWithin union optional :=
    ⟨rfl, .member (.chain rfl) List.mem_cons_self rfl⟩
  have named : ReadsWithin optional quotation := ⟨rfl, .first (.inr rfl) rfl⟩
  have visits : Visits type quotation :=
    .head elements.2 (.head (.quoted false readInner) (.head member.2 (.single named.2)))
  have chain : List.IsChain Rereads [source, inner, name] :=
    .cons_cons ⟨type, false, read, .single elements⟩
      (.cons_cons ⟨union, false, readInner, .head member (.single named)⟩ (.singleton _))
  have only (text : Text) (marked : Bool)
      (visits : VisitsWithin type (.constant (.str text marked))) :
      builder.quotedNode [] [] false text.length text = sole text := by
    have same : text.map CodePoint.char = inner.map .char :=
      List.mem_singleton.mp (strings_subset_of_visitsWithin visits List.mem_cons_self)
    obtain rfl : text = inner := List.map_injective_iff.mpr (fun _ _ => CodePoint.char.inj) same
    exact (if_pos rfl).symm
  have terminates := rereading_terminates builder [] [] false
  have short := terminates.1 source type read
  let call : Call := ⟨source, type, type, read, .refl⟩
  obtain ⟨next, -, makes⟩ := terminates.2.2.1 call _ elements.2
  exact ⟨read, readInner, visits, short.1 name false visits, chain, short.2.2.1 _ chain,
    short.2.2.2 fallback 35 (by decide), terminates.2.1 type _ sole only, call, next, rfl, makes,
    terminates.2.2.2.1 call next makes⟩

end Builder

end CommentSchema
