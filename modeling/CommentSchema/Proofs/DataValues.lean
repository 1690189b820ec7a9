import CommentSchema.Proofs.SchemaRoundTrip

/-! The data of a definition in its schema.  Pruning takes entries out of schemas and cannot
tell a list of dictionaries that are data from a list of schemas.  A default is carried as it is
by the part of the schema that belongs to its definition, however deep that lies, and so are
allowed values unless all of them are dictionaries with something to prune in them. -/

namespace CommentSchema

/-- What a dictionary has under the key of a field. -/
def Value.entry? (field : Field) : Value → Option Value
  | .dict entries => lookup? entries (.str field.key)
  | _ => none

namespace Definition

/-- A step from a definition to one that it holds. -/
inductive Child where
  | items
  | additionalProperties
  | alternative (index : Nat)
deriving DecidableEq

def child? (definition : Definition) : Child → Option Definition
  | .items => definition.items
  | .additionalProperties => definition.additionalProperties
  | .alternative index => definition.oneOf[index]?

def descend? (definition : Definition) : List Child → Option Definition
  | [] => some definition
  | step :: rest => (definition.child? step).bind fun child => child.descend? rest

/-- The part of a schema that belongs to a definition one step down. -/
def childPart? (schema : Value) : Child → Option Value
  | .items => schema.entry? .items
  | .additionalProperties => schema.entry? .additionalProperties
  | .alternative index =>
      match schema.entry? .oneOf with
      | some (.list parts) => parts[index]?
      | _ => none

def part? (schema : Value) : List Child → Option Value
  | [] => some schema
  | step :: rest => (childPart? schema step).bind fun child => part? child rest

theorem entry?_toSchema (definition : Definition) (field : Field) :
    definition.toSchema.entry? field = definition.written? field := by
  rw [← schemaValue?_eq]
  rfl

theorem childPart?_toSchema {definition child : Definition} {step : Child}
    (below : definition.child? step = some child) :
    childPart? definition.toSchema step = some child.toSchema := by
  cases step with
  | items | additionalProperties =>
      simp only [child?] at below
      simp only [childPart?, entry?_toSchema, written?, dumped?, below]
      rfl
  | alternative index =>
      simp only [child?] at below
      have nonempty : definition.oneOf ≠ [] := by
        intro empty
        simp [empty] at below
      have parts : definition.written? .oneOf = some (.list (definition.oneOf.map toSchema)) := by
        simp [written?, dumped?, pruneValue?_nodes, nonempty]
      simp only [childPart?, entry?_toSchema, parts, List.getElem?_map, below]
      rfl

/-- The schema has a part for every definition inside, which is the schema of that definition. -/
theorem part?_toSchema {definition inner : Definition} {path : List Child}
    (inside : definition.descend? path = some inner) :
    part? definition.toSchema path = some inner.toSchema := by
  induction path generalizing definition with
  | nil =>
      cases inside
      rfl
  | cons step rest ih =>
      obtain ⟨child, below, inside⟩ := Option.bind_eq_some_iff.mp inside
      rw [part?, childPart?_toSchema below]
      exact ih inside

/-! ### What pruning changes -/

/-- Pruning takes something out of the value: an empty text or an empty list that stands under
another key than that of the default, in the value itself or in what pruning goes on to. -/
inductive Prunable : Value → Prop where
  | empty {entries : List (Value × Value)} {key value : Value} (member : (key, value) ∈ entries)
      (other : key ≠ .str Field.default.key) (isEmpty : value = .str [] ∨ value = .list []) :
      Prunable (.dict entries)
  | entry {entries : List (Value × Value)} {key value : Value} (member : (key, value) ∈ entries)
      (other : key ≠ .str Field.default.key) (inside : Prunable value) : Prunable (.dict entries)
  | item {items : List Value} {item : Value} (schemas : ∀ item ∈ items, item.isDict = true)
      (member : item ∈ items) (inside : Prunable item) : Prunable (.list items)

/-- The value is left as it is where it stands in a dictionary. -/
def Stays (value : Value) : Prop := pruneValue? value = some value

theorem isDefaultKey_iff {key : Value} :
    isDefaultKey key = true ↔ key = .str Field.default.key := by
  cases key <;> simp [isDefaultKey]

theorem length_pruneEntries_le (entries : List (Value × Value)) :
    (pruneEntries entries).length ≤ entries.length := by
  induction entries with
  | nil => exact Nat.le_refl 0
  | cons entry rest ih =>
      obtain ⟨key, value⟩ := entry
      rw [pruneEntries]
      split
      · simpa using ih
      · split
        · simpa using ih
        · exact Nat.le_succ_of_le ih

theorem pruneEntries_eq_self {entries : List (Value × Value)} :
    pruneEntries entries = entries ↔
      ∀ entry ∈ entries, entry.1 ≠ .str Field.default.key → Stays entry.2 := by
  induction entries with
  | nil => simp [pruneEntries]
  | cons entry rest ih =>
      obtain ⟨key, value⟩ := entry
      rw [List.forall_mem_cons, ← ih, pruneEntries]
      split
      · next isDefault =>
          simp [isDefaultKey_iff.mp isDefault]
      · next other =>
          rw [isDefaultKey_iff] at other
          cases kept : pruneValue? value with
          | some kept => simp [other, Stays, kept]
          | none =>
              -- An entry that is taken out is missing in the end.
              have shorter : pruneEntries rest ≠ (key, value) :: rest := by
                intro same
                have bound := length_pruneEntries_le rest
                rw [same, List.length_cons] at bound
                omega
              simp [other, Stays, kept, shorter]

theorem pruneEach_eq_self {items : List Value} (schemas : ∀ item ∈ items, item.isDict = true) :
    pruneEach items = items ↔ ∀ item ∈ items, Stays item := by
  induction items with
  | nil => simp [pruneEach]
  | cons item rest ih =>
      rw [List.forall_mem_cons] at schemas
      obtain ⟨entries, rfl⟩ := Value.isDict_iff.mp schemas.1
      rw [List.forall_mem_cons, ← ih schemas.2]
      simp [pruneEach, Stays, pruneValue?]

theorem stays_dict_iff {entries : List (Value × Value)} : Stays (.dict entries) ↔
    ∀ entry ∈ entries, entry.1 ≠ .str Field.default.key → Stays entry.2 := by
  rw [← pruneEntries_eq_self]
  simp [Stays, pruneValue?]

theorem stays_list_iff {items : List Value} : Stays (.list items) ↔
    items ≠ [] ∧ ((∀ item ∈ items, item.isDict = true) → ∀ item ∈ items, Stays item) := by
  by_cases empty : items = []
  · simp [Stays, pruneValue?, empty]
  · by_cases schemas : ∀ item ∈ items, item.isDict = true
    · rw [← pruneEach_eq_self schemas]
      simp [Stays, pruneValue?, empty]
    · simp only [not_forall] at schemas
      obtain ⟨item, member, data⟩ := schemas
      have kept := pruneValue?_list ⟨item, member, Bool.eq_false_iff.mpr data⟩
      simp only [Stays, kept, true_iff]
      exact ⟨empty, fun schemas => absurd (schemas item member) data⟩

theorem prunable_dict_iff {entries : List (Value × Value)} : Prunable (.dict entries) ↔
    ∃ entry ∈ entries, entry.1 ≠ .str Field.default.key ∧
      (entry.2 = .str [] ∨ entry.2 = .list [] ∨ Prunable entry.2) := by
  constructor
  · intro prunable
    cases prunable with
    | empty member other isEmpty => exact ⟨_, member, other, by tauto⟩
    | entry member other inside => exact ⟨_, member, other, .inr (.inr inside)⟩
  · intro found
    obtain ⟨⟨key, value⟩, member, other, empty | empty | inside⟩ := found
    · exact .empty member other (.inl empty)
    · exact .empty member other (.inr empty)
    · exact .entry member other inside

theorem prunable_list_iff {items : List Value} : Prunable (.list items) ↔
    (∀ item ∈ items, item.isDict = true) ∧ ∃ item ∈ items, Prunable item := by
  constructor
  · intro prunable
    cases prunable with
    | item schemas member inside => exact ⟨schemas, _, member, inside⟩
  · intro found
    obtain ⟨schemas, item, member, inside⟩ := found
    exact .item schemas member inside

/-- A value stays as it is unless it is empty or pruning takes something out of it. -/
theorem stays_iff (value : Value) :
    Stays value ↔ value ≠ .str [] ∧ value ≠ .list [] ∧ ¬ Prunable value := by
  -- Containers keep what they hold in lists, so the induction is on the size.
  induction size : sizeOf value using Nat.strongRecOn generalizing value with
  | ind n smaller =>
      subst size
      cases value with
      | dict entries =>
          have each (entry : Value × Value) (member : entry ∈ entries) : Stays entry.2 ↔
              entry.2 ≠ .str [] ∧ entry.2 ≠ .list [] ∧ ¬ Prunable entry.2 := by
            have inEntries := List.sizeOf_lt_of_mem member
            refine smaller (sizeOf entry.2) ?_ entry.2 rfl
            obtain ⟨key, value⟩ := entry
            simp only [Prod.mk.sizeOf_spec, Value.dict.sizeOf_spec] at inEntries ⊢
            omega
          rw [stays_dict_iff, prunable_dict_iff]
          simp only [ne_eq, reduceCtorEq, not_false_eq_true, true_and, not_exists, not_and,
            not_or]
          refine forall_congr' fun entry => forall_congr' fun member => ?_
          rw [each entry member]
      | list items =>
          have each (item : Value) (member : item ∈ items) : Stays item ↔
              item ≠ .str [] ∧ item ≠ .list [] ∧ ¬ Prunable item := by
            have inItems := List.sizeOf_lt_of_mem member
            refine smaller (sizeOf item) ?_ item rfl
            simp only [Value.list.sizeOf_spec]
            omega
          rw [stays_list_iff, prunable_list_iff]
          simp only [ne_eq, reduceCtorEq, not_false_eq_true, true_and, Value.list.injEq, not_and,
            not_exists]
          refine and_congr_right fun nonempty => forall_congr' fun schemas =>
            forall_congr' fun item => forall_congr' fun member => ?_
          obtain ⟨entries, rfl⟩ := Value.isDict_iff.mp (schemas item member)
          simpa using each (.dict entries) member
      | _ =>
          have unpruned {value : Value} (dict : ∀ entries, value ≠ .dict entries)
              (list : ∀ items, value ≠ .list items) : ¬ Prunable value := by
            intro prunable
            cases prunable with
            | empty | entry => exact dict _ rfl
            | item => exact list _ rfl
          simp [Stays, pruneValue?, unpruned]

/-- However deep a definition lies inside another one, its part of the schema has its default as
it is, and its allowed values as they are if and only if they are not prunable. -/
theorem schema_carries_data {definition inner : Definition} {path : List Child}
    (inside : definition.descend? path = some inner) :
    ∃ part, part? definition.toSchema path = some part ∧
      (inner.default ≠ .null → part.entry? .default = some inner.default) ∧
      ∀ values ∈ inner.enum, values ≠ [] →
        (part.entry? .enum = some (.list values) ↔ ¬ Prunable (.list values)) := by
  refine ⟨inner.toSchema, part?_toSchema inside, ?_, ?_⟩
  · intro given
    rw [entry?_toSchema, ← schemaValue?_eq, schemaValue?_default]
    obtain ⟨value, present⟩ := Option.isSome_iff_exists.mp (Value.isSome_present?.mpr given)
    rw [present, Value.eq_of_present? present]
  · intro values held nonempty
    rw [Option.mem_def] at held
    have stays := stays_iff (.list values)
    simp only [Stays, ne_eq, reduceCtorEq, not_false_eq_true, true_and, Value.list.injEq,
      nonempty] at stays
    simp only [entry?_toSchema, written?, dumped?, held, Option.map_some, Option.bind_some,
      reduceCtorEq, if_false, stays]

/-- Two steps down, a default and allowed values with an empty text in them are carried. -/
theorem schema_carries_data_besideNull :
    let blank : Value := .dict [(.str "a".toList, .str [])]
    let inner : Definition := { default := blank, enum := some [blank, .null] }
    let definition : Definition := { items := some { oneOf := [{}, inner] } }
    let path : List Child := [.items, .alternative 1]
    definition.descend? path = some inner ∧ inner.default ≠ .null ∧
      [blank, .null] ∈ inner.enum ∧ [blank, .null] ≠ [] ∧
      ∃ part, part? definition.toSchema path = some part ∧
        part.entry? .default = some blank ∧ part.entry? .enum = some (.list [blank, .null]) := by
  intro blank inner definition path
  have inside : definition.descend? path = some inner := rfl
  have given : inner.default ≠ .null := nofun
  obtain ⟨part, found, default, enum⟩ := schema_carries_data inside
  have kept : ¬ Prunable (.list [blank, .null]) := by
    intro prunable
    have schemas := (prunable_list_iff.mp prunable).1
    cases schemas .null (by simp)
  exact ⟨inside, given, rfl, nofun, part, found, default given,
    (enum [blank, .null] rfl nofun).mpr kept⟩

/-- Among dictionaries only, the empty text is taken out. -/
theorem toSchema_prunes_data :
    let blank : Value := .dict [(.str "a".toList, .str [])]
    let definition : Definition := { enum := some [blank] }
    definition.enum = some [blank] ∧
      definition.toSchema = .dict [(.str "enum".toList, .list [.dict []])] ∧
      definition.toSchema.entry? .enum ≠ some (.list [blank]) := by
  intro blank definition
  have pruned : definition.toSchema = .dict [(.str "enum".toList, .list [.dict []])] := rfl
  have entry : definition.toSchema.entry? .enum = some (.list [.dict []]) := rfl
  refine ⟨rfl, pruned, ?_⟩
  rw [entry]
  simp [blank]

end Definition

end CommentSchema
