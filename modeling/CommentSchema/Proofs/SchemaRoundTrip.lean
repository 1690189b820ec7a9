import CommentSchema.Definition.Adopt
import CommentSchema.Definition.Schema
import Mathlib.Data.List.Basic

/-! Definitions read back from their schemas.  A schema leaves out what is absent and what is
empty, and reading fills in exactly that again, at every depth.  What cannot come back is an
empty text where no text is something else, and a list of values that is pruned like a list
of definitions. -/

namespace CommentSchema.Definition

/-- Nothing in the definition itself is lost in its schema: no text that may be absent is
empty, and allowed values are not all dictionaries, which an empty list of them would be. -/
structure Legible (definition : Definition) : Prop where
  type : definition.type ≠ some []
  ref : definition.ref ≠ some []
  format : definition.format ≠ some []
  enum : ∀ values ∈ definition.enum, ∃ value ∈ values, value.isDict = false

/-- A value is read as what the field of a definition holds. -/
def Denotes (definition : Definition) (field : Field) (value : Value) : Prop :=
  ∀ other, checkField field value other = (withField definition field other, [])

/-- A definition is read back from its schema, without issues. -/
def Restored (definition : Definition) : Prop := checkNode definition.toSchema = (definition, [])

theorem fieldOf?_key (given : List Text) (field : Field) :
    fieldOf? given field.key = some field := by
  simp [fieldOf?, Field.ofKey?_key]

/-- Entries that denote what the fields of a definition hold are read as these fields; the
other fields stay empty. -/
theorem checkEntries_entriesOf {definition : Definition} {value? : Field → Option Value}
    (denotes : ∀ field value, value? field = some value → Denotes definition field value)
    (given : List Text) (fields : List Field) :
    (checkEntries given (entriesOf value? fields)).2 = [] ∧
      ∀ field, AgreeOn field (checkEntries given (entriesOf value? fields)).1
        (if field ∈ fields ∧ (value? field).isSome then definition else {}) := by
  induction fields with
  | nil =>
      refine ⟨rfl, fun field => ?_⟩
      simpa [entriesOf, checkEntries] using AgreeOn.refl field {}
  | cons first rest ih =>
      obtain ⟨clean, agree⟩ := ih
      cases found : value? first with
      | none =>
          have same : entriesOf value? (first :: rest) = entriesOf value? rest := by
            simp [entriesOf, found]
          rw [same]
          refine ⟨clean, fun field => ?_⟩
          by_cases isFirst : field = first
          · subst isFirst
            simpa [found] using agree field
          · simpa [isFirst] using agree field
      | some value =>
          have same : entriesOf value? (first :: rest) =
              (.str first.key, value) :: entriesOf value? rest := by
            simp [entriesOf, found]
          rw [same, checkEntries]
          simp only [fieldOf?_key, denotes first value found _, clean]
          refine ⟨rfl, fun field => ?_⟩
          by_cases isFirst : field = first
          · subst isFirst
            simpa [found] using agreeOn_withField definition field _
          · have untouched := agreeOn_withField_of_ne definition isFirst
              (checkEntries given (entriesOf value? rest)).1
            simpa [isFirst] using untouched.trans (agree field)

section

variable {definition : Definition}

theorem checkField_items (node : Definition) (restored : node.Restored) (other : Definition) :
    checkField .items node.toSchema other = ({ other with items := some node }, []) := by
  have read := restored
  rw [Restored, toSchema, checkNode] at read
  simp only [toSchema, checkField, read]

theorem checkField_additionalProperties (node : Definition) (restored : node.Restored)
    (other : Definition) : checkField .additionalProperties node.toSchema other =
      ({ other with additionalProperties := some node }, []) := by
  have read := restored
  rw [Restored, toSchema, checkNode] at read
  simp only [toSchema, checkField, read]

theorem pruneEach_dumpEach (nodes : List Definition) :
    pruneEach (dumpEach nodes) = nodes.map toSchema := by
  induction nodes with
  | nil => rfl
  | cons node rest ih => rw [dumpEach, pruneEach, ih, List.map_cons, toSchema]

theorem checkNodesFrom_toSchema {nodes : List Definition}
    (restored : ∀ node ∈ nodes, node.Restored) (n : Nat) :
    checkNodesFrom n (nodes.map toSchema) = (nodes, []) := by
  induction nodes generalizing n with
  | nil => rfl
  | cons node rest ih =>
      rw [List.forall_mem_cons] at restored
      have read := restored.1
      rw [Restored] at read
      simp only [List.map_cons, checkNodesFrom, read, ih restored.2]
      rfl

theorem pruneValue?_str (text : Text) :
    pruneValue? (.str text) = if text = [] then none else some (.str text) := by
  simp [pruneValue?]

theorem pruneValue?_list {items : List Value} (other : ∃ item ∈ items, item.isDict = false) :
    pruneValue? (.list items) = some (.list items) := by
  obtain ⟨item, member, isOther⟩ := other
  have nonempty : items ≠ [] := List.ne_nil_of_mem member
  have mixed : items.all Value.isDict = false := by
    rw [List.all_eq_false]
    exact ⟨item, member, by simp [isOther]⟩
  simp [pruneValue?, nonempty, mixed]

theorem pruneValue?_texts (texts : List Text) :
    pruneValue? (.list (texts.map .str)) =
      if texts = [] then none else some (.list (texts.map .str)) := by
  cases texts with
  | nil => rfl
  | cons text rest =>
      rw [if_neg (List.cons_ne_nil text rest)]
      exact pruneValue?_list ⟨.str text, by simp, rfl⟩

theorem pruneValue?_nodes (nodes : List Definition) :
    pruneValue? (.list (dumpEach nodes)) =
      if nodes = [] then none else some (.list (nodes.map toSchema)) := by
  cases nodes with
  | nil => rfl
  | cons node rest =>
      have dictionaries : (dumpEach (node :: rest)).all Value.isDict = true := by
        induction node :: rest with
        | nil => rfl
        | cons node rest ih => simpa [dumpEach, Value.isDict] using ih
      rw [if_neg (List.cons_ne_nil node rest), pruneValue?, dictionaries, pruneEach_dumpEach]
      rfl

/-- What a legible definition has under the key of a field in its schema. -/
def kept? (definition : Definition) : Field → Option Value
  | .type => definition.type.map .str
  | .ref => definition.ref.map .str
  | .format => definition.format.map .str
  | .nullable => definition.nullable.map .bool
  | .items => definition.items.map toSchema
  | .additionalProperties => definition.additionalProperties.map toSchema
  | .enum => definition.enum.map .list
  | .default => definition.default.present?
  | .oneOf =>
      if definition.oneOf = [] then none else some (.list (definition.oneOf.map toSchema))
  | .examples =>
      if definition.examples = [] then none else some (.list (definition.examples.map .str))
  | .description =>
      if definition.description = [] then none else some (.str definition.description)
  | .htmlDescription =>
      if definition.htmlDescription = [] then none else some (.str definition.htmlDescription)

theorem written?_eq_kept? (legible : definition.Legible) (field : Field) :
    definition.written? field = definition.kept? field := by
  have text {text? : Option Text} (visible : text? ≠ some []) :
      ((text?.map Value.str).bind fun value => pruneValue? value) = text?.map .str := by
    cases text? with
    | none => rfl
    | some text =>
        have nonempty : text ≠ [] := fun empty => visible (congrArg some empty)
        simp [pruneValue?_str, nonempty]
  cases field with
  | type => simpa [written?, dumped?, kept?] using text legible.type
  | ref => simpa [written?, dumped?, kept?] using text legible.ref
  | format => simpa [written?, dumped?, kept?] using text legible.format
  | nullable => cases nullable : definition.nullable <;>
      simp [written?, dumped?, kept?, nullable, pruneValue?]
  | items => cases items : definition.items <;>
      simp [written?, dumped?, kept?, items, pruneValue?, toSchema]
  | additionalProperties => cases values : definition.additionalProperties <;>
      simp [written?, dumped?, kept?, values, pruneValue?, toSchema]
  | enum =>
      cases enum : definition.enum with
      | none => simp [written?, dumped?, kept?, enum]
      | some values =>
          simp [written?, dumped?, kept?, enum, pruneValue?_list (legible.enum values enum)]
  | default => simp [written?, dumped?, kept?]
  | oneOf => simp [written?, dumped?, kept?, pruneValue?_nodes]
  | examples => simp [written?, dumped?, kept?, pruneValue?_texts]
  | description => simp [written?, dumped?, kept?, pruneValue?_str]
  | htmlDescription => simp [written?, dumped?, kept?, pruneValue?_str]

theorem toSchema_of_legible (legible : definition.Legible) :
    definition.toSchema = .dict (entriesOf definition.kept? Field.all) := by
  rw [toSchema_eq, funext (written?_eq_kept? legible)]

/-- What stands under a key denotes what the definition has there, if the definitions inside
it are restored from their schemas. -/
theorem denotes_of_kept? (items : ∀ inner ∈ definition.items, inner.Restored)
    (additionalProperties : ∀ inner ∈ definition.additionalProperties, inner.Restored)
    (oneOf : ∀ inner ∈ definition.oneOf, inner.Restored) (field : Field) (value : Value)
    (stands : definition.kept? field = some value) : Denotes definition field value := by
  intro other
  cases field with
  | type | ref | format | nullable | enum =>
      obtain ⟨held, found, rfl⟩ := Option.map_eq_some_iff.mp stands
      simp only [withField, found]
      rfl
  | items =>
      obtain ⟨node, found, rfl⟩ := Option.map_eq_some_iff.mp stands
      simpa only [withField, found] using checkField_items node (items node found) other
  | additionalProperties =>
      obtain ⟨node, found, rfl⟩ := Option.map_eq_some_iff.mp stands
      simpa only [withField, found] using
        checkField_additionalProperties node (additionalProperties node found) other
  | default =>
      have same : definition.default = value := Value.eq_of_present? stands
      simp only [checkField, withField, same]
  | oneOf =>
      obtain ⟨-, same⟩ := Option.ite_none_left_eq_some.mp stands
      cases same
      simp only [checkField, withField, checkNodesFrom_toSchema oneOf]
  | examples =>
      obtain ⟨-, same⟩ := Option.ite_none_left_eq_some.mp stands
      cases same
      exact checkField_examples definition.examples other
  | description | htmlDescription =>
      obtain ⟨-, same⟩ := Option.ite_none_left_eq_some.mp stands
      cases same
      rfl

/-- What has no entry is as in an empty definition. -/
theorem agreeOn_empty_of_kept? {field : Field} (absent : definition.kept? field = none) :
    AgreeOn field {} definition := by
  cases field with
  | type | ref | format | nullable | items | additionalProperties | enum =>
      exact (Option.map_eq_none_iff.mp absent).symm
  | default => exact (Value.present?_eq_none.mp absent).symm
  | oneOf | examples | description | htmlDescription =>
      simp only [kept?, ite_eq_left_iff, reduceCtorEq, imp_false, Decidable.not_not] at absent
      exact absent.symm

end

theorem restored_of_legible {definition : Definition} (legible : Everywhere Legible definition) :
    definition.Restored := by
  induction legible with
  | @intro definition here _ _ _ items additionalProperties oneOf =>
      have read (given : List Text) :
          checkEntries given (entriesOf definition.kept? Field.all) = (definition, []) := by
        obtain ⟨clean, agree⟩ := checkEntries_entriesOf
          (denotes_of_kept? items additionalProperties oneOf) given Field.all
        refine Prod.ext (eq_of_agreeOn fun field => ?_) clean
        have agree := agree field
        cases found : definition.kept? field with
        | some value => simpa [found, Field.mem_all] using agree
        | none => exact .trans (by simpa [found] using agree) (agreeOn_empty_of_kept? found)
      rw [Restored, toSchema_of_legible here, checkNode]
      exact read _

/-! ### Schemas that mean the same -/

/-- Both are absent, or both are there and mean the same. -/
abbrev SameEntry : Option Value → Option Value → Prop := Option.Rel fun value other =>
  value.same other = true

theorem mem_entriesOf {value? : Field → Option Value} {fields : List Field}
    {entry : Value × Value} : entry ∈ entriesOf value? fields ↔
      ∃ field ∈ fields, value? field = some entry.2 ∧ .str field.key = entry.1 := by
  obtain ⟨key, value⟩ := entry
  simp [entriesOf]

theorem length_entriesOf (value? : Field → Option Value) (fields : List Field) :
    (entriesOf value? fields).length =
      (fields.filter fun field => (value? field).isSome).length := by
  rw [entriesOf, List.length_filterMap_eq_countP, List.countP_eq_length_filter]
  simp only [Option.isSome_map]

/-- Dictionaries under schema keys that mean the same do so key by key.  One has all keys of
the other, and as many. -/
theorem sameEntry_of_same {value? other? : Field → Option Value}
    (same : (Value.dict (entriesOf value? Field.all)).same
      (.dict (entriesOf other? Field.all)) = true) (field : Field) :
    SameEntry (value? field) (other? field) := by
  obtain ⟨count, each⟩ := Value.same_dict_iff.mp same
  have found {field : Field} {value : Value} (stands : value? field = some value) :
      ∃ other, other? field = some other ∧ value.same other = true := by
    obtain ⟨entry, member, sameKey, sameValue⟩ :=
      each (.str field.key, value) (mem_entriesOf.mpr ⟨field, Field.mem_all field, stands, rfl⟩)
    obtain ⟨field', -, stands', key⟩ := mem_entriesOf.mp member
    rw [← key, Value.same_str, beq_iff_eq, Field.key_eq_iff] at sameKey
    exact ⟨entry.2, sameKey ▸ stands', sameValue⟩
  have fewer : (Field.all.filter fun field => (value? field).isSome).Sublist
      (Field.all.filter fun field => (other? field).isSome) := by
    refine List.monotone_filter_right _ fun field isThere => ?_
    obtain ⟨value, stands⟩ := Option.isSome_iff_exists.mp isThere
    obtain ⟨other, stands', -⟩ := found stands
    exact Option.isSome_iff_exists.mpr ⟨other, stands'⟩
  have sameFields := fewer.eq_of_length (by
    rw [← length_entriesOf value?, ← length_entriesOf other?, count])
  cases here : value? field with
  | some value =>
      obtain ⟨other, there, means⟩ := found here
      rw [there]
      exact .some means
  | none =>
      cases there : other? field with
      | none => exact .none
      | some other =>
          have listed : field ∈ Field.all.filter fun field => (other? field).isSome := by
            simp [there, Field.mem_all]
          rw [← sameFields] at listed
          simp [here] at listed

section

variable {definition other : Definition}

theorem eq_of_sameEntry_text {text? other? : Option Text}
    (same : SameEntry (text?.map .str) (other?.map .str)) : text? = other? := by
  cases text? <;> cases other? <;> cases same
  · rfl
  · next same => simpa using same

theorem sameOption_of_sameEntry {node? other? : Option Definition}
    (inner : ∀ node ∈ node?, ∀ other ∈ other?,
      node.toSchema.same other.toSchema = true → node.same other = true)
    (same : SameEntry (node?.map toSchema) (other?.map toSchema)) :
    sameOption node? other? = true := by
  cases node? <;> cases other? <;> cases same
  · rfl
  · next node other same => exact inner node rfl other rfl same

theorem sameEach_of_sameItems {nodes others : List Definition}
    (inner : ∀ node ∈ nodes, ∀ other ∈ others,
      node.toSchema.same other.toSchema = true → node.same other = true)
    (same : Value.sameItems (nodes.map toSchema) (others.map toSchema) = true) :
    sameEach nodes others = true := by
  induction nodes generalizing others with
  | nil =>
      cases others with
      | nil => rfl
      | cons other others => cases same
  | cons node nodes ih =>
      cases others with
      | nil => cases same
      | cons other others =>
          simp only [List.map_cons, Value.sameItems, Bool.and_eq_true] at same
          simp only [sameEach, Bool.and_eq_true]
          refine ⟨inner node (by simp) other (by simp) same.1, ih ?_ same.2⟩
          exact fun node member other member' =>
            inner node (by simp [member]) other (by simp [member'])

theorem eq_of_sameItems_texts {texts others : List Text}
    (same : Value.sameItems (texts.map .str) (others.map .str) = true) : texts = others := by
  induction texts generalizing others with
  | nil =>
      cases others with
      | nil => rfl
      | cons other others => cases same
  | cons text texts ih =>
      cases others with
      | nil => cases same
      | cons other others =>
          simp only [List.map_cons, Value.sameItems, Value.same_str, Bool.and_eq_true,
            beq_iff_eq] at same
          rw [same.1, ih same.2]

theorem eq_of_sameEntry_list {items others : List α} {write : List α → Value}
    (means : ∀ items others, (write items).same (write others) = true → items = others)
    (same : SameEntry (if items = [] then none else some (write items))
      (if others = [] then none else some (write others))) : items = others := by
  split at same <;> split at same <;> cases same
  · next empty empty' => rw [empty, empty']
  · next same => exact means items others same

/-- Definitions that have the same under each key mean the same, if that is so of those
inside them. -/
theorem same_of_sameEntry
    (inItems : ∀ node ∈ definition.items, ∀ node' ∈ other.items,
      node.toSchema.same node'.toSchema = true → node.same node' = true)
    (inProperties : ∀ node ∈ definition.additionalProperties,
      ∀ node' ∈ other.additionalProperties,
        node.toSchema.same node'.toSchema = true → node.same node' = true)
    (inOneOf : ∀ node ∈ definition.oneOf, ∀ node' ∈ other.oneOf,
      node.toSchema.same node'.toSchema = true → node.same node' = true)
    (each : ∀ field, SameEntry (definition.kept? field) (other.kept? field)) :
    definition.same other = true := by
  have text : ∀ text text' : Text, (Value.str text).same (.str text') = true → text = text' := by
    simp
  have texts : ∀ texts texts' : List Text, (Value.list (texts.map .str)).same
      (.list (texts'.map .str)) = true → texts = texts' :=
    fun _ _ same => eq_of_sameItems_texts same
  have type := eq_of_sameEntry_text (each .type)
  have ref := eq_of_sameEntry_text (each .ref)
  have format := eq_of_sameEntry_text (each .format)
  have items := sameOption_of_sameEntry inItems (each .items)
  have properties := sameOption_of_sameEntry inProperties (each .additionalProperties)
  have examples := eq_of_sameEntry_list texts (each .examples)
  have description := eq_of_sameEntry_list text (each .description)
  have htmlDescription := eq_of_sameEntry_list text (each .htmlDescription)
  have nullable : definition.nullable = other.nullable := by
    have same := each .nullable
    simp only [kept?] at same
    cases nullable : definition.nullable <;> cases nullable' : other.nullable <;> simp_all
  have default : definition.default.same other.default = true := by
    have same : SameEntry definition.default.present? other.default.present? := each .default
    cases present : definition.default.present? <;>
      cases present' : other.default.present? <;> rw [present, present'] at same <;> cases same
    · rw [Value.present?_eq_none.mp present, Value.present?_eq_none.mp present']
      rfl
    · next same => rwa [Value.eq_of_present? present, Value.eq_of_present? present']
  have enum := each .enum
  have oneOf : sameEach definition.oneOf other.oneOf = true := by
    have same := each .oneOf
    simp only [kept?] at same
    split at same <;> split at same <;> cases same
    · next empty empty' => rw [empty, empty']; rfl
    · next same => exact sameEach_of_sameItems inOneOf same
  obtain ⟨_, _, _, _, _, _, values, _, _, _, _, _⟩ := definition
  unfold same
  obtain ⟨_, _, _, _, _, _, values', _, _, _, _, _⟩ := other
  simp only [Bool.and_eq_true, beq_iff_eq]
  refine ⟨⟨⟨⟨⟨⟨⟨⟨⟨⟨⟨type, ref⟩, format⟩, nullable⟩, items⟩, properties⟩, ?_⟩, default⟩, oneOf⟩,
    examples⟩, description⟩, htmlDescription⟩
  cases values <;> cases values' <;> cases enum
  · rfl
  · assumption

end

theorem same_of_same_toSchema {definition other : Definition}
    (legible : Everywhere Legible definition) (legible' : Everywhere Legible other)
    (same : definition.toSchema.same other.toSchema = true) : definition.same other = true := by
  induction legible generalizing other with
  | intro here _ _ _ inItems inProperties inOneOf =>
      obtain ⟨there, items, properties, oneOf⟩ := legible'
      rw [toSchema_of_legible here, toSchema_of_legible there] at same
      refine same_of_sameEntry ?_ ?_ ?_ (sameEntry_of_same same)
      · exact fun node member node' member' => inItems node member (items node' member')
      · exact fun node member node' member' => inProperties node member (properties node' member')
      · exact fun node member node' member' => inOneOf node member (oneOf node' member')

/-- The keywords of a schema give the definition back that the schema was made from.  So no
two such definitions have one schema, and where two schemas mean the same the definitions do. -/
theorem ofKeywords_toSchema {definition : Definition} (legible : Everywhere Legible definition) :
    ofKeywords definition.toSchema = .ok definition ∧
      ∀ other, Everywhere Legible other →
        (definition.toSchema = other.toSchema → definition = other) ∧
        (definition.toSchema.same other.toSchema = true → definition.same other = true) := by
  have restored {definition : Definition} (legible : Everywhere Legible definition) :
      ofKeywords definition.toSchema = .ok definition := by
    rw [ofKeywords, restored_of_legible legible]
    rfl
  refine ⟨restored legible, fun other legible' => ⟨fun same => ?_, ?_⟩⟩
  · have read := restored legible
    rw [same, restored legible'] at read
    exact (Except.ok.inj read).symm
  · exact same_of_same_toSchema legible legible'

/-- An empty list of allowed values, where nothing would be allowed, comes back as none at all. -/
example : ofKeywords (toSchema { enum := some [] }) = .ok {} := rfl

/-- A list that may not be null, of sizes and of things with a default. -/
def nestedList (default : Value) : Definition where
  type := some "array".toList
  nullable := some false
  items := some { oneOf := [{ ref := some "#/definitions/Size".toList }, { default }] }
  enum := some [.dict [], .null]
  examples := [[]]

theorem nestedList_legible (default : Value) : Everywhere Legible (nestedList default) := by
  have plain {definition : Definition} (type : definition.type ≠ some [])
      (ref : definition.ref ≠ some []) (format : definition.format ≠ some [])
      (enum : definition.enum = none) : definition.Legible :=
    ⟨type, ref, format, by simp [enum]⟩
  have items : Everywhere Legible
      { oneOf := [{ ref := some "#/definitions/Size".toList }, { default }] } := by
    refine .intro (plain nofun nofun nofun rfl) nofun nofun ?_
    refine List.forall_mem_cons.mpr ⟨?_, List.forall_mem_singleton.mpr ?_⟩
    · exact .leaf (plain nofun (by simp) nofun rfl) rfl rfl rfl
    · exact .leaf (plain nofun nofun nofun rfl) rfl rfl rfl
  refine .intro ⟨by simp [nestedList], nofun, nofun, ?_⟩ ?_ nofun nofun
  · rintro _ ⟨⟩
    exact ⟨.null, by simp, rfl⟩
  · rintro _ ⟨⟩
    exact items

theorem ofKeywords_toSchema_nestedList :
    Everywhere Legible (nestedList (.int 0)) ∧
      ofKeywords (nestedList (.int 0)).toSchema = .ok (nestedList (.int 0)) ∧
      Everywhere Legible (nestedList (.bool false)) ∧
      (nestedList (.int 0)).toSchema.same (nestedList (.bool false)).toSchema = true ∧
      (nestedList (.int 0)).same (nestedList (.bool false)) = true := by
  have zero := nestedList_legible (.int 0)
  have no := nestedList_legible (.bool false)
  have same : (nestedList (.int 0)).toSchema.same (nestedList (.bool false)).toSchema = true := by
    decide
  obtain ⟨restored, others⟩ := ofKeywords_toSchema zero
  exact ⟨zero, restored, no, same, (others _ no).2 same⟩

end CommentSchema.Definition
