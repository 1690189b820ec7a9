import CommentSchema.Value

/-! Plain data, for which there are notations that can be read back: null, truth values, whole
numbers, texts, lists, tuples and dictionaries under texts. -/

namespace CommentSchema.Value

/-- Plain data in which no number is too long to be read and no dictionary has a key twice.
Tuples may be left out. -/
inductive Plain (tuples : Bool) : Value → Prop where
  | null : Plain tuples .null
  | bool (flag : Bool) : Plain tuples (.bool flag)
  | int (n : Int) (short : (Text.digitsOf 10 n.natAbs).length ≤ 4300) : Plain tuples (.int n)
  | str (text : Text) : Plain tuples (.str text)
  | list {items : List Value} (each : ∀ item ∈ items, Plain tuples item) :
      Plain tuples (.list items)
  | tuple {items : List Value} (allowed : tuples = true)
      (each : ∀ item ∈ items, Plain tuples item) : Plain tuples (.tuple items)
  | dict {members : List (Text × Value)} (distinct : (members.map (·.1)).Nodup)
      (each : ∀ member ∈ members, Plain tuples member.2) :
      Plain tuples (.dict (members.map fun member => (.str member.1, member.2)))

theorem Plain.singleton {tuples : Bool} {name : Text} {value : Value}
    (plain : Plain tuples value) : Plain tuples (.dict [(.str name, value)]) := by
  have distinct : ([(name, value)].map (·.1)).Nodup := List.pairwise_singleton _ _
  exact .dict distinct (List.forall_mem_singleton.mpr plain)

mutual
/-- How deep containers stand inside of each other. -/
def nesting : Value → Nat
  | .list items | .tuple items | .set items => nestingOfEach items + 1
  | .dict entries => nestingOfEntries entries + 1
  | _ => 0
termination_by structural value => value

def nestingOfEach : List Value → Nat
  | [] => 0
  | item :: rest => max item.nesting (nestingOfEach rest)
termination_by structural items => items

def nestingOfEntries : List (Value × Value) → Nat
  | [] => 0
  | (key, value) :: rest => max (max key.nesting value.nesting) (nestingOfEntries rest)
termination_by structural entries => entries
end

theorem nesting_le_of_mem {items : List Value} {item : Value} (member : item ∈ items) :
    item.nesting ≤ nestingOfEach items := by
  induction items with
  | nil => cases member
  | cons first rest ih =>
      rw [nestingOfEach]
      rcases List.mem_cons.mp member with rfl | member
      · omega
      · have bound := ih member
        omega

theorem nesting_le_of_mem_entries {entries : List (Value × Value)} {entry : Value × Value}
    (member : entry ∈ entries) : entry.2.nesting ≤ nestingOfEntries entries := by
  induction entries with
  | nil => cases member
  | cons first rest ih =>
      obtain ⟨key, value⟩ := first
      rw [nestingOfEntries]
      rcases List.mem_cons.mp member with rfl | member
      · dsimp only
        omega
      · have bound := ih member
        omega

/-- Entries under different texts are a dictionary as they stand. -/
theorem ofEntries_of_distinct {members : List (Text × Value)}
    (distinct : (members.map (·.1)).Nodup) :
    ofEntries (members.map fun member => (.str member.1, member.2)) =
      .dict (members.map fun member => (.str member.1, member.2)) := by
  have appended (entries : List (Value × Value)) (name : Text) (value : Value)
      (absent : ∀ entry ∈ entries, entry.1 ≠ .str name) :
      insertEntry entries (.str name) value = entries ++ [(.str name, value)] := by
    induction entries with
    | nil => rfl
    | cons entry rest ih =>
        obtain ⟨key, stored⟩ := entry
        rw [List.forall_mem_cons] at absent
        rw [insertEntry, if_neg (mt same_str_iff.mp absent.1), ih absent.2, List.cons_append]
  have grows (before after : List (Text × Value))
      (distinct : ((before ++ after).map (·.1)).Nodup) :
      (after.map fun member => (Value.str member.1, member.2)).foldl
          (fun found entry => insertEntry found entry.1 entry.2)
          (before.map fun member => (.str member.1, member.2)) =
        (before ++ after).map fun member => (.str member.1, member.2) := by
    induction after generalizing before with
    | nil => simp
    | cons member rest ih =>
        have absent : ∀ entry ∈ before.map fun member => (Value.str member.1, member.2),
            entry.1 ≠ .str member.1 := by
          rw [List.map_append, List.nodup_append] at distinct
          simp only [List.forall_mem_map, ne_eq, str.injEq]
          intro earlier listed
          exact distinct.2.2 _ (List.mem_map_of_mem listed) _ (by simp)
        have longer := ih (before ++ [member]) (by simpa using distinct)
        simpa [appended _ member.1 member.2 absent] using longer
  exact congrArg Value.dict (grows [] members distinct)

end CommentSchema.Value
