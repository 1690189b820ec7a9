import CommentSchema.Binary64
import CommentSchema.Text.CodePoint

/-! Data values, as literals and configuration files denote them.  Numbers are compared by
what they count, whatever their kind, and the order inside sets and dictionaries carries no
meaning. -/

namespace CommentSchema

inductive Value where
  | null
  | bool (flag : Bool)
  | int (number : Int)
  | float (number : Binary64)
  | complex (re im : Binary64)
  | str (text : Text)
  | torn (content : Torn)
  | bytes (content : List UInt8)
  | ellipsis
  | list (items : List Value)
  | tuple (items : List Value)
  | set (members : List Value)
  | dict (entries : List (Value × Value))
deriving BEq, Repr, Inhabited

namespace Value

/-- What code points are, be they a text or torn. -/
def ofPoints (points : List CodePoint) : Value := CodePoint.either .str .torn points

@[simp] theorem ofPoints_map_char (text : Text) : ofPoints (text.map .char) = .str text :=
  CodePoint.either_map_char text

/-- A number as a real and an imaginary part, the real part exact. -/
private inductive Quantity where
  | whole (n : Int)
  | real (x : Binary64)
  | plane (re im : Binary64)

private def quantity? : Value → Option Quantity
  | .bool flag => some (.whole (if flag then 1 else 0))
  | .int n => some (.whole n)
  | .float x => some (.real x)
  | .complex re im => some (.plane re im)
  | _ => none

private def Quantity.same : Quantity → Quantity → Bool
  | .whole m, .whole n => m == n
  | .whole n, .real x | .real x, .whole n => x.equalsInt n
  | .real x, .real y => x.sameNumber y
  | .plane re im, .whole n | .whole n, .plane re im => im.isZero && re.equalsInt n
  | .plane re im, .real x | .real x, .plane re im => im.isZero && re.sameNumber x
  | .plane re im, .plane re' im' => re.sameNumber re' && im.sameNumber im'

private def sameAtom (a b : Value) : Bool :=
  match quantity? a, quantity? b with
  | some x, some y => x.same y
  | _, _ =>
      match a, b with
      | .null, .null => true
      | .str s, .str t => s == t
      | .torn s, .torn t => s == t
      | .bytes s, .bytes t => s == t
      | .ellipsis, .ellipsis => true
      | _, _ => false

mutual
/-- Equality of meaning. -/
def same : Value → Value → Bool
  | .list xs, .list ys => sameItems xs ys
  | .tuple xs, .tuple ys => sameItems xs ys
  | .set xs, .set ys => xs.length == ys.length && sameMembers xs ys
  | .dict xs, .dict ys => xs.length == ys.length && sameEntries xs ys
  | a, b => sameAtom a b
termination_by structural value => value

def sameItems : List Value → List Value → Bool
  | [], [] => true
  | x :: xs, y :: ys => x.same y && sameItems xs ys
  | _, _ => false
termination_by structural items => items

def sameMembers : List Value → List Value → Bool
  | [], _ => true
  | x :: xs, ys => ys.any (fun y => x.same y) && sameMembers xs ys
termination_by structural members => members

def sameEntries : List (Value × Value) → List (Value × Value) → Bool
  | [], _ => true
  | (key, value) :: rest, others =>
      others.any (fun (key', value') => key.same key' && value.same value')
        && sameEntries rest others
termination_by structural entries => entries
end

mutual
/-- Only values that cannot change may stand in a set or as a key. -/
def isHashable : Value → Bool
  | .list _ | .set _ | .dict _ => false
  | .tuple items => areHashable items
  | _ => true
termination_by structural value => value

def areHashable : List Value → Bool
  | [] => true
  | x :: xs => x.isHashable && areHashable xs
termination_by structural items => items
end

/-- The first of several equal members stays. -/
def insertMember (members : List Value) (new : Value) : List Value :=
  if members.any (·.same new) then members else members ++ [new]

/-- Of equal keys the first stays, with the last value. -/
def insertEntry : List (Value × Value) → Value → Value → List (Value × Value)
  | [], key, value => [(key, value)]
  | (key', value') :: rest, key, value =>
      if key'.same key then (key', value) :: rest
      else (key', value') :: insertEntry rest key value

def ofEntries (entries : List (Value × Value)) : Value :=
  .dict (entries.foldl (fun found (key, value) => insertEntry found key value) [])

def lookup? : List (Value × Value) → Value → Option Value
  | [], _ => none
  | (key', value) :: rest, key => if key'.same key then some value else lookup? rest key

/-- A value that is there; the null value stands for none. -/
def present? : Value → Option Value
  | .null => none
  | value => some value

def ofMembers (members : List Value) : Value := .set (members.foldl insertMember [])

def field? (entries : List (Value × Value)) (name : String) : Option Value :=
  lookup? entries (.str name.toList)

/-- Empty containers, empty texts, zeros and the null value do not hold. -/
def holds : Value → Bool
  | .null => false
  | .bool flag => flag
  | .int n => n != 0
  | .float x => !x.isZero
  | .complex re im => !(re.isZero && im.isZero)
  | .str text => !text.isEmpty
  | .bytes content => !content.isEmpty
  | .torn _ | .ellipsis => true
  | .list items | .tuple items => !items.isEmpty
  | .set members => !members.isEmpty
  | .dict entries => !entries.isEmpty

def isDict : Value → Bool
  | .dict _ => true
  | _ => false

theorem isDict_iff {value : Value} : value.isDict = true ↔ ∃ entries, value = .dict entries := by
  cases value <;> simp [isDict]

theorem isDict_ofPoints (points : List CodePoint) : (ofPoints points).isDict = false := by
  unfold ofPoints CodePoint.either
  split <;> rfl

@[simp] theorem same_str (s t : Text) : (Value.str s).same (.str t) = (s == t) := by
  simp [same, sameAtom, quantity?]

/-- No other value means the same as a text. -/
theorem same_str_iff {value : Value} {text : Text} :
    value.same (.str text) = true ↔ value = .str text := by
  cases value with
  | str other => simp
  | _ => simp [same, sameAtom, quantity?]

/-- No other value means the same as torn code points. -/
theorem same_torn_iff {value : Value} {content : Torn} :
    value.same (.torn content) = true ↔ value = .torn content := by
  cases value with
  | torn other => simp [same, sameAtom, quantity?]
  | _ => simp [same, sameAtom, quantity?]

theorem same_ofPoints_iff {value : Value} {points : List CodePoint} :
    value.same (ofPoints points) = true ↔ value = ofPoints points := by
  cases read : CodePoint.toText? points with
  | some text =>
      rw [ofPoints, CodePoint.either_of_text read]
      exact same_str_iff
  | none =>
      rw [ofPoints, CodePoint.either_of_torn read]
      exact same_torn_iff

theorem ofPoints_inj {points others : List CodePoint} :
    ofPoints points = ofPoints others ↔ points = others := by
  refine ⟨fun same => ?_, fun same => congrArg ofPoints same⟩
  cases read : CodePoint.toText? points with
  | some text =>
      obtain rfl := CodePoint.eq_map_char_of_toText? read
      cases readOther : CodePoint.toText? others with
      | some other =>
          obtain rfl := CodePoint.eq_map_char_of_toText? readOther
          rw [ofPoints_map_char, ofPoints_map_char] at same
          rw [str.inj same]
      | none =>
          rw [ofPoints_map_char, ofPoints, CodePoint.either_of_torn readOther] at same
          cases same
  | none =>
      cases readOther : CodePoint.toText? others with
      | some other =>
          rw [ofPoints, ofPoints, CodePoint.either_of_torn read,
            CodePoint.either_of_text readOther] at same
          cases same
      | none =>
          rw [ofPoints, ofPoints, CodePoint.either_of_torn read,
            CodePoint.either_of_torn readOther] at same
          exact congrArg Torn.points (torn.inj same)

@[simp] theorem same_bool (flag other : Bool) :
    (Value.bool flag).same (.bool other) = (flag == other) := by
  cases flag <;> cases other <;> rfl

theorem sameEntries_iff {entries others : List (Value × Value)} :
    sameEntries entries others = true ↔ ∀ entry ∈ entries, ∃ other ∈ others,
      entry.1.same other.1 = true ∧ entry.2.same other.2 = true := by
  induction entries with
  | nil => simp [sameEntries]
  | cons entry rest ih =>
      obtain ⟨key, value⟩ := entry
      simp [sameEntries, ih]

theorem same_dict_iff {entries others : List (Value × Value)} :
    (Value.dict entries).same (.dict others) = true ↔ entries.length = others.length ∧
      ∀ entry ∈ entries, ∃ other ∈ others,
        entry.1.same other.1 = true ∧ entry.2.same other.2 = true := by
  simp [same, sameEntries_iff]

theorem present?_eq_none {value : Value} : value.present? = none ↔ value = .null := by
  cases value <;> simp [present?]

theorem isSome_present? {value : Value} : value.present?.isSome ↔ value ≠ .null := by
  rw [Option.isSome_iff_ne_none, ne_eq, present?_eq_none]

theorem eq_of_present? {value kept : Value} (present : value.present? = some kept) :
    value = kept := by
  cases value <;> simp_all [present?]

theorem lookup?_append (entries others : List (Value × Value)) (key : Value) :
    lookup? (entries ++ others) key = (lookup? entries key).or (lookup? others key) := by
  induction entries with
  | nil => rfl
  | cons entry rest ih =>
      simp only [List.cons_append, lookup?, ih]
      split <;> rfl

theorem lookup?_insertEntry_ofPoints (entries : List (Value × Value)) (key : List CodePoint)
    (value : Value) (other : List CodePoint) :
    lookup? (insertEntry entries (.ofPoints key) value) (.ofPoints other) =
      if key = other then some value else lookup? entries (.ofPoints other) := by
  induction entries with
  | nil => simp [insertEntry, lookup?, same_ofPoints_iff, ofPoints_inj]
  | cons entry rest ih =>
      obtain ⟨first, stored⟩ := entry
      by_cases found : first = ofPoints key
      · subst found
        simp only [insertEntry, same_ofPoints_iff, if_true, lookup?, ofPoints_inj]
        split <;> rfl
      · simp only [insertEntry, same_ofPoints_iff, found, lookup?, ih, if_false]
        by_cases same : key = other
        · subst same
          simp [same_ofPoints_iff, found]
        · simp [same]

end Value

end CommentSchema
