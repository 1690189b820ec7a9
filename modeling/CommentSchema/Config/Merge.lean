import CommentSchema.Error
import CommentSchema.Value

/-! Layers of settings.  Where both layers have a dictionary under a key the two are merged;
everywhere else the upper layer counts.  The lowest layer can also be a sequence of pairs. -/

namespace CommentSchema.Config

mutual
def mergeValue (lower : Option Value) (upper : Value) : Value :=
  match upper with
  | .dict entries =>
      match lower with
      | some (.dict base) => .dict (mergeEntries base entries)
      | _ => upper
  | _ => upper
termination_by structural upper

def mergeEntries (base upper : List (Value × Value)) : List (Value × Value) :=
  match upper with
  | [] => base
  | (key, value) :: rest =>
      mergeEntries (Value.insertEntry base key (mergeValue (Value.lookup? base key) value)) rest
termination_by structural upper
end

/-- What a value holds, one after the other; of a dictionary these are the keys. -/
def elements? : Value → Option (List Value)
  | .str text => some (text.map fun c => .str [c])
  | .torn content => some (content.points.map fun point => .ofPoints [point])
  | .bytes content => some (content.map fun byte => .int (Int.ofNat byte.toNat))
  | .list items | .tuple items | .set items => some items
  | .dict entries => some (entries.map (·.1))
  | _ => none

def entryOf (index : Nat) (pair : Value) : Except Error (Value × Value) :=
  match elements? pair with
  | some [key, value] => if key.isHashable then .ok (key, value) else .error .type
  | some other => .error (.value (.pairLength index other.length))
  | none => .error .type

def entriesFrom (index : Nat) : List Value → Except Error (List (Value × Value))
  | [] => .ok []
  | pair :: rest => do
      let entry ← entryOf index pair
      let others ← entriesFrom (index + 1) rest
      .ok (entry :: others)

/-- The entries of a lower layer, or those that its pairs make. -/
def entriesOf (lower : Value) : Except Error (List (Value × Value)) :=
  match lower with
  | .dict entries => .ok entries
  | lower =>
      match elements? lower with
      | some pairs => (entriesFrom 0 pairs).map fun pairs =>
          pairs.foldl (fun found (key, value) => Value.insertEntry found key value) []
      | none => .error .type

def merge (lower upper : Value) : Except Error (List (Value × Value)) := do
  let base ← entriesOf lower
  match upper with
  | .dict entries => .ok (mergeEntries base entries)
  | _ => .error .attribute

end CommentSchema.Config
