import CommentSchema.Binary64.Shortest
import CommentSchema.Text.Quoted
import CommentSchema.Value

/-! Values written as literals. -/

namespace CommentSchema.Literal

private def comma : Text := [',', ' ']

private def writeComplex (re im : Binary64) : Text :=
  let imaginary := im.toBareText ++ ['j']
  if re.isZero && !re.isNegative then imaginary
  else
    let sign := if im.isNegative && !im.isNaN then [] else ['+']
    '(' :: re.toBareText ++ sign ++ imaginary ++ [')']

mutual
def write (value : Value) : Text :=
  match value with
  | .null => "None".toList
  | .bool true => "True".toList
  | .bool false => "False".toList
  | .int n => Text.ofInt n
  | .float x => x.toText
  | .complex re im => writeComplex re im
  | .str text => text.quote
  | .torn content => Text.quotePoints content.points
  | .bytes content => Text.quoteBytes content
  | .ellipsis => "Ellipsis".toList
  | .list items => '[' :: Text.join comma (writeEach items) ++ [']']
  | .tuple items =>
      match items with
      | [single] => '(' :: write single ++ [',', ')']
      | items => '(' :: Text.join comma (writeEach items) ++ [')']
  | .set members =>
      if members.isEmpty then "set()".toList
      else '\x7b' :: Text.join comma (writeEach members) ++ ['\x7d']
  | .dict entries => '\x7b' :: Text.join comma (writeEntries entries) ++ ['\x7d']
termination_by structural value

def writeEach (items : List Value) : List Text :=
  match items with
  | [] => []
  | item :: rest => write item :: writeEach rest
termination_by structural items

def writeEntries (entries : List (Value × Value)) : List Text :=
  match entries with
  | [] => []
  | (key, value) :: rest => (write key ++ ':' :: ' ' :: write value) :: writeEntries rest
termination_by structural entries
end

theorem writeEach_eq_map (items : List Value) : writeEach items = items.map write := by
  induction items with
  | nil => rfl
  | cons first rest ih => exact congrArg (write first :: ·) ih

theorem write_list (items : List Value) :
    write (.list items) = '[' :: Text.join [',', ' '] (items.map write) ++ [']'] := by
  rw [← writeEach_eq_map]
  rfl

/-- A tuple of one item is told by the comma behind it. -/
theorem write_tuple (items : List Value) :
    write (.tuple items) = '(' :: (Text.join [',', ' '] (items.map write)
      ++ if items.length = 1 then [','] else []) ++ [')'] := by
  rw [← writeEach_eq_map]
  cases items with
  | nil => rfl
  | cons first rest =>
      cases rest with
      | nil => exact congrArg ('(' :: ·) (List.append_assoc (write first) [','] [')']).symm
      | cons second rest =>
          rw [if_neg (by simp), List.append_nil]
          rfl

def writeEntry (entry : Value × Value) : Text := write entry.1 ++ ':' :: ' ' :: write entry.2

theorem writeEntries_eq_map (entries : List (Value × Value)) :
    writeEntries entries = entries.map writeEntry := by
  induction entries with
  | nil => rfl
  | cons first rest ih => exact congrArg (writeEntry first :: ·) ih

theorem write_dict (entries : List (Value × Value)) :
    write (.dict entries) =
      '\x7b' :: Text.join [',', ' '] (entries.map writeEntry) ++ ['\x7d'] := by
  rw [← writeEntries_eq_map]
  rfl

/-- A text as it is, and any other value as a literal; what is torn is no text. -/
def display (value : Value) : Text :=
  match value with
  | .str text => text
  | value => write value

end CommentSchema.Literal
