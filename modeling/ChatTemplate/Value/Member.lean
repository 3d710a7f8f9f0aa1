import ChatTemplate.Value.Number
import ChatTemplate.Value.Text

/-!
Members of values. Maps are addressed by the text of a key, lists and texts by an index or by
`length`. Reading what is not there gives null; writing needs a slot that exists or can be made.
-/

set_option autoImplicit false

namespace ChatTemplate.Value

/-- Whether a key names the number of items. -/
def isLength : Value → Bool
  | .string key => key == "length"
  | _ => false

/-- What stands under a key; null if nothing does. Null itself has no members. -/
def member (container key : Value) : Except Cause Value :=
  match container with
  | .null => .error (.propertyOfNull key.keyText)
  | .map entries => .ok ((entries.get? key.keyText).getD .null)
  | .list items =>
      if key.isLength then .ok (ofNat items.length)
      else .ok ((key.toIndex?.bind fun index => items[index]?).getD .null)
  | .string text =>
      if key.isLength then .ok (ofNat text.length)
      else
        let character? := key.toIndex?.bind fun index => text.toList[index]?
        .ok ((character?.map fun c => .string (String.singleton c)).getD .null)
  | .boolean _ | .number _ | .function _ => .ok .null

/-- What stands in an existing slot of a map or list. -/
def slot (container key : Value) : Except Cause Value :=
  match container with
  | .map entries =>
      match entries.get? key.keyText with
      | some found => .ok found
      | none => .error (.propertyOfNull key.keyText)
  | .list items =>
      match key.toIndex?.bind fun index => items[index]? with
      | some found => .ok found
      | none => .error (.propertyOfNull key.keyText)
  | .null => .error (.propertyOfNull key.keyText)
  | other =>
      .error (.typeMismatch ("cannot read property '" ++ key.keyText ++ "' of " ++
        other.typeName ++ " for assignment"))

/-- The list with an item at an index; behind the end the gap is filled with null. -/
def setItem (items : List Value) (index : Nat) (value : Value) : List Value :=
  if index < items.length then items.set index value
  else items ++ List.replicate (index - items.length) .null ++ [value]

/-- Writes a member, which need not exist before. -/
def setMember (container key value : Value) : Except Cause Value :=
  match container with
  | .map entries => .ok (.map (entries.insert key.keyText value))
  | .list items =>
      match key.toIndex? with
      | some index => .ok (.list (setItem items index value))
      | none => .error (.typeMismatch ("invalid list index '" ++ key.keyText ++ "'"))
  | .null => .error (.propertyOfNull key.keyText)
  | other =>
      .error (.typeMismatch ("cannot set property '" ++ key.keyText ++ "' on " ++ other.typeName))

/-- Changes what stands in an existing slot of a map or list by a function that may fail. -/
def updateMember (container key : Value) (change : Value → Except Cause Value) :
    Except Cause Value := do
  let old ← slot container key
  let new ← change old
  setMember container key new

/-- Whether a list or map has a member under a key. -/
def hasMember (container key : Value) : Except Cause Bool :=
  match container with
  | .map entries => .ok (entries.has key.keyText)
  | .list items => .ok (key.isLength || (key.toIndex?.any fun index => index < items.length))
  | other =>
      .error (.typeMismatch ("cannot use 'in' to search for '" ++ key.keyText ++ "' in " ++
        other.typeName))

def memberAt (container : Value) : List Value → Except Cause Value
  | [] => .ok container
  | key :: path => do
      let inner ← member container key
      memberAt inner path

/-- The slot that a path of keys leads to; every slot on the way has to exist. -/
def slotAt (container : Value) : List Value → Except Cause Value
  | [] => .ok container
  | key :: path => do
      let inner ← slot container key
      slotAt inner path

/-- Writes at the end of a path of keys. Every slot on the way to the last key has to exist, and a
failed write changes nothing. -/
def setMemberAt (container : Value) (path : List Value) (value : Value) : Except Cause Value :=
  match path with
  | [] => .ok value
  | [key] => setMember container key value
  | key :: rest => updateMember container key fun inner => setMemberAt inner rest value

end ChatTemplate.Value
