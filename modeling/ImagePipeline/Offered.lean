import ImagePipeline.Issue
import ImagePipeline.Text.Number

namespace ImagePipeline

namespace Offered

def text : Json → Except (List Issue) String
  | .text value => .ok value
  | _ => .error [⟨.notText, []⟩]

def optional : Json → Except (List Issue) (Option String)
  | .null => .ok none
  | value => (text value).map some

def wholeFloat (x : Float) : Except Complaint Int :=
  match Decimal.Binary.ofFloat x with
  | .finite number =>
    if x != x.floor then .error .fractionalInteger
    else if x.abs < 9223372036854775808 then .ok number.truncate
    else .error .oversizedInteger
  | _ => .error .infiniteNumber

def whole {α : Type} : Except Complaint α → Except (List Issue) α
  | .ok value => .ok value
  | .error complaint => .error [⟨complaint, []⟩]

def maxDigits : Nat := 4300

def integerOf (text : String) : Except Complaint Int :=
  if maxDigits < text.utf8ByteSize then .error .oversizedInteger
  else
    match Text.integer? text with
    | some n => .ok n
    | none => .error .unreadableInteger

/-- An integer: as such, as a number without fraction, as a truth value, or written as text. -/
def integer : Json → Except (List Issue) Int
  | .number (.integer n) => .ok n
  | .number numeral => whole (wholeFloat numeral.toFloat)
  | .bool value => .ok (if value then 1 else 0)
  | .text value => whole (integerOf value)
  | _ => .error [⟨.notAnInteger, []⟩]

def number : Json → Except (List Issue) Float
  | .number numeral => .ok numeral.toFloat
  | .bool value => .ok (if value then 1 else 0)
  | .text value =>
    match Text.float? value with
    | some x => .ok x
    | none => .error [⟨.unreadableNumber, []⟩]
  | _ => .error [⟨.notANumber, []⟩]

def flag : Json → Except (List Issue) Bool
  | .bool value => .ok value
  | .number numeral =>
    match wholeFloat numeral.toFloat with
    | .ok 0 => .ok false
    | .ok 1 => .ok true
    | .ok _ => .error [⟨.unreadableBoolean, []⟩]
    | .error _ => .error [⟨.notABoolean, []⟩]
  | .text value =>
    match Text.boolean? value with
    | some b => .ok b
    | none => .error [⟨.unreadableBoolean, []⟩]
  | _ => .error [⟨.notABoolean, []⟩]

def texts : Json → Except (List Issue) (List String)
  | .array items =>
    let issues := items.zipIdx.filterMap fun (item, i) =>
      match item with
      | .text _ => none
      | _ => some ⟨.notText, [.item i]⟩
    if issues.isEmpty then .ok (items.filterMap (·.text?)) else .error issues
  | _ => .error [⟨.notAList, []⟩]

end Offered

end ImagePipeline
