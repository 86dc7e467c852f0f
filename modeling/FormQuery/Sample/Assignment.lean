import FormQuery.Sample.Column
import FormQuery.StringFunction

/-! Evaluating the new value of an UPDATE for a fetched submission, and the change it makes to the document. -/

namespace FormQuery

namespace ValueExpr

/-- The answer to a field as text, or the cell of a system column as it is. A document that holds nothing has no
answers. -/
def fieldValue (submission : Submission) (layout : Layout) (ref : ColumnRef) : Except Fault Value := do
  if ref.pseudo then return (Fields.get? submission (← layout.physical ref.name)).getD .null
  else
    match (Fields.get? submission layout.documentColumn).getD .null with
    | .record document =>
      match ← ((Fields.get? document ref.name).getD .null).documentText with
      | some text => return .text text
      | none => return .null
    | other => if other.holds then throw (.noMember other.kind "get") else return .null

mutual
def evaluate (submission : Submission) (layout : Layout) : ValueExpr → Except Fault Value
  | literal typed => .ok typed.value
  | field ref => fieldValue submission layout ref
  | call name arguments _ =>
    match StringFunction.find? name with
    | some function => do function.apply (← evaluateAll submission layout arguments)
    | none => .error (.unknownFunction name)
  | foreign kind => .error (.notExpression kind)

def evaluateAll (submission : Submission) (layout : Layout) : List ValueExpr → Except Fault (List Value)
  | [] => .ok []
  | argument :: rest => do
    return (← evaluate submission layout argument) :: (← evaluateAll submission layout rest)
end

end ValueExpr

namespace Update

/-- The new text of the target field, or null. A literal is stored as typed. -/
def newValue (update : Update) (submission : Submission) (layout : Layout) : Except Fault Value := do
  match update.value with
  | .literal literal => return .text literal.text
  | expr =>
    match ← expr.evaluate submission layout with
    | .null => return .null
    | value => return .text value.display

def patch (update : Update) (submission : Submission) (layout : Layout) : Except Fault Fields := do
  return [(update.target.name, ← update.newValue submission layout)]

end Update

end FormQuery
