import TiledView.Json.Value

/-!
# Command outcomes

A `CommandOutcome` is the JSON report about a command that has been carried out.  Fields that are
not known are skipped, whatever they hold, so the report is read off the shape of the text
(`Json.Tree`) and only the known fields are read as values.  A report may also be an array of its
fields in order.
-/

namespace TiledView

structure CommandOutcome where
  commandName : String
  success : Bool
  result? : Option Json.Value
  deriving Repr

inductive CommandOutcomeError where
  | malformed
  deriving DecidableEq, Repr

namespace CommandOutcome

/-- Nesting allowed inside of a report, which is a container itself. -/
def maxDepth : Nat := Json.maxDepth - 1

def commandName? : Json.Tree → Option String
  | .string (some text) => some text
  | _ => none

def success? : Json.Tree → Option Bool
  | .bool b => some b
  | _ => none

/-- Reads the result, which may be null; fails where it is not a value. -/
def readResult? : Json.Tree → Option (Option Json.Value)
  | .null => some none
  | tree => (tree.value? maxDepth).map some

/-- The tree of a field, if it occurs at most once. -/
def field? (fields : List (Option String × Json.Tree)) (key : String) :
    Option (Option Json.Tree) :=
  match fields.filter fun field => field.1 == some key with
  | [] => some none
  | [(_, tree)] => some (some tree)
  | _ :: _ :: _ => none

def ofFields? (fields : List (Option String × Json.Tree)) : Option CommandOutcome := do
  if fields.any fun field => field.1.isNone then none
  let commandName ← (← field? fields "commandName").bind commandName?
  let success ← (← field? fields "success").bind success?
  let result? ← match ← field? fields "result" with
    | none => some none
    | some tree => readResult? tree
  return { commandName, success, result? }

def ofItems? : List Json.Tree → Option CommandOutcome
  | [name, success] => do
    return { commandName := ← commandName? name, success := ← success? success, result? := none }
  | [name, success, result] => do
    return {
      commandName := ← commandName? name
      success := ← success? success
      result? := ← readResult? result }
  | _ => none

def ofTree? : Json.Tree → Option CommandOutcome
  | .object fields => ofFields? fields
  | .array items => ofItems? items
  | _ => none

def ofText (payload : String) : Except CommandOutcomeError CommandOutcome :=
  match (Json.Tree.read? payload).bind ofTree? with
  | some result => .ok result
  | none => .error .malformed

end CommandOutcome

end TiledView
