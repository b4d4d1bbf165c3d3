/-!
# Command statuses

Document engines report the status of a command as `command=value`, for instance that undoing
is enabled.
-/

namespace TiledView

structure CommandStatus where
  command : String
  value : String
  deriving DecidableEq, Repr

namespace CommandStatus

/-- Splits a payload at the first `=`.  Without one it is all command; a payload that is empty or
looks like JSON names no command. -/
def ofText (payload : String) : CommandStatus :=
  match payload.toList with
  | [] | '{' :: _ => ⟨"", ""⟩
  | cs =>
    let command := cs.takeWhile fun c => c != '='
    ⟨.ofList command, .ofList (cs.drop (command.length + 1))⟩

end CommandStatus

end TiledView
