import TiledView.Callback.CommandStatus

/-!
# The statuses of commands

A `CommandTable` keeps the latest status that was reported for each command.
-/

namespace TiledView

/-- The latest value of every command, each command once. -/
structure CommandTable where
  entries : List (String × String)
  deriving DecidableEq, Repr

namespace CommandTable

def empty : CommandTable := ⟨[]⟩

def size (t : CommandTable) : Nat := t.entries.length

def isEmpty (t : CommandTable) : Bool := t.entries.isEmpty

def get? (t : CommandTable) (command : String) : Option String := t.entries.lookup command

def insert (t : CommandTable) (command value : String) : CommandTable :=
  ⟨(t.entries.filter fun entry => entry.1 != command) ++ [(command, value)]⟩

/-- Records a report, and tells whether it named a command to record it for. -/
def record (t : CommandTable) (payload : String) : Bool × CommandTable :=
  let status := CommandStatus.ofText payload
  if status.command.isEmpty then (false, t) else (true, t.insert status.command status.value)

/-- The value of a command that can be used. -/
def enabledValue : String := "enabled"

def isEnabled (t : CommandTable) (command : String) : Bool := t.get? command == some enabledValue

def canCopy (t : CommandTable) : Bool := t.isEnabled ".uno:Copy"

def canUndo (t : CommandTable) : Bool := t.isEnabled ".uno:Undo"

def canRedo (t : CommandTable) : Bool := t.isEnabled ".uno:Redo"

end CommandTable

end TiledView
