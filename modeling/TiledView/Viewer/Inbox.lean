import TiledView.Callback.Basic

/-!
# The inbox of a viewer

Callbacks are never handled where they arrive.  They wait in an `Inbox` of bounded length until the
viewer gets to them.  When it is full a callback is dropped and the inbox remembers that it
overflowed; the viewer then takes nothing in its cache to be up to date.
-/

namespace TiledView

structure Inbox where
  /-- How many callbacks may wait at a time. -/
  capacity : Nat
  /-- Waiting callbacks, oldest first. -/
  callbacks : List Callback
  /-- Whether a callback was dropped since the inbox was last emptied. -/
  overflowed : Bool
  deriving DecidableEq, Repr

namespace Inbox

def ofCapacity (capacity : Nat) : Inbox := ⟨capacity, [], false⟩

/-- Puts a callback in, and tells whether there was room for it. -/
def put (i : Inbox) (callback : Callback) : Bool × Inbox :=
  if i.callbacks.length < i.capacity then
    (true, { i with callbacks := i.callbacks ++ [callback] })
  else
    (false, { i with overflowed := true })

/-- The inbox after everything was taken out of it. -/
def emptied (i : Inbox) : Inbox := ofCapacity i.capacity

end Inbox

end TiledView
