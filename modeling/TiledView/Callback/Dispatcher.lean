import TiledView.Callback.Basic

/-!
# Dispatching callbacks

A `Dispatcher` knows which handlers are registered for which callback codes.  Handlers are values of
any type `η`; whoever dispatches a callback says how to run them.  They run in the order of their
registration, and each gets the payload that was decoded once for all of them.
-/

namespace TiledView

/-- Names a registration.  No name is given twice. -/
abbrev RegistrationId := Nat

structure Registration (η : Type) where
  id : RegistrationId
  code : Int
  handler : η

structure Dispatcher (η : Type) where
  /-- The registrations in force, oldest first. -/
  registrations : List (Registration η)
  nextId : RegistrationId

namespace Dispatcher

variable {η κ : Type}

def empty : Dispatcher η := ⟨[], 0⟩

def size (d : Dispatcher η) : Nat := d.registrations.length

def isEmpty (d : Dispatcher η) : Bool := d.registrations.isEmpty

/-- Registers a handler for a code, known or not. -/
def register (d : Dispatcher η) (code : Int) (handler : η) : RegistrationId × Dispatcher η :=
  (d.nextId, ⟨d.registrations ++ [⟨d.nextId, code, handler⟩], d.nextId + 1⟩)

/-- Takes a registration back, and tells whether it was still in force. -/
def remove (d : Dispatcher η) (id : RegistrationId) : Bool × Dispatcher η :=
  (d.registrations.any (·.id == id),
    { d with registrations := d.registrations.filter (·.id != id) })

def removeAll (d : Dispatcher η) : Dispatcher η := { d with registrations := [] }

/-- Whether a code has a handler. -/
def serves (d : Dispatcher η) (code : Int) : Bool := d.registrations.any (·.code == code)

/-- The registrations for a code, oldest first. -/
def registeredFor (d : Dispatcher η) (code : Int) : List (Registration η) :=
  d.registrations.filter (·.code == code)

/-- Runs every handler registered for the code of `callback`, and tells how many ran. -/
def dispatch (d : Dispatcher η) (run : η → Callback → Payload → κ → κ) (callback : Callback)
    (context : κ) : Nat × κ :=
  let served := d.registeredFor callback.code
  let payload := callback.decode
  (served.length, served.foldl (fun c r => run r.handler callback payload c) context)

end Dispatcher

end TiledView
