import Mathlib.Data.List.Sort
import TiledView.Callback.Dispatcher

/-!
# The registrations in force

What a dispatcher holds is read off the calls that were made: a registration is in force as long as
no later call takes it back.  `Dispatcher.Call.inForce` says so without a dispatcher, and
`Dispatcher.registrations_run` that a dispatcher holds exactly these registrations, in the order in
which they were made.
-/

namespace TiledView.Dispatcher

variable {η : Type}

/-- A call of a dispatcher.  Registrations are numbered as they are made, from zero on. -/
inductive Call (η : Type) where
  | register (code : Int) (handler : η)
  | remove (number : Nat)
  | removeAll
  deriving DecidableEq, Repr

/-- The dispatcher after a call. -/
def after (d : Dispatcher η) : Call η → Dispatcher η
  | .register code handler => (d.register code handler).2
  | .remove number => (d.remove number).2
  | .removeAll => d.removeAll

/-- The dispatcher after a run of calls. -/
def run (calls : List (Call η)) : Dispatcher η := calls.foldl after empty

namespace Call

/-- Whether a call takes back the registration with a number. -/
def withdraws (number : Nat) : Call η → Bool
  | .register _ _ => false
  | .remove other => other == number
  | .removeAll => true

/-- The registrations that are made by `calls` and that no later one of them takes back, oldest
first, where `made` registrations came before. -/
def inForceFrom (made : Nat) : List (Call η) → List (Registration η)
  | [] => []
  | .register code handler :: later =>
    if later.any (withdraws made) then inForceFrom (made + 1) later
    else ⟨made, code, handler⟩ :: inForceFrom (made + 1) later
  | .remove _ :: later => inForceFrom made later
  | .removeAll :: later => inForceFrom made later

/-- The registrations in force after a run of calls, oldest first. -/
def inForce (calls : List (Call η)) : List (Registration η) := inForceFrom 0 calls

lemma le_id_of_mem_inForceFrom {made : Nat} {calls : List (Call η)} {r : Registration η}
    (mem : r ∈ inForceFrom made calls) : made ≤ r.id := by
  induction calls generalizing made with
  | nil => simp [inForceFrom] at mem
  | cons call later ih =>
    cases call with
    | register code handler =>
      simp only [inForceFrom] at mem
      split at mem
      · exact Nat.le_of_succ_le (ih mem)
      · rcases List.mem_cons.1 mem with rfl | mem
        · exact Nat.le_refl _
        · exact Nat.le_of_succ_le (ih mem)
    | remove number => exact ih mem
    | removeAll => exact ih mem

/-- Registrations stand in the order of their numbers, each number once. -/
lemma pairwise_inForceFrom (made : Nat) (calls : List (Call η)) :
    (inForceFrom made calls).Pairwise (·.id < ·.id) := by
  induction calls generalizing made with
  | nil => exact .nil
  | cons call later ih =>
    cases call with
    | register code handler =>
      simp only [inForceFrom]
      split
      · exact ih (made + 1)
      · exact .cons (fun _ mem => le_id_of_mem_inForceFrom mem) (ih (made + 1))
    | remove number => exact ih made
    | removeAll => exact ih made

end Call

/-- What a dispatcher holds already stays until it is taken back; what comes in addition is what is
in force of the calls alone. -/
lemma registrations_foldl_after (calls : List (Call η)) (d : Dispatcher η) :
    (calls.foldl after d).registrations =
      d.registrations.filter (fun r => !calls.any (Call.withdraws r.id)) ++
        Call.inForceFrom d.nextId calls := by
  induction calls generalizing d with
  | nil => simp [Call.inForceFrom]
  | cons call later ih =>
    rw [List.foldl_cons, ih]
    cases call with
    | register code handler =>
      by_cases withdrawn : later.any (Call.withdraws d.nextId) = true <;>
        simp [after, register, Call.inForceFrom, Call.withdraws, withdrawn]
    | remove number =>
      simp only [after, remove, List.filter_filter, Call.inForceFrom, List.any_cons,
        Call.withdraws, Bool.not_or]
      congr 2
      funext r
      rw [Bool.and_comm, bne, Bool.beq_comm]
    | removeAll => simp [after, removeAll, Call.inForceFrom, Call.withdraws]

/-- A dispatcher holds exactly the registrations in force. -/
lemma registrations_run (calls : List (Call η)) :
    (run calls).registrations = Call.inForce calls := by
  rw [run, registrations_foldl_after]
  rfl

/-- Taking back what is not in force changes nothing. -/
lemma remove_of_forall_ne {d : Dispatcher η} {id : RegistrationId}
    (stale : ∀ r ∈ d.registrations, r.id ≠ id) : d.remove id = (false, d) := by
  have none : d.registrations.any (·.id == id) = false := by simpa using stale
  have all : d.registrations.filter (·.id != id) = d.registrations :=
    List.filter_eq_self.2 fun r mem => by simpa using stale r mem
  rw [remove, none, all]

end TiledView.Dispatcher
