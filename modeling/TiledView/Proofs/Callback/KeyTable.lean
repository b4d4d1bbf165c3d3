import Mathlib.Data.List.Induction
import Mathlib.Data.List.Nodup
import Mathlib.Tactic.SplitIfs

/-!
# Key tables

A `KeyTable` chooses the keys of its contents itself.  `LawfulKeyTable` says what such a table
promises: what an edit does to the content of each key, and that no key is given out twice, however
often its content is taken out.

`SlotTable` keeps that promise although it uses its slots again.  A key names a slot and the round
of its use; a slot that is vacated begins a new round, so the keys of earlier rounds find nothing.
-/

namespace TiledView

/-- A table that names what it holds by keys of its own choice. -/
class KeyTable (τ : Type) (κ α : outParam Type) where
  empty : τ
  /-- Puts a value in, and tells its key. -/
  insert : τ → α → κ × τ
  /-- Takes out the content of a key, if it has one. -/
  remove : τ → κ → Option α × τ
  /-- Takes everything out. -/
  clear : τ → τ
  get? : τ → κ → Option α
  /-- Everything a table holds, in an order of its own. -/
  values : τ → List α

namespace KeyTable

inductive Edit (κ α : Type) where
  | insert (value : α)
  | remove (key : κ)
  | clear

variable {τ κ α : Type} [KeyTable τ κ α]

/-- Carries out an edit of a table that comes with the keys it has given out, oldest first. -/
def edit (s : τ × List κ) : Edit κ α → τ × List κ
  | .insert value => ((insert s.1 value).2, s.2 ++ [(insert s.1 value).1])
  | .remove key => ((remove s.1 key).2, s.2)
  | .clear => (clear s.1, s.2)

/-- The table after a run of edits of an empty one, with the keys it has given out. -/
def trace (edits : List (Edit κ α)) : τ × List κ := edits.foldl edit (empty, [])

end KeyTable

/-- What a key table promises. -/
class LawfulKeyTable (τ : Type) (κ α : outParam Type) [KeyTable τ κ α] : Prop where
  get?_empty (key : κ) : KeyTable.get? (KeyTable.empty : τ) key = none
  get?_insert_self (t : τ) (value : α) :
    KeyTable.get? (KeyTable.insert t value).2 (KeyTable.insert t value).1 = some value
  get?_insert_of_ne (t : τ) (value : α) (key : κ) (other : key ≠ (KeyTable.insert t value).1) :
    KeyTable.get? (KeyTable.insert t value).2 key = KeyTable.get? t key
  remove_fst (t : τ) (key : κ) : (KeyTable.remove t key).1 = KeyTable.get? t key
  /-- Taking out what is not there changes nothing. -/
  remove_snd_of_none (t : τ) (key : κ) (missing : KeyTable.get? t key = none) :
    (KeyTable.remove t key).2 = t
  get?_remove_self (t : τ) (key : κ) : KeyTable.get? (KeyTable.remove t key).2 key = none
  get?_remove_of_ne (t : τ) (removed key : κ) (other : key ≠ removed) :
    KeyTable.get? (KeyTable.remove t removed).2 key = KeyTable.get? t key
  get?_clear (t : τ) (key : κ) : KeyTable.get? (KeyTable.clear t) key = none
  mem_values (t : τ) (value : α) :
    value ∈ KeyTable.values t ↔ ∃ key, KeyTable.get? t key = some value
  /-- No key is given out twice. -/
  nodup_keys (edits : List (KeyTable.Edit κ α)) : (KeyTable.trace edits : τ × List κ).2.Nodup

/-! ## Slots -/

/-- A place for one value. -/
structure Slot (α : Type) where
  /-- How often the slot has been vacated. -/
  round : Nat
  content? : Option α
  deriving DecidableEq, Repr

namespace Slot

variable {α : Type}

/-- A slot that was never used. -/
def unused : Slot α := ⟨0, none⟩

def isVacant (s : Slot α) : Bool := s.content?.isNone

/-- Takes the content out, if there is one. -/
def vacate (s : Slot α) : Slot α := if s.isVacant then s else ⟨s.round + 1, none⟩

lemma content?_vacate (s : Slot α) : s.vacate.content? = none := by
  rw [vacate]
  split_ifs with vacant
  · exact Option.isNone_iff_eq_none.1 vacant
  · rfl

/-- Whether a round has seen a value: it is the one that sees one now, or an earlier one. -/
def Spent (s : Slot α) (round : Nat) : Prop :=
  round < s.round ∨ round = s.round ∧ s.isVacant = false

lemma Spent.vacate {s : Slot α} {round : Nat} (spent : s.Spent round) : s.vacate.Spent round := by
  rw [Slot.vacate]
  split_ifs with vacant
  · exact spent
  · refine .inl (Nat.lt_succ_of_le ?_)
    rcases spent with earlier | ⟨now, -⟩
    · exact Nat.le_of_lt earlier
    · exact Nat.le_of_eq now

lemma Spent.used {s : Slot α} {round : Nat} (spent : s.Spent round) (value : α) :
    (⟨s.round, some value⟩ : Slot α).Spent round :=
  spent.imp id fun now => ⟨now.1, rfl⟩

end Slot

structure SlotKey where
  index : Nat
  round : Nat
  deriving DecidableEq, Repr

/-- A table of slots that are used again once they are vacant. -/
structure SlotTable (α : Type) where
  slots : List (Slot α)
  deriving DecidableEq, Repr

namespace SlotTable

variable {α : Type}

def slot (t : SlotTable α) (index : Nat) : Slot α := t.slots.getD index .unused

def get? (t : SlotTable α) (key : SlotKey) : Option α :=
  if (t.slot key.index).round = key.round then (t.slot key.index).content? else none

/-- The first slot that is vacant; a new one behind the others if none is. -/
def vacancy (t : SlotTable α) : Nat := t.slots.findIdx Slot.isVacant

/-- Uses the first vacant slot. -/
def insert (t : SlotTable α) (value : α) : SlotKey × SlotTable α :=
  let used : Slot α := ⟨(t.slot t.vacancy).round, some value⟩
  (⟨t.vacancy, used.round⟩,
    ⟨if t.vacancy < t.slots.length then t.slots.set t.vacancy used else t.slots ++ [used]⟩)

def remove (t : SlotTable α) (key : SlotKey) : Option α × SlotTable α :=
  match t.get? key with
  | none => (none, t)
  | some value => (some value, ⟨t.slots.set key.index (t.slot key.index).vacate⟩)

def clear (t : SlotTable α) : SlotTable α := ⟨t.slots.map Slot.vacate⟩

instance : KeyTable (SlotTable α) SlotKey α where
  empty := ⟨[]⟩
  insert := insert
  remove := remove
  clear := clear
  get? := get?
  values t := t.slots.filterMap Slot.content?

/-! ## What edits do to slots -/

lemma isVacant_slot_vacancy (t : SlotTable α) : (t.slot t.vacancy).isVacant = true := by
  rw [slot, List.getD_eq_getElem?_getD]
  by_cases inside : t.vacancy < t.slots.length
  · rw [List.getElem?_eq_getElem inside, Option.getD_some]
    exact List.findIdx_getElem
  · rw [List.getElem?_eq_none (Nat.not_lt.1 inside)]
    rfl

lemma slot_insert (t : SlotTable α) (value : α) (index : Nat) :
    (t.insert value).2.slot index =
      if index = t.vacancy then ⟨(t.slot t.vacancy).round, some value⟩ else t.slot index := by
  have bound : t.vacancy ≤ t.slots.length := List.findIdx_le_length
  simp only [slot, insert, List.getD_eq_getElem?_getD]
  by_cases inside : t.vacancy < t.slots.length
  · rw [if_pos inside, List.getElem?_set]
    by_cases same : t.vacancy = index
    · subst same
      rw [if_pos rfl, if_pos rfl, if_pos inside, Option.getD_some]
    · rw [if_neg same, if_neg (Ne.symm same)]
  · -- All slots are in use, so the new one stands behind them.
    have last : t.vacancy = t.slots.length := Nat.le_antisymm bound (Nat.not_lt.1 inside)
    rw [if_neg inside]
    grind

lemma slot_remove {t : SlotTable α} {key : SlotKey} {value : α} (found : t.get? key = some value)
    (index : Nat) :
    (t.remove key).2.slot index =
      if index = key.index then (t.slot key.index).vacate else t.slot index := by
  have used : key.index < t.slots.length := by
    by_contra outside
    simp [get?, slot, List.getElem?_eq_none (Nat.not_lt.1 outside), Slot.unused] at found
  simp only [slot, remove, found, List.getD_eq_getElem?_getD, List.getElem?_set]
  by_cases same : key.index = index
  · subst same
    rw [if_pos rfl, if_pos rfl, if_pos used, Option.getD_some]
  · rw [if_neg same, if_neg (Ne.symm same)]

lemma slot_clear (t : SlotTable α) (index : Nat) :
    t.clear.slot index = (t.slot index).vacate := by
  simp only [slot, clear, List.getD_eq_getElem?_getD, List.getElem?_map]
  cases t.slots[index]? <;> rfl

/-! ## Keys given out -/

/-- Whether a key was given out at some time. -/
def Issued (t : SlotTable α) (key : SlotKey) : Prop := (t.slot key.index).Spent key.round

lemma not_issued_insert (t : SlotTable α) (value : α) : ¬ t.Issued (t.insert value).1 := by
  simp [Issued, Slot.Spent, insert, isVacant_slot_vacancy t]

lemma issued_insert (t : SlotTable α) (value : α) :
    (t.insert value).2.Issued (t.insert value).1 := by
  have given : (t.insert value).1.index = t.vacancy := rfl
  rw [Issued, slot_insert, if_pos given]
  exact .inr ⟨rfl, rfl⟩

lemma Issued.insert {t : SlotTable α} {key : SlotKey} (issued : t.Issued key) (value : α) :
    (t.insert value).2.Issued key := by
  rw [Issued, slot_insert]
  split_ifs with same
  · rw [Issued, same] at issued
    exact issued.used value
  · exact issued

lemma Issued.remove {t : SlotTable α} {key : SlotKey} (issued : t.Issued key) (removed : SlotKey) :
    (t.remove removed).2.Issued key := by
  cases found : t.get? removed with
  | none =>
    rw [SlotTable.remove, found]
    exact issued
  | some value =>
    rw [Issued, slot_remove found]
    split_ifs with same
    · rw [Issued, same] at issued
      exact issued.vacate
    · exact issued

lemma Issued.clear {t : SlotTable α} {key : SlotKey} (issued : t.Issued key) :
    t.clear.Issued key := by
  rw [Issued, slot_clear]
  exact Slot.Spent.vacate issued

/-- The keys given out along a run of edits are different, and the table knows them all. -/
lemma nodup_trace (edits : List (KeyTable.Edit SlotKey α)) :
    (KeyTable.trace edits : SlotTable α × List SlotKey).2.Nodup ∧
      ∀ key ∈ (KeyTable.trace edits : SlotTable α × List SlotKey).2,
        (KeyTable.trace edits : SlotTable α × List SlotKey).1.Issued key := by
  induction edits using List.reverseRecOn with
  | nil => exact ⟨.nil, fun _ mem => absurd mem List.not_mem_nil⟩
  | append_singleton earlier last ih =>
    rw [KeyTable.trace, List.foldl_concat, ← KeyTable.trace]
    generalize (KeyTable.trace earlier : SlotTable α × List SlotKey) = s at ih
    obtain ⟨nodup, issued⟩ := ih
    cases last with
    | insert value =>
      have new : (s.1.insert value).1 ∉ s.2 := fun old => not_issued_insert _ _ (issued _ old)
      have keys : (KeyTable.edit s (.insert value)).2 = s.2.concat (s.1.insert value).1 :=
        List.concat_eq_append.symm
      refine ⟨keys ▸ nodup.concat new, fun key mem => ?_⟩
      rcases List.mem_append.1 mem with old | given
      · exact (issued key old).insert value
      · obtain rfl := List.mem_singleton.1 given
        exact issued_insert s.1 value
    | remove removed => exact ⟨nodup, fun key mem => (issued key mem).remove removed⟩
    | clear => exact ⟨nodup, fun key mem => (issued key mem).clear⟩

/-! ## The promise -/

lemma get?_of_content?_none {t : SlotTable α} {key : SlotKey}
    (vacant : (t.slot key.index).content? = none) : t.get? key = none := by
  rw [get?, vacant, ite_self]

lemma round_of_get? {t : SlotTable α} {key : SlotKey} {value : α}
    (found : t.get? key = some value) : (t.slot key.index).round = key.round := by
  rw [get?] at found
  split_ifs at found with now
  exact now

lemma get?_insert (t : SlotTable α) (value : α) (key : SlotKey) :
    (t.insert value).2.get? key = if key = (t.insert value).1 then some value else t.get? key := by
  have given : (t.insert value).1 = ⟨t.vacancy, (t.slot t.vacancy).round⟩ := rfl
  obtain ⟨index, round⟩ := key
  by_cases same : index = t.vacancy
  · subst same
    have before : t.get? ⟨t.vacancy, round⟩ = none :=
      get?_of_content?_none (Option.isNone_iff_eq_none.1 (isVacant_slot_vacancy t))
    rw [get?, slot_insert, if_pos rfl, before, given]
    simp only [SlotKey.mk.injEq, true_and, eq_comm]
  · have other : (⟨index, round⟩ : SlotKey) ≠ (t.insert value).1 := by
      rw [given]
      exact fun h => same (SlotKey.mk.inj h).1
    rw [get?, slot_insert, if_neg same, if_neg other, get?]

lemma get?_remove (t : SlotTable α) (removed key : SlotKey) :
    (t.remove removed).2.get? key = if key = removed then none else t.get? key := by
  cases found : t.get? removed with
  | none =>
    rw [remove, found]
    split_ifs with same
    · rw [same, found]
    · rfl
  | some value =>
    by_cases same : key.index = removed.index
    · have after : (t.remove removed).2.get? key = none := by
        refine get?_of_content?_none ?_
        rw [slot_remove found, if_pos same, Slot.content?_vacate]
      rw [after]
      split_ifs with equal
      · rfl
      · -- The slot is in the round of the removed key, so the other key finds nothing in it.
        have round := round_of_get? found
        rw [get?, same, round, if_neg]
        grind [SlotKey]
    · have other : key ≠ removed := fun h => same (congrArg SlotKey.index h)
      rw [if_neg other, get?, get?, slot_remove found, if_neg same]

lemma mem_slots_iff (t : SlotTable α) (value : α) :
    value ∈ t.slots.filterMap Slot.content? ↔ ∃ key, t.get? key = some value := by
  rw [List.mem_filterMap]
  constructor
  · rintro ⟨s, mem, content⟩
    obtain ⟨index, at_index⟩ := List.mem_iff_getElem?.1 mem
    have slot : t.slot index = s := by simp [slot, at_index]
    exact ⟨⟨index, s.round⟩, by rw [get?, slot, if_pos rfl, content]⟩
  · rintro ⟨key, found⟩
    rw [get?] at found
    split_ifs at found
    refine ⟨t.slot key.index, ?_, found⟩
    by_cases used : key.index < t.slots.length
    · simp [slot, List.getElem?_eq_getElem used]
    · simp [slot, List.getElem?_eq_none (Nat.not_lt.1 used), Slot.unused] at found

instance : LawfulKeyTable (SlotTable α) SlotKey α where
  get?_empty _ := get?_of_content?_none rfl
  get?_insert_self t value := (get?_insert t value _).trans (if_pos rfl)
  get?_insert_of_ne t value key other := (get?_insert t value key).trans (if_neg other)
  remove_fst t key := by
    change (t.remove key).1 = t.get? key
    rw [remove]
    split
    · next missing => exact missing.symm
    · next found => exact found.symm
  remove_snd_of_none t key missing := by
    change t.get? key = none at missing
    change (t.remove key).2 = t
    rw [remove, missing]
  get?_remove_self t key := (get?_remove t key key).trans (if_pos rfl)
  get?_remove_of_ne t removed key other := (get?_remove t removed key).trans (if_neg other)
  get?_clear t key := by
    refine get?_of_content?_none ?_
    change (t.clear.slot key.index).content? = none
    rw [slot_clear, Slot.content?_vacate]
  mem_values := mem_slots_iff
  nodup_keys edits := (nodup_trace edits).1

end SlotTable

end TiledView
