import TiledView.Proofs.Callback.KeyTable
import TiledView.Proofs.Callback.Registrations

/-!
# Dispatching out of a key table

A `KeyedDispatcher` keeps its handlers in a key table, and beside it the keys in the order of their
registration.  It looks a handler up by its key, so the two have to stay in step: a key that is left
over in the order, or one that leads to a later registration, would drop a handler or run it twice.

* `KeyedDispatcher.Client.Matches` — the table, the order and the keys a client has got belong
  together, and to the registrations of a `Dispatcher`.
* `KeyedDispatcher.run_inForce` — both kinds of dispatchers run exactly the registrations in force.
-/

namespace TiledView

/-- What a key table holds for a registration. -/
structure Service (η : Type) where
  code : Int
  handler : η

def Registration.service {η : Type} (r : Registration η) : Service η := ⟨r.code, r.handler⟩

/-- A dispatcher that keeps its handlers in a key table. -/
structure KeyedDispatcher (τ κ : Type) where
  table : τ
  /-- The keys of the registrations in force, oldest first. -/
  order : List κ

namespace KeyedDispatcher

variable {τ κ η σ : Type} [KeyTable τ κ (Service η)]

def empty : KeyedDispatcher τ κ := ⟨KeyTable.empty, []⟩

def register (d : KeyedDispatcher τ κ) (code : Int) (handler : η) : κ × KeyedDispatcher τ κ :=
  let (key, table) := KeyTable.insert d.table ⟨code, handler⟩
  (key, ⟨table, d.order ++ [key]⟩)

/-- Takes a registration back, and tells whether it was still in force. -/
def remove [DecidableEq κ] (d : KeyedDispatcher τ κ) (key : κ) : Bool × KeyedDispatcher τ κ :=
  match KeyTable.remove d.table key with
  | (none, table) => (false, { d with table })
  | (some _, table) => (true, ⟨table, d.order.filter (· != key)⟩)

def removeAll (d : KeyedDispatcher τ κ) : KeyedDispatcher τ κ := ⟨KeyTable.clear d.table, []⟩

/-- Whether a code has a handler, in whatever order the table lists them. -/
def serves (d : KeyedDispatcher τ κ) (code : Int) : Bool :=
  (KeyTable.values d.table).any (·.code == code)

/-- Runs what a key leads to, if that is for the code of `callback`, and counts it. -/
def runKey (d : KeyedDispatcher τ κ) (run : η → Callback → Payload → σ → σ) (callback : Callback)
    (payload : Payload) (ran : Nat × σ) (key : κ) : Nat × σ :=
  match KeyTable.get? d.table key with
  | none => ran
  | some service =>
    if service.code = callback.code then
      (ran.1 + 1, run service.handler callback payload ran.2)
    else ran

/-- Runs every handler registered for the code of `callback`, and tells how many ran.  Nothing is
decoded for a code without handlers. -/
def dispatch (d : KeyedDispatcher τ κ) (run : η → Callback → Payload → σ → σ) (callback : Callback)
    (context : σ) : Nat × σ :=
  if d.serves callback.code then
    d.order.foldl (d.runKey run callback callback.decode) (0, context)
  else (0, context)

/-- A dispatcher together with the keys it has told its client, in the order of registration. -/
structure Client (τ κ : Type) where
  dispatcher : KeyedDispatcher τ κ
  keys : List κ

namespace Client

/-- Makes a call.  The client has no key for a registration that was not made yet. -/
def after [DecidableEq κ] (s : Client τ κ) : Dispatcher.Call η → Client τ κ
  | .register code handler =>
    let (key, dispatcher) := s.dispatcher.register code handler
    ⟨dispatcher, s.keys ++ [key]⟩
  | .remove number =>
    match s.keys[number]? with
    | none => s
    | some key => { s with dispatcher := (s.dispatcher.remove key).2 }
  | .removeAll => { s with dispatcher := s.dispatcher.removeAll }

def run [DecidableEq κ] (calls : List (Dispatcher.Call η)) : Client τ κ :=
  calls.foldl after ⟨empty, []⟩

/-- A client's table, order and keys belong together, and to the registrations of a dispatcher. -/
structure Matches (s : Client τ κ) (d : Dispatcher η) : Prop where
  nodup_keys : s.keys.Nodup
  length_keys : s.keys.length = d.nextId
  order_sublist : s.dispatcher.order.Sublist s.keys
  mem_order : ∀ key, key ∈ s.dispatcher.order ↔ (KeyTable.get? s.dispatcher.table key).isSome
  /-- The order leads to the registrations, one after the other. -/
  services : s.dispatcher.order.map (fun key => (some key, KeyTable.get? s.dispatcher.table key)) =
    d.registrations.map fun r => (s.keys[r.id]?, some r.service)

namespace Matches

variable {s : Client τ κ} {d : Dispatcher η}

lemma exists_key (h : s.Matches d) {r : Registration η} (mem : r ∈ d.registrations) :
    ∃ key ∈ s.dispatcher.order, s.keys[r.id]? = some key ∧
      KeyTable.get? s.dispatcher.table key = some r.service := by
  have listed : (s.keys[r.id]?, some r.service) ∈
      d.registrations.map fun r => (s.keys[r.id]?, some r.service) := List.mem_map_of_mem mem
  rw [← h.services] at listed
  obtain ⟨key, in_order, equal⟩ := List.mem_map.1 listed
  obtain ⟨named, found⟩ := Prod.mk.inj equal
  exact ⟨key, in_order, named.symm, found⟩

lemma exists_registration (h : s.Matches d) {key : κ} (mem : key ∈ s.dispatcher.order) :
    ∃ r ∈ d.registrations, s.keys[r.id]? = some key ∧
      KeyTable.get? s.dispatcher.table key = some r.service := by
  have listed : (some key, KeyTable.get? s.dispatcher.table key) ∈
      s.dispatcher.order.map fun key => (some key, KeyTable.get? s.dispatcher.table key) :=
    List.mem_map_of_mem mem
  rw [h.services] at listed
  obtain ⟨r, registered, equal⟩ := List.mem_map.1 listed
  obtain ⟨named, found⟩ := Prod.mk.inj equal
  exact ⟨r, registered, named, found.symm⟩

lemma id_lt_length (h : s.Matches d) {r : Registration η} (mem : r ∈ d.registrations) :
    r.id < s.keys.length := by
  obtain ⟨key, -, named, -⟩ := h.exists_key mem
  exact (List.getElem?_eq_some_iff.1 named).1

/-- Different registrations have different keys. -/
lemma id_eq_iff (h : s.Matches d) {r : Registration η} (mem : r ∈ d.registrations) {number : Nat}
    {key : κ} (named : s.keys[number]? = some key) :
    r.id = number ↔ s.keys[r.id]? = some key := by
  constructor
  · rintro rfl
    exact named
  · intro same
    exact (List.getElem?_inj (h.id_lt_length mem) h.nodup_keys).1 (same.trans named.symm)

/-- The key of a registration that is not in force finds nothing. -/
lemma get?_of_forall_ne (h : s.Matches d) {number : Nat} {key : κ}
    (named : s.keys[number]? = some key) (stale : ∀ r ∈ d.registrations, r.id ≠ number) :
    KeyTable.get? s.dispatcher.table key = none := by
  by_contra live
  obtain ⟨r, mem, same, -⟩ := h.exists_registration
    ((h.mem_order key).2 (Option.isSome_iff_ne_none.2 live))
  exact stale r mem ((h.id_eq_iff mem named).2 same)

lemma forall_ne_of_get? (h : s.Matches d) {number : Nat} {key : κ}
    (named : s.keys[number]? = some key) (missing : KeyTable.get? s.dispatcher.table key = none) :
    ∀ r ∈ d.registrations, r.id ≠ number := by
  intro r mem same
  obtain ⟨other, -, also, found⟩ := h.exists_key mem
  obtain rfl : other = key := Option.some.inj (also.symm.trans ((h.id_eq_iff mem named).1 same))
  rw [missing] at found
  cases found

end Matches

end Client

/-! ## Dispatching -/

/-- Going along keys that lead to registrations runs those that are for the code. -/
lemma foldl_runKey (d : KeyedDispatcher τ κ) (run : η → Callback → Payload → σ → σ)
    (callback : Callback) (payload : Payload) {order : List κ}
    {registrations : List (Registration η)}
    (leads : order.map (KeyTable.get? d.table) = registrations.map (some ·.service))
    (ran : Nat × σ) :
    order.foldl (d.runKey run callback payload) ran =
      (ran.1 + (registrations.filter (·.code == callback.code)).length,
        (registrations.filter (·.code == callback.code)).foldl
          (fun c r => run r.handler callback payload c) ran.2) := by
  induction order generalizing registrations ran with
  | nil =>
    obtain rfl : registrations = [] := List.map_eq_nil_iff.1 leads.symm
    rfl
  | cons key order ih =>
    cases registrations with
    | nil => cases leads
    | cons r registrations =>
      obtain ⟨first, rest⟩ := List.cons.inj leads
      rw [List.foldl_cons, ih rest, runKey, first]
      by_cases served : r.code = callback.code
      · simp [Registration.service, served, Nat.add_comm 1, Nat.add_assoc]
      · simp [Registration.service, served]

namespace Client.Matches

variable [LawfulKeyTable τ κ (Service η)] {s : Client τ κ} {d : Dispatcher η}

lemma start : (⟨empty, []⟩ : Client τ κ).Matches (Dispatcher.empty : Dispatcher η) where
  nodup_keys := .nil
  length_keys := rfl
  order_sublist := .slnil
  mem_order key := by simp [empty, LawfulKeyTable.get?_empty]
  services := rfl

lemma serves_eq (h : s.Matches d) (code : Int) : s.dispatcher.serves code = d.serves code := by
  rw [Bool.eq_iff_iff]
  simp only [serves, Dispatcher.serves, List.any_eq_true, beq_iff_eq]
  constructor
  · rintro ⟨service, held, served⟩
    obtain ⟨key, found⟩ := (LawfulKeyTable.mem_values _ _).1 held
    have in_order : key ∈ s.dispatcher.order :=
      (h.mem_order key).2 (Option.isSome_iff_exists.2 ⟨_, found⟩)
    obtain ⟨r, registered, -, leads⟩ := h.exists_registration in_order
    obtain rfl : service = r.service := Option.some.inj (found.symm.trans leads)
    exact ⟨r, registered, served⟩
  · rintro ⟨r, registered, served⟩
    obtain ⟨key, -, -, found⟩ := h.exists_key registered
    exact ⟨r.service, (LawfulKeyTable.mem_values _ _).2 ⟨key, found⟩, served⟩

lemma dispatch_eq (h : s.Matches d) (run : η → Callback → Payload → σ → σ) (callback : Callback)
    (context : σ) :
    s.dispatcher.dispatch run callback context = d.dispatch run callback context := by
  have leads : s.dispatcher.order.map (KeyTable.get? s.dispatcher.table) =
      d.registrations.map (some ·.service) := by
    simpa [List.map_map, Function.comp_def] using congrArg (List.map Prod.snd) h.services
  rw [dispatch, h.serves_eq]
  split
  · rw [foldl_runKey _ _ _ _ leads, Nat.zero_add]
    rfl
  · next unserved =>
    have none : d.registeredFor callback.code = [] := by
      simpa [Dispatcher.registeredFor, Dispatcher.serves] using unserved
    rw [Dispatcher.dispatch, none]
    rfl

end Client.Matches

/-! ## Calls -/

section Calls

variable [LawfulKeyTable τ κ (Service η)] [DecidableEq κ]

lemma remove_of_live {d : KeyedDispatcher τ κ} {key : κ} {service : Service η}
    (live : KeyTable.get? d.table key = some service) :
    d.remove key = (true, ⟨(KeyTable.remove d.table key).2, d.order.filter (· != key)⟩) := by
  have taken := (LawfulKeyTable.remove_fst d.table key).trans live
  rw [remove]
  split
  · next missing => simp [missing] at taken
  · next found => rw [found]

lemma remove_of_stale {d : KeyedDispatcher τ κ} {key : κ}
    (stale : KeyTable.get? d.table key = none) : d.remove key = (false, d) := by
  have taken := (LawfulKeyTable.remove_fst d.table key).trans stale
  have kept := LawfulKeyTable.remove_snd_of_none d.table key stale
  rw [remove]
  split
  · next table found =>
    rw [found] at kept
    obtain rfl : table = d.table := kept
    rfl
  · next found => simp [found] at taken

namespace Client.Matches

variable {s : Client τ κ} {d : Dispatcher η}

/-- A registration gets a key of its own, and its service stands behind the others. -/
lemma register (h : s.Matches d) (code : Int) (handler : η)
    (new : (KeyTable.insert s.dispatcher.table ⟨code, handler⟩).1 ∉ s.keys) :
    (s.after (.register code handler)).Matches (d.after (.register code handler)) := by
  set key := (KeyTable.insert s.dispatcher.table ⟨code, handler⟩).1
  set table := (KeyTable.insert s.dispatcher.table ⟨code, handler⟩).2
  have found : KeyTable.get? table key = some ⟨code, handler⟩ :=
    LawfulKeyTable.get?_insert_self _ _
  have kept : ∀ other, other ≠ key →
      KeyTable.get? table other = KeyTable.get? s.dispatcher.table other :=
    fun other differs => LawfulKeyTable.get?_insert_of_ne _ _ _ differs
  have differs : ∀ other ∈ s.dispatcher.order, other ≠ key := by
    rintro other mem rfl
    exact new (h.order_sublist.mem mem)
  have nodup : (s.keys ++ [key]).Nodup := by
    rw [← List.concat_eq_append]
    exact h.nodup_keys.concat new
  have older : s.dispatcher.order.map (fun key => (some key, KeyTable.get? table key)) =
      d.registrations.map fun r => ((s.keys ++ [key])[r.id]?, some r.service) :=
    calc
      _ = s.dispatcher.order.map
            (fun key => (some key, KeyTable.get? s.dispatcher.table key)) :=
          List.map_congr_left fun other mem => by rw [kept other (differs other mem)]
      _ = d.registrations.map fun r => (s.keys[r.id]?, some r.service) := h.services
      _ = _ := List.map_congr_left fun r mem => by
          rw [List.getElem?_append_left (h.id_lt_length mem)]
  have newest : (s.keys ++ [key])[d.nextId]? = some key := by
    rw [← h.length_keys, List.getElem?_concat_length]
  change Matches ⟨⟨table, s.dispatcher.order ++ [key]⟩, s.keys ++ [key]⟩
    ⟨d.registrations ++ [⟨d.nextId, code, handler⟩], d.nextId + 1⟩
  refine ⟨nodup, ?_, h.order_sublist.append (.refl [key]), fun other => ?_, ?_⟩
  · rw [List.length_append, h.length_keys, List.length_singleton]
  · rw [List.mem_append, List.mem_singleton]
    by_cases same : other = key
    · simp [same, found]
    · rw [kept other same, h.mem_order]
      exact or_iff_left same
  · rw [List.map_append, older, List.map_append]
    simp only [List.map_cons, List.map_nil, newest, found, Registration.service]

/-- A registration that is in force is taken back by its key and by its number alike. -/
lemma remove_live (h : s.Matches d) {number : Nat} {key : κ} {service : Service η}
    (named : s.keys[number]? = some key)
    (live : KeyTable.get? s.dispatcher.table key = some service) :
    Matches ⟨(s.dispatcher.remove key).2, s.keys⟩ (d.remove number).2 := by
  set table := (KeyTable.remove s.dispatcher.table key).2
  have gone : KeyTable.get? table key = none := LawfulKeyTable.get?_remove_self _ _
  have kept : ∀ other, other ≠ key →
      KeyTable.get? table other = KeyTable.get? s.dispatcher.table other :=
    fun other differs => LawfulKeyTable.get?_remove_of_ne _ _ _ differs
  rw [remove_of_live live]
  change Matches ⟨⟨table, s.dispatcher.order.filter (· != key)⟩, s.keys⟩
    ⟨d.registrations.filter (·.id != number), d.nextId⟩
  refine ⟨h.nodup_keys, h.length_keys, List.filter_sublist.trans h.order_sublist,
    fun other => ?_, ?_⟩
  · rw [List.mem_filter, bne_iff_ne]
    by_cases same : other = key
    · simp [same, gone]
    · rw [kept other same, h.mem_order]
      exact and_iff_left same
  · calc
      _ = (s.dispatcher.order.filter (· != key)).map
            (fun key => (some key, KeyTable.get? s.dispatcher.table key)) :=
          List.map_congr_left fun other mem => by
            rw [kept other (bne_iff_ne.1 (List.mem_filter.1 mem).2)]
      _ = (s.dispatcher.order.map
            fun key => (some key, KeyTable.get? s.dispatcher.table key)).filter
              (·.1 != some key) := by
          rw [List.filter_map]
          congr 2
      _ = (d.registrations.map fun r => (s.keys[r.id]?, some r.service)).filter
              (·.1 != some key) := by rw [h.services]
      _ = _ := by
          rw [List.filter_map]
          refine congrArg _ (List.filter_congr fun r mem => ?_)
          rw [Function.comp_apply, Bool.eq_iff_iff, bne_iff_ne, bne_iff_ne, ne_eq, ne_eq,
            h.id_eq_iff mem named]

/-- Taking a registration back changes nothing if it is not in force. -/
lemma remove (h : s.Matches d) (number : Nat) :
    (s.after (.remove number)).Matches (d.after (.remove number)) := by
  rw [Dispatcher.after, after]
  cases named : s.keys[number]? with
  | none =>
    have stale : ∀ r ∈ d.registrations, r.id ≠ number := by
      rintro r mem rfl
      exact Nat.not_lt.2 (List.getElem?_eq_none_iff.1 named) (h.id_lt_length mem)
    rw [Dispatcher.remove_of_forall_ne stale]
    exact h
  | some key =>
    cases live : KeyTable.get? s.dispatcher.table key with
    | none =>
      have stale := h.forall_ne_of_get? named live
      rw [Dispatcher.remove_of_forall_ne stale]
      simp only [remove_of_stale live]
      exact h
    | some service => exact h.remove_live named live

lemma removeAll (h : s.Matches d) : (s.after .removeAll).Matches (d.after .removeAll) where
  nodup_keys := h.nodup_keys
  length_keys := h.length_keys
  order_sublist := s.keys.nil_sublist
  mem_order key := by
    simp [after, KeyedDispatcher.removeAll, LawfulKeyTable.get?_clear]
  services := rfl

end Client.Matches

end Calls

/-! ## Runs -/

section Runs

variable [DecidableEq κ]

lemma table_remove (d : KeyedDispatcher τ κ) (key : κ) :
    (d.remove key).2.table = (KeyTable.remove d.table key).2 := by
  rw [remove]
  split <;> next found => rw [found]

/-- What a client does to the table is a run of edits, and it gets the keys these give out. -/
lemma Client.exists_trace (calls : List (Dispatcher.Call η)) :
    ∃ edits : List (KeyTable.Edit κ (Service η)),
      (KeyTable.trace edits : τ × List κ) =
        ((run calls : Client τ κ).dispatcher.table, (run calls : Client τ κ).keys) := by
  induction calls using List.reverseRecOn with
  | nil => exact ⟨[], rfl⟩
  | append_singleton earlier last ih =>
    obtain ⟨edits, traced⟩ := ih
    have next (edit : KeyTable.Edit κ (Service η)) :
        (KeyTable.trace (edits ++ [edit]) : τ × List κ) =
          KeyTable.edit ((run earlier : Client τ κ).dispatcher.table,
            (run earlier : Client τ κ).keys) edit := by
      rw [KeyTable.trace, List.foldl_concat, ← KeyTable.trace, traced]
    rw [run, List.foldl_concat, ← run]
    cases last with
    | register code handler => exact ⟨edits ++ [.insert ⟨code, handler⟩], next _⟩
    | remove number =>
      rw [after]
      cases named : (run earlier : Client τ κ).keys[number]? with
      | none => exact ⟨edits, traced⟩
      | some key =>
        refine ⟨edits ++ [.remove key], (next _).trans ?_⟩
        rw [KeyTable.edit, ← table_remove]
    | removeAll => exact ⟨edits ++ [.clear], next _⟩

variable [LawfulKeyTable τ κ (Service η)]

lemma Client.nodup_keys_run (calls : List (Dispatcher.Call η)) :
    (run calls : Client τ κ).keys.Nodup := by
  obtain ⟨edits, traced⟩ := exists_trace (τ := τ) (κ := κ) calls
  have nodup : (KeyTable.trace edits : τ × List κ).2.Nodup := LawfulKeyTable.nodup_keys edits
  rw [traced] at nodup
  exact nodup

/-- Along every run of calls, both kinds of dispatchers hold the same registrations. -/
lemma Client.matches_run (calls : List (Dispatcher.Call η)) :
    (run calls : Client τ κ).Matches (Dispatcher.run calls) := by
  induction calls using List.reverseRecOn with
  | nil => exact .start
  | append_singleton earlier last ih =>
    have distinct := nodup_keys_run (τ := τ) (κ := κ) (earlier ++ [last])
    rw [run, List.foldl_concat, ← run] at distinct ⊢
    rw [Dispatcher.run, List.foldl_concat, ← Dispatcher.run]
    cases last with
    | register code handler =>
      exact ih.register code handler fun old =>
        (List.nodup_append.1 distinct).2.2 _ old _ (List.mem_singleton_self _) rfl
    | remove number => exact ih.remove number
    | removeAll => exact ih.removeAll

/-- Along every run of calls, a dispatcher holds exactly the registrations in force, each once and
in the order in which they were made.  Dispatching runs those for the code of the callback and tells
their number, which is positive exactly when the code is served; taking back what is not in force
fails and changes nothing.  A keyed dispatcher does the same, whatever slots its table uses again:
its order has the keys of the registrations in force, which are the keys its table knows. -/
theorem run_inForce (calls : List (Dispatcher.Call η)) :
    let d := Dispatcher.run calls
    let s : Client τ κ := .run calls
    let inForce := Dispatcher.Call.inForce calls
    (d.registrations = inForce ∧ inForce.Pairwise (·.id < ·.id)) ∧
    (s.keys.Nodup ∧ s.dispatcher.order.Nodup ∧
      (∀ key, key ∈ s.dispatcher.order ↔ (KeyTable.get? s.dispatcher.table key).isSome) ∧
      s.dispatcher.order.map some = inForce.map (s.keys[·.id]?)) ∧
    (∀ (σ : Type) (run : η → Callback → Payload → σ → σ) (callback : Callback) (context : σ),
      let served := inForce.filter (·.code == callback.code)
      let outcome := (served.length,
        served.foldl (fun c r => run r.handler callback callback.decode c) context)
      d.dispatch run callback context = outcome ∧
      s.dispatcher.dispatch run callback context = outcome ∧
      (d.serves callback.code = true ↔ 0 < outcome.1) ∧
      (s.dispatcher.serves callback.code = true ↔ 0 < outcome.1)) ∧
    ∀ number, (∀ r ∈ inForce, r.id ≠ number) →
      d.remove number = (false, d) ∧
      ∀ key, s.keys[number]? = some key → s.dispatcher.remove key = (false, s.dispatcher) := by
  intro d s inForce
  have h : s.Matches d := Client.matches_run calls
  have held : d.registrations = inForce := Dispatcher.registrations_run calls
  refine ⟨⟨held, Dispatcher.Call.pairwise_inForceFrom 0 calls⟩,
    ⟨h.nodup_keys, h.order_sublist.nodup h.nodup_keys, h.mem_order, ?_⟩, ?_, ?_⟩
  · rw [← held]
    simpa [List.map_map, Function.comp_def] using congrArg (List.map Prod.fst) h.services
  · intro σ run callback context served outcome
    have ran : d.dispatch run callback context = outcome := by
      rw [Dispatcher.dispatch, Dispatcher.registeredFor, held]
    have serves : d.serves callback.code = true ↔ 0 < outcome.1 := by
      rw [Dispatcher.serves, held, List.length_pos_iff_exists_mem]
      simp [served]
    exact ⟨ran, (h.dispatch_eq run callback context).trans ran, serves,
      (h.serves_eq callback.code) ▸ serves⟩
  · intro number stale
    rw [← held] at stale
    exact ⟨Dispatcher.remove_of_forall_ne stale,
      fun key named => remove_of_stale (h.get?_of_forall_ne named stale)⟩

end Runs

/-- A third registration goes to the slot of the first, which was taken back.  The first key is
stale then, and it does not reach the third. -/
theorem run_inForce_slotUsedAgain :
    let calls : List (Dispatcher.Call String) :=
      [.register 0 "first", .register 1 "second", .remove 0, .register 0 "third"]
    let s : Client (SlotTable (Service String)) SlotKey := .run calls
    s.keys = [⟨0, 0⟩, ⟨1, 0⟩, ⟨0, 1⟩] ∧ s.dispatcher.order.Nodup ∧
      s.dispatcher.remove ⟨0, 0⟩ = (false, s.dispatcher) ∧
      s.dispatcher.dispatch (fun name _ _ log => log ++ [name]) ⟨0, none⟩ [] = (1, ["third"]) := by
  intro calls s
  obtain ⟨-, ⟨-, nodup, -⟩, dispatched, stale⟩ :=
    run_inForce (τ := SlotTable (Service String)) calls
  have withdrawn : ∀ r ∈ Dispatcher.Call.inForce calls, r.id ≠ 0 := by
    simp [calls, Dispatcher.Call.inForce, Dispatcher.Call.inForceFrom, Dispatcher.Call.withdraws]
  exact ⟨rfl, nodup, (stale 0 withdrawn).2 ⟨0, 0⟩ rfl,
    (dispatched _ (fun name _ _ log => log ++ [name]) ⟨0, none⟩ []).2.1⟩

end KeyedDispatcher

end TiledView
