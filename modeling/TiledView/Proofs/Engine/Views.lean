import Mathlib.Data.List.Nodup
import TiledView.Document.Session
import TiledView.Simulation.RecordingEngine

/-!
# Engines that keep views

What sessions rely on when several of them share an engine.

* `ViewKeeping ε` — which views an engine has, and which ids it has given out.  A new view gets an
  id that was never given out before, and closing takes away one view and no other.  The selected view
  need not be one that exists: an engine may go on selecting a view that it has closed.
* `TaskQueue.Live` — a queue that does not end and has no other work.  It answers every call at once
  (`TaskQueue.await_of_live`), so attaching, detaching and reloading come to calls of the engine
  (`Session.attach_of_live`, `Session.detach_of_live`, `Session.reload_of_live`).
* `Simulation.RecordingEngine.viewKeeping` — the recording engine keeps its views like that.
-/

namespace TiledView

/-- How an engine keeps its views. -/
structure ViewKeeping (ε : Type) [Engine ε] where
  /-- The views that exist. -/
  views : ε → List ViewId
  /-- The ids that were given out so far, for a new view or for the selected one. -/
  issued : ε → ViewId → Prop
  /-- States in which the books of the engine are in order. -/
  Sound : ε → Prop
  issued_of_mem {e : ε} {view : ViewId} : Sound e → view ∈ views e → issued e view
  issued_of_selected {e : ε} {view : ViewId} :
    Sound e → Engine.selectedView e = some view → issued e view
  viewCount_eq {e : ε} : Sound e → Engine.viewCount e = (views e).length
  sound_open {e : ε} : Sound e → Sound (Engine.openView e).2
  fresh {e : ε} : Sound e → ¬issued e (Engine.openView e).1
  mem_open {e : ε} {view : ViewId} : Sound e →
    (view ∈ views (Engine.openView e).2 ↔ view ∈ views e ∨ view = (Engine.openView e).1)
  issued_open {e : ε} {view : ViewId} : Sound e →
    (issued (Engine.openView e).2 view ↔ issued e view ∨ view = (Engine.openView e).1)
  sound_select {e : ε} {view : ViewId} : Sound e → issued e view →
    Sound (Engine.selectView view e)
  views_select {e : ε} {view : ViewId} : views (Engine.selectView view e) = views e
  issued_select {e : ε} {view : ViewId} : issued (Engine.selectView view e) = issued e
  sound_close {e : ε} {view : ViewId} : Sound e → issued e view → Sound (Engine.closeView view e)
  mem_close {e : ε} {view other : ViewId} : Sound e →
    (other ∈ views (Engine.closeView view e) ↔ other ∈ views e ∧ other ≠ view)
  issued_close {e : ε} {view : ViewId} : issued (Engine.closeView view e) = issued e

/-! ## Live queues -/

namespace TaskQueue

variable {ε ρ α : Type} {q : TaskQueue ε ρ}

/-- A queue that does not end and has no other work. -/
structure Live (q : TaskQueue ε ρ) : Prop where
  lasting : q.remaining? = none
  idle : q.waiting = []

lemma live_start (engine : ε) : (start engine : TaskQueue ε ρ).Live := ⟨rfl, rfl⟩

lemma Live.with_engine (h : q.Live) (engine : ε) : Live { q with engine } := ⟨h.lasting, h.idle⟩

/-- A live queue answers at once. -/
lemma await_of_live [Engine ε] (h : q.Live) (body : ε → α × ε) :
    q.await body = (.ok (body q.engine).1, { q with engine := (body q.engine).2 }) := by
  obtain ⟨engine, waiting, replies, remaining?⟩ := q
  obtain ⟨rfl, rfl⟩ := h
  rfl

end TaskQueue

/-! ## Sessions on a live queue -/

namespace Session

variable {ε ρ : Type} [Engine ε] {s : Session} {q : TaskQueue ε ρ}

/-- The view that a session obtains, and the engine that has it. -/
def obtained (choice : ViewChoice) (engine : ε) : ViewId × ε :=
  match choice with
  | .new => Engine.openView engine
  | .selected =>
    match Engine.selectedView engine with
    | some view => (view, engine)
    | none => Engine.openView engine

lemma obtainView_of_live (live : q.Live) (choice : ViewChoice) :
    obtainView choice q =
      (.ok (obtained choice q.engine).1, { q with engine := (obtained choice q.engine).2 }) := by
  cases choice with
  | new => exact TaskQueue.await_of_live live _
  | selected =>
      rw [obtainView, TaskQueue.selectedView, TaskQueue.ask, TaskQueue.await_of_live live]
      cases selected : Engine.selectedView q.engine with
      | none =>
          simp only [obtained, selected]
          exact TaskQueue.await_of_live live _
      | some view => simp only [obtained, selected]

/-- Reloading selects the view and changes nothing else. -/
lemma reload_of_live (live : q.Live) {view : ViewId} (attached : s.view? = some view) :
    ((s.reload q).1 = .ok () ∧ (s.reload q).2.1.view? = some view) ∧
      (s.reload q).2.2 = { q with engine := Engine.selectView view q.engine } := by
  rw [reload, attached]
  dsimp only [TaskQueue.awaitIn]
  rw [TaskQueue.await_of_live live]
  exact ⟨⟨rfl, rfl⟩, rfl⟩

/-- A session without a view takes one and selects it. -/
lemma attach_of_live (live : q.Live) (detached : s.view? = none) (choice : ViewChoice) :
    (s.attach choice q).2.1.view? = some (obtained choice q.engine).1 ∧
      (s.attach choice q).2.2 = { q with
        engine :=
          Engine.selectView (obtained choice q.engine).1 (obtained choice q.engine).2 } := by
  rw [attach, detached, obtainView_of_live live]
  obtain ⟨⟨-, view⟩, queue⟩ := reload_of_live (s := { s with view? := _ })
    (live.with_engine (obtained choice q.engine).2) rfl
  exact ⟨view, queue⟩

/-- The view that the engine is told to close when a session is detached. -/
def closing? (s : Session) (engine : ε) : Option ViewId :=
  s.view?.filter fun _ => 0 < Engine.viewCount engine

lemma detach_of_live (live : q.Live) : (s.detach q).2.1.view? = none ∧
    (s.detach q).2.2 = (s.closing? q.engine).elim q fun view =>
      { q with engine := Engine.closeView view q.engine } := by
  rw [detach, closing?]
  cases attached : s.view? with
  | none => exact ⟨attached, rfl⟩
  | some view =>
      dsimp only
      rw [TaskQueue.viewCount, TaskQueue.ask, TaskQueue.await_of_live live, Option.filter_some]
      dsimp only
      by_cases some : 0 < Engine.viewCount q.engine
      · rw [if_pos some, if_pos (decide_eq_true some), TaskQueue.closeView,
          TaskQueue.await_of_live live]
        exact ⟨rfl, rfl⟩
      · rw [if_neg some, if_neg (by simpa using some)]
        exact ⟨rfl, rfl⟩

end Session

/-! ## The recording engine -/

namespace Simulation.RecordingEngine

/-- The views are told apart by ids that were given out, and so was the id of the selected one. -/
structure InOrder (e : RecordingEngine) : Prop where
  nodup : e.views.Nodup
  issued : ∀ view ∈ e.views, view < e.nextView
  selected : ∀ view, e.selected? = some view → view < e.nextView

lemma inOrder_create (kind : DocumentKind) (partCount : Nat) (size : Size .twips)
    (pageText : String) (pattern : Bool) :
    (create kind partCount size pageText pattern).InOrder where
  nodup := List.nodup_nil
  issued := fun _ mem => absurd mem List.not_mem_nil
  selected := fun _ none => absurd none.symm (Option.some_ne_none _)

lemma InOrder.openView {e : RecordingEngine} (h : e.InOrder) : (Engine.openView e).2.InOrder where
  nodup := by
    refine List.nodup_append.2 ⟨h.nodup, List.nodup_singleton _, ?_⟩
    rintro view mem _ (new : _ ∈ [e.nextView]) rfl
    exact absurd (h.issued view mem) (by rw [List.mem_singleton.1 new]; exact Int.lt_irrefl _)
  issued := by
    intro view mem
    rcases List.mem_append.1 mem with old | new
    · exact Int.lt_trans (h.issued view old) (Int.lt_succ _)
    · rw [List.mem_singleton.1 new]
      exact Int.lt_succ _
  selected := by
    rintro view ⟨⟩
    exact Int.lt_succ _

lemma InOrder.closeView {e : RecordingEngine} (h : e.InOrder) (view : ViewId) :
    (Engine.closeView view e).InOrder where
  nodup := h.nodup.erase view
  issued := fun other mem => h.issued other (List.mem_of_mem_erase mem)
  selected := by
    intro other selected
    replace selected : (if e.selected? = some view then (e.views.erase view).head? else
      e.selected?) = some other := selected
    show other < e.nextView
    split_ifs at selected
    · exact h.issued other (List.mem_of_mem_erase (List.mem_of_mem_head? selected))
    · exact h.selected other selected

/-- **The recording engine keeps its views.** -/
def viewKeeping : ViewKeeping RecordingEngine where
  views := RecordingEngine.views
  issued e view := view < e.nextView
  Sound := InOrder
  issued_of_mem h mem := h.issued _ mem
  issued_of_selected h selected := h.selected _ selected
  viewCount_eq _ := rfl
  sound_open h := h.openView
  fresh _ := Int.lt_irrefl _
  mem_open _ := by
    show _ ∈ _ ++ [_] ↔ _
    rw [List.mem_append, List.mem_singleton]
    exact Iff.rfl
  issued_open _ := Int.lt_add_one_iff.trans Int.le_iff_lt_or_eq
  sound_select h issued := ⟨h.nodup, h.issued, by rintro _ ⟨⟩; exact issued⟩
  views_select := rfl
  issued_select := rfl
  sound_close h _ := h.closeView _
  mem_close h := by
    show _ ∈ List.erase _ _ ↔ _
    rw [h.nodup.mem_erase_iff]
    exact and_comm
  issued_close := rfl

end Simulation.RecordingEngine

end TiledView
