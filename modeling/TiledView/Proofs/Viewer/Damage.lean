import TiledView.Proofs.Paint.RealDamage
import TiledView.Proofs.Viewer.Regular

/-!
# When a viewer asks for a paint pass

A host paints when `Viewer.needsPaint` tells it to, which looks whether any damage is listed.

* `Viewer.reachable_painter` — the painters of viewers are among those that calls of a painter can
  lead to, so their damage is real.
* `Viewer.needsPaint_iff` — a viewer asks for a pass if there is work for one, and besides on a
  surface that is damaged without having pixels.
* `Painter.Reachable.damage_iff` — what is listed as damage of a painter, and what that is worth.
  A viewer whose surface has no pixels asks for one pass after the other, and none of them ends it.
-/

namespace TiledView

variable {ε σ : Type}

/-! ## The painter of a display -/

namespace Display

variable {d d' : Display}

/-- A property of painters that neither a new placement, nor an action on the caches, nor a request
takes away. -/
structure Persists (P : Painter → Prop) : Prop where
  place : ∀ p placement, P p → P { p with placement }
  cache : ∀ (p : Painter) action, P p → P (p.modifyCache (·.act action))
  request : ∀ (p : Painter) request, P p → P (p.request request)
  receive : ∀ p : Painter, P p → P p.receive

namespace Persists

variable {P : Painter → Prop}

lemma fitCache (persists : Persists P) (h : P d.painter) : P d.fitCache.painter := by
  cases shown : d.attached? with
  | none =>
      rw [Display.fitCache, shown]
      exact h
  | some document =>
      rw [fitCache_of_attached shown]
      exact persists.cache d.painter (.fit _ _ _) h

lemma collectLate (persists : Persists P) (h : P d.painter) (engines : Engines ε) :
    P (d.collectLate engines).1.painter := by
  refine List.foldlRecOn (motive := fun result : Display × Engines ε => P result.1.painter) d.late _
    h ?_
  intro result ih late _
  rw [collectOne]
  split
  · exact persists.request _ _ ih
  · exact ih

lemma edit (persists : Persists P) (edit : Edit d d') (h : P d.painter) : P d'.painter := by
  cases edit with
  | notices | session | viewport => exact h
  | place => exact persists.place _ _ h
  | fitCache => exact persists.fitCache h
  | staleAll => exact persists.cache _ .staleAll h
  | request _ request => exact persists.request _ request h
  | collectLate _ engines => exact persists.collectLate h engines
  | receive => exact persists.receive _ h

end Persists

/-- The painters that calls can lead to, with any drawings coming back. -/
abbrev AnyPainter : Painter → Prop := Painter.Reachable fun _ _ => True

lemma persists_anyPainter : Persists AnyPainter where
  place p placement h := .step h (.place p placement)
  cache p action h := .step h (.cache p action fun _ _ => trivial)
  request p request h := .step h (.request p request request.delivers_true)
  receive p h := .step h (.receive p)

lemma persists_hollow : Persists Painter.Hollow where
  place _ _ h := h
  cache _ _ h := h
  request _ request h := h.request request
  receive _ h := h.receive

lemma anyPainter_step {ok : TileKey → DrawOutcome → Prop} (step : Step ok d d')
    (h : AnyPainter d.painter) : AnyPainter d'.painter := by
  cases step with
  | edit _ _ edit => exact persists_anyPainter.edit edit h
  | openDocument | part | zoom => exact h
  | closeDocument => exact persists_anyPainter.cache d.painter .clear h
  | viewRect _ viewport painter _ _ _ resized =>
      rcases resized with rfl | ⟨-, rfl⟩
      · exact .step h (.resize d.painter _)
      · exact h
  | submit _ request => exact .step h (.submit d.painter request request.delivers_true)
  | paint =>
      exact .step h (.paint d.painter _ _ fun _ _ _ =>
        ⟨trivial, fun request _ => request.delivers_true⟩)

end Display

namespace Viewer

open Display

variable {settings : ViewerSettings} {calls : List Call} {v : Viewer}

/-- **The painter of a viewer** is one that calls of a painter can lead to. -/
theorem reachable_painter (settings : ViewerSettings) (calls : List Call) :
    Painter.Reachable (fun _ _ => True) (run settings calls).display.painter := by
  have submits : ∀ call ∈ calls, call.Submits fun _ _ => True := fun call _ => call.submits_true
  exact run_steps (P := fun d => AnyPainter d.painter) (.create _ _)
    (fun _ _ _ step h => anyPainter_step step h) submits

/-- **A viewer asks for a paint pass** if there is work for one, or if all of its surface is damaged
and there is nothing of it. -/
theorem needsPaint_iff (v : Viewer) : v.needsPaint = true ↔
    v.display.painter.damage.work v.surface.bounds ≠ [] ∨ v.display.painter.Hollow := by
  rw [needsPaint, Bool.not_eq_true', List.isEmpty_eq_false_iff]
  by_cases hollow : v.display.painter.Hollow
  · refine iff_of_true ?_ (.inr hollow)
    rw [hollow.lists.1]
    exact List.cons_ne_nil _ _
  · rw [or_iff_left hollow, Painter.damageList_eq_work hollow]
    rfl

/-- A paint pass does not end the damage of a surface without pixels. -/
lemma hollow_paint [Engine ε] (h : v.display.painter.Hollow) (engines : Engines ε)
    (surroundings : Surroundings σ) (t : σ) :
    (v.paint engines surroundings t).2.1.display.painter.Hollow := by
  have processed : (v.process engines).1.display.painter.Hollow :=
    keeps_of_chain (P := fun d => d.painter.Hollow) (fun _ _ edit => persists_hollow.edit edit)
      (edited_process v engines).edits h
  rw [paint]
  dsimp only
  split
  · exact processed
  · split
    · exact processed
    · simp only [paintDocument, modifyDisplay, ← Array.foldl_toList]
      exact List.foldlRecOn (motive := Painter.Hollow) _ _ (processed.paint _ _)
        fun _ ih rect _ => ih.request (.damaged rect)

end Viewer

/-! ## What is listed -/

namespace Painter

variable {p : Painter} {ok : TileKey → DrawOutcome → Prop}

/-- **Recorded damage is work that can be done**, after any calls and on surfaces of any size, but
where all of a surface is damaged and there is nothing of it.  The list of damage is never longer
than `Damage.maxRects`; all of it has pixels and lies within the surface; and a viewer does not ask
for a paint pass that has nothing to do.  In the one exception the bounds of the surface are listed,
and a viewer asks for one pass after the other, none of which ends it. -/
theorem Reachable.damage_iff (reachable : Reachable ok p) :
    p.damageList.length ≤ Damage.maxRects ∧
    ((∀ rect ∈ p.damageList,
      rect.isEmpty = false ∧ p.surface.bounds.containsRect rect = true) ↔ ¬p.Hollow) ∧
    ∀ v : Viewer, v.display.painter = p →
      (v.needsPaint = true ∧ p.damage.work p.surface.bounds = [] ↔ p.Hollow) ∧
      (p.Hollow → ∀ {ε σ : Type} [Engine ε] (engines : Engines ε) (surroundings : Surroundings σ)
        (t : σ), (v.paint engines surroundings t).2.1.needsPaint = true) := by
  refine ⟨reachable.realDamage.length_toList, reachable.damageList_iff, ?_⟩
  rintro v rfl
  refine ⟨⟨?_, fun hollow => ⟨v.needsPaint_iff.2 (.inr hollow), hollow.lists.2⟩⟩, ?_⟩
  · rintro ⟨asked, none⟩
    exact (v.needsPaint_iff.1 asked).resolve_left fun some => some none
  · intro hollow ε σ _ engines surroundings t
    exact (Viewer.needsPaint_iff _).2 (.inr (Viewer.hollow_paint hollow engines surroundings t))

/-! ## An example -/

/-- The two pixels that are to be seen of three wait for the first paint pass. -/
theorem Reachable.damage_iff_threePixels :
    (threePixels.resize ⟨2, 1⟩).damageList = [⟨0, 0, 2, 1⟩] ∧
      ∀ rect ∈ (threePixels.resize ⟨2, 1⟩).damageList, rect.isEmpty = false ∧
        (threePixels.resize ⟨2, 1⟩).surface.bounds.containsRect rect = true := by
  have reachable : Reachable (fun _ _ => True) (threePixels.resize ⟨2, 1⟩) :=
    .step reachable_threePixels (.resize threePixels ⟨2, 1⟩)
  refine ⟨by decide +kernel, reachable.damage_iff.2.1.2 fun hollow => ?_⟩
  exact absurd hollow.1 (by decide +kernel)

end Painter

namespace Viewer

/-- A viewer whose place in the page has a width and no height. -/
def folded : List Call := [.setViewRect ⟨0, 0, 4, 0⟩ 1]

/-- Its surface has no pixels, and yet it lists damage and asks for a paint pass. -/
theorem folded_asks :
    Painter.Reachable (fun _ _ => True) (run .default folded).display.painter ∧
      (run .default folded).surface.isEmpty = true ∧
      (run .default folded).display.painter.damageList = [⟨0, 0, 4, 0⟩] ∧
      (run .default folded).needsPaint = true :=
  ⟨reachable_painter .default folded, by decide +kernel, by decide +kernel, by decide +kernel⟩

end Viewer

end TiledView
