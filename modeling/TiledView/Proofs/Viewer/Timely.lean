import TiledView.Proofs.Paint.Timely
import TiledView.Proofs.Viewer.Damage
import TiledView.Proofs.Viewer.Opening

/-!
# Viewers that settle

A host paints as long as `Viewer.needsPaint` tells it to.  One paint is enough if it is in time: no
late drawing is outstanding when it begins, its deadline is not reached, and the engine answers
every drawing that it is asked for (`Viewer.settled_of_timely`).

Nothing else could hold the paint up, in whatever way the viewer has come about.

* The part that is shown has a cache of the scale of the painter's placement
  (`Display.Settled.exists_shown`).
* Without late drawings no bitmap is away, since every one that is lent is owed
  (`Viewer.Reachable.collected`).
* The damage lies on the surface, and painting adds none (`Painter.finished_paint`).
-/

namespace TiledView

variable {ε σ : Type}

/-- Some of a tile can be seen in `rect`, in the area of the document. -/
def Viewport.Sees (v : Viewport) (rect : Rect .device) (tile : Tile) : Prop :=
  ∃ q ∈ rect, q ∈ v.shownArea ∧
    q ∈ tile.pixels.offset (v.shownArea.x - v.scroll.x) (v.shownArea.y - v.scroll.y)

/-! ## Paints of a display -/

namespace Display

variable {d : Display} {settings : ViewerSettings} {document : ShownDocument}

/-- What the viewport sees of a tile, the painter comes to. -/
lemma Placed.showsTile {session : Session} (h : d.Placed session) {t : Tiling} {tile : Tile}
    {index : Nat} (pixels : tile.pixels = t.rect (t.cellOf index)) {rect : Rect .device}
    (inside : ∀ q ∈ rect, q ∈ d.painter.surface.bounds) (sees : d.viewport.Sees rect tile) :
    d.painter.placement.ShowsTile t (rect.intersect d.painter.surface.bounds) index := by
  obtain ⟨q, hrect, harea, hq⟩ := sees
  rw [h.placement]
  refine ⟨q, Rect.mem_intersect.2 ⟨hrect, inside q hrect⟩, harea, ?_⟩
  rw [Rect.mem_offset, Int.neg_sub, Int.neg_sub] at hq
  exact pixels ▸ hq

/-- **A paint in time leaves nothing to be done in the area of the document.** -/
theorem finished_of_timely (regular : d.Regular settings) (settled : d.Settled)
    (shown : d.attached? = some document) (inbox : d.painter.inbox = [])
    (real : d.painter.RealDamage) (nonempty : d.painter.surface.isEmpty = false)
    (collected : ∀ c, d.painter.cache.parts[d.part]? = some c → c.Collected)
    {renderer : Renderer σ} {s : σ} (timely : d.painter.Timely renderer s) :
    let painted := d.painter.paint (.ofRenderer renderer) s
    painted.1.pending = #[] ∧ painted.2.1.damageList = [] ∧
      ∃ c, painted.2.1.cache.parts[d.part]? = some c ∧
        ∀ index tile, c.tiles[index]? = some tile →
          (∃ rect ∈ d.painter.damageList, d.viewport.Sees rect tile) →
            c.valid.contains index = true := by
  have filled : ¬ d.painter.surface.isEmpty = true := Bool.eq_false_iff.1 nonempty
  have listed := Painter.damageList_eq_work fun hollow : d.painter.Hollow => filled hollow.1
  have placed := settled.placed document shown
  have part : d.painter.placement.part = d.part := congrArg Placement.part placed.placement
  obtain ⟨c, found, cache⟩ := settled.exists_shown shown
  obtain ⟨pending, damage, c', found', finished⟩ :=
    timely.finished regular.honest inbox filled cache (collected c found)
  refine ⟨pending, ?_, c', part ▸ found', fun index tile htile sees => ?_⟩
  · rw [Painter.damageList, damage]
    rfl
  · have built := (regular.honest.sound d.part c found).built
    have pixels := PartCache.pixels_of_outline (finished.outline.trans built) htile
    rw [(PartCache.outline_fields finished.outline).2.2.2.2] at pixels
    obtain ⟨inside, -⟩ := Array.getElem?_eq_some_iff.1 htile
    obtain ⟨rect, mem, sees⟩ := sees
    rw [listed] at mem
    have within : ∀ q ∈ rect, q ∈ d.painter.surface.bounds := fun _ hq =>
      Rect.mem_of_containsRect (real.work rect mem) hq
    exact finished.valid index (finished.size ▸ inside)
      (.inl ⟨rect, mem, placed.showsTile pixels within sees⟩)

end Display

namespace Viewer

open Display

variable {v v' : Viewer}

/-! ## Runs -/

lemma Step.exists_call (step : Step v v') : ∃ call : Call, v' = v.after call := by
  cases step with
  | openDocument _ engines engine choice => exact ⟨.openDocument engines engine choice, rfl⟩
  | closeDocument _ engines => exact ⟨.closeDocument engines, rfl⟩
  | deliver _ callback => exact ⟨.deliver callback, rfl⟩
  | process _ engines => exact ⟨.process engines, rfl⟩
  | paint _ engines surroundings t => exact ⟨.paint engines surroundings t, rfl⟩
  | setViewRect _ cssRect deviceScale => exact ⟨.setViewRect cssRect deviceScale, rfl⟩
  | setZoom _ zoom => exact ⟨.setZoom zoom, rfl⟩
  | scrollTo _ position => exact ⟨.scrollTo position, rfl⟩
  | showPart _ part => exact ⟨.showPart part, rfl⟩
  | redraw => exact ⟨.redraw, rfl⟩
  | askFor _ kind => exact ⟨.askFor kind, rfl⟩
  | takeNotices => exact ⟨.takeNotices, rfl⟩
  | submit _ request => exact ⟨.submit request, rfl⟩

/-- A viewer that can come about does so in a run. -/
lemma Reachable.exists_run (h : v.Reachable) : ∃ settings calls, v = run settings calls := by
  induction h with
  | create settings => exact ⟨settings, [], rfl⟩
  | step _ step ih =>
      obtain ⟨settings, calls, rfl⟩ := ih
      obtain ⟨call, rfl⟩ := step.exists_call
      exact ⟨settings, calls ++ [call], (run_concat settings calls call).symm⟩

lemma Reachable.regular (h : v.Reachable) : ∃ settings, v.display.Regular settings := by
  obtain ⟨settings, calls, rfl⟩ := h.exists_run
  exact ⟨settings, regular_run settings calls⟩

lemma Reachable.realDamage (h : v.Reachable) : v.display.painter.RealDamage := by
  obtain ⟨settings, calls, rfl⟩ := h.exists_run
  exact (reachable_painter settings calls).realDamage

/-- Without late drawings, no bitmap is away from the caches. -/
theorem Reachable.collected (h : v.Reachable) (none : v.display.late = []) {part : Nat}
    {c : PartCache Float} (found : v.display.painter.cache.parts[part]? = some c) :
    c.Collected := by
  obtain ⟨settings, calls, rfl⟩ := h.exists_run
  have submits : ∀ call ∈ calls, call.Submits fun _ _ => True := fun call _ => call.submits_true
  have owed := (booked_run (DocumentCache.ledger_owed _) settings submits).books
  refine ⟨fun index tile htile => ?_, (reachable_painter settings calls).marks part c found⟩
  rw [Bool.eq_false_iff]
  intro away
  have lent : c.lent? index = some true := by rw [PartCache.lent?, htile, Option.map_some, away]
  have owing := owed part c found index lent
  rw [none] at owing
  exact List.not_mem_nil owing

/-! ## Paints in time -/

section Paint

variable [Engine ε] {settings : ViewerSettings} {engines : Engines ε}
  {surroundings : Surroundings σ} {t : σ}

/-- What is seen of the clock and of the engine while a viewer paints. -/
def sights (v : Viewer) (engines : Engines ε) (surroundings : Surroundings σ) (t : σ) :
    List Sight :=
  let (v, engines) := v.process engines
  match v.display.document? with
  | none => []
  | some { engine, session } =>
    match session.view? with
    | none => []
    | some view =>
      v.display.painter.sights (engineRenderer surroundings engine view)
        { engines, late := v.display.late, surroundings := t }

/-- The deadline is not reached while a viewer paints, and the engine answers every drawing. -/
def Timely (v : Viewer) (engines : Engines ε) (surroundings : Surroundings σ) (t : σ) : Prop :=
  ∀ sight ∈ v.sights engines surroundings t,
    sight.InTime ((surroundings.now t).1 + v.display.painter.settings.budget)

instance (v : Viewer) (engines : Engines ε) (surroundings : Surroundings σ) (t : σ) :
    Decidable (v.Timely engines surroundings t) :=
  inferInstanceAs (Decidable (∀ sight ∈ v.sights engines surroundings t, _))

/-- Processing what waits gives the surface no other size. -/
lemma isEmpty_surface_process (h : v.display.Regular settings) (engines : Engines ε) :
    (v.process engines).1.surface.isEmpty = v.surface.isEmpty := by
  have edits := (edited_process v engines).edits
  have size := (h.edits edits).surface
  rw [edits.sameFrame.surfaceSize, ← h.surface] at size
  rw [← Bitmap.isEmpty_bounds, ← Bitmap.isEmpty_bounds]
  exact congrArg (fun size => (Rect.ofSize size).isEmpty) size

/-- A paint in time is one pass in time. -/
lemma timely_painter (h : v.display.Regular settings) (timely : v.Timely engines surroundings t)
    {document : ShownDocument} {view : ViewId}
    (shown : (v.process engines).1.display.document? = some document)
    (found : document.session.view? = some view) :
    (v.process engines).1.display.painter.Timely
      (engineRenderer surroundings document.engine view)
      ⟨(v.process engines).2, (v.process engines).1.display.late, t⟩ := by
  have regular := h.edits (edited_process v engines).edits
  have budget := h.paintSettings.trans regular.paintSettings.symm
  simp only [Timely, sights, shown, found, budget] at timely
  exact timely

/-- **One paint in time settles.**  Take any viewer that shows a document on a surface with pixels.
If no late drawing is outstanding once waiting callbacks have been processed, the deadline of the
paint is not reached, and the engine answers every drawing, then nothing is pending after the paint,
no further one is asked for, and every tile of the document that could be seen in the damage is
valid. -/
theorem settled_of_timely (h : v.Reachable) (showing : v.isShowing = true)
    (nonempty : v.surface.isEmpty = false) (none : (v.process engines).1.lateCount = 0)
    (timely : v.Timely engines surroundings t) :
    let processed := (v.process engines).1
    let painted := v.paint engines surroundings t
    painted.1.pending = #[] ∧ painted.2.1.needsPaint = false ∧
      ∃ c, painted.2.1.display.painter.cache.parts[painted.2.1.display.part]? = some c ∧
        ∀ index tile, c.tiles[index]? = some tile →
          (∃ rect ∈ processed.display.painter.damageList,
            processed.display.viewport.Sees rect tile) →
              c.valid.contains index = true := by
  have reachable : (v.process engines).1.Reachable := h.step (.process v engines)
  obtain ⟨settings, before⟩ := h.regular
  have edits := (edited_process v engines).edits
  have regular := before.edits edits
  have shows : (v.process engines).1.display.document?.isSome = true := by
    rw [isShowing, isAttached, before.attached?_eq, ← Option.not_isNone] at showing
    rw [← Option.not_isNone, edits.isNone]
    exact showing
  obtain ⟨document, shown⟩ := Option.isSome_iff_exists.1 shows
  obtain ⟨view, found⟩ := Option.isSome_iff_exists.1 (regular.attached document shown)
  have late : (v.process engines).1.display.late = [] := List.length_eq_zero_iff.1 none
  obtain ⟨pending, damage, c, hc, valid⟩ := finished_of_timely regular
    (settled_process h.settled engines) (regular.attached?_eq.trans shown)
    (inbox_process before engines) reachable.realDamage
    ((isEmpty_surface_process before engines).trans nonempty)
    (fun c found => reachable.collected late found) (timely_painter before timely shown found)
  obtain ⟨report, part, painter⟩ := paintDocument_eq (v.process engines).1 document.engine view
    (v.process engines).2 surroundings t
  dsimp only
  rw [paint_of_showing shown found, needsPaint, report, painter pending, part, damage]
  exact ⟨pending, rfl, c, hc, valid⟩

end Paint

/-! ## An example -/

lemma reachable_letterOpened : letterOpened.1.Reachable :=
  .step (.step (.create _) (.setViewRect _ _ _)) (.openDocument _ letter 0 _)

/-- The first paint of a letter of one tile, by an engine that answers at once. -/
theorem settled_of_timely_letter :
    let processed := (letterOpened.1.process letterOpened.2).1
    let painted := letterOpened.1.paint letterOpened.2 Simulation.Meanwhile.surroundings ⟨0, #[]⟩
    processed.needsPaint = true ∧ painted.1.pending = #[] ∧ painted.2.1.needsPaint = false ∧
      ∃ c, painted.2.1.display.painter.cache.parts[painted.2.1.display.part]? = some c ∧
        c.valid.contains 0 = true := by
  have timely : letterOpened.1.Timely letterOpened.2 Simulation.Meanwhile.surroundings
      ⟨0, #[]⟩ := by decide +kernel
  obtain ⟨pending, asks, c, found, valid⟩ := settled_of_timely reachable_letterOpened
    (by decide +kernel) (by decide +kernel) (by decide +kernel) timely
  have damaged : (letterOpened.1.process letterOpened.2).1.display.painter.damageList =
      [⟨0, 0, 4, 2⟩] := by decide +kernel
  have covers : ((letterOpened.1.paint letterOpened.2 Simulation.Meanwhile.surroundings
      ⟨0, #[]⟩).2.1.display.painter.cache.parts[(letterOpened.1.paint letterOpened.2
        Simulation.Meanwhile.surroundings ⟨0, #[]⟩).2.1.display.part]?.all fun c =>
          c.tiles[0]?.any (·.pixels = ⟨0, 0, 4, 2⟩)) = true := by decide +kernel
  rw [found, Option.all_some] at covers
  obtain ⟨tile, htile, pixels⟩ := (Option.any_eq_true _ _).1 covers
  refine ⟨by decide +kernel, pending, asks, c, found, valid 0 tile htile ⟨⟨0, 0, 4, 2⟩, ?_, ?_⟩⟩
  · rw [damaged]
    exact List.mem_singleton_self _
  · refine ⟨⟨0, 0⟩, by decide, by decide +kernel, ?_⟩
    rw [of_decide_eq_true pixels]
    decide +kernel

end Viewer

end TiledView
