import TiledView.Proofs.Cache.Timely
import TiledView.Proofs.Paint.Mirror
import TiledView.Proofs.Paint.RealDamage

/-!
# Paints that meet their deadline

A paint pass is in time if its renderer is, and `Painter.Timely` says so of the sights that the pass
itself gives to its renderer.  Such a pass settles: nothing is pending after it, nothing is damaged,
and every tile that can be seen in the damage is valid (`Painter.Timely.finished`).

* `Painter.Reachable.marks` — whatever calls led to a painter, all its tiles can be marked.
* `Painter.paint_mapState` — a painter does not notice what its renderer keeps beside its state, so
  that watching a renderer does not change a paint.
* `Painter.finished_paint` — a pass whose sights are all in time.
-/

namespace TiledView

variable {σ τ : Type}

/-! ## Room for marks -/

namespace Painter

variable {p : Painter} {ok : TileKey → DrawOutcome → Prop}

lemma marks_request (h : p.cache.Marks) (request : PaintRequest) :
    (p.request request).cache.Marks := by
  rw [Painter.request]
  split
  · rcases cache_carryOut p request with same | ⟨action, same⟩ <;> rw [same]
    · exact h
    · exact h.act action
  · exact h

lemma marks_receive (h : p.cache.Marks) : p.receive.cache.Marks :=
  List.foldlRecOn (motive := fun p : Painter => p.cache.Marks) p.inbox Painter.request h
    fun _ ih request _ => marks_request ih request

lemma marks_paintRects (h : p.cache.Marks) (rects : List (Rect .device))
    (renderer : SubmittingRenderer σ) (s : σ) :
    (p.paintRects rects renderer s).2.1.cache.Marks := by
  cases shown : p.shown? with
  | none =>
      rw [paintRects_of_not_shown rects renderer s shown]
      exact h
  | some c =>
      rw [paintRects_of_shown rects renderer s shown]
      refine h.setPart _ ?_
      refine List.foldlRecOn (motive := fun pass : PaintPass σ => pass.cache.Marks) rects _
        (h _ c (shown?_eq_some_iff.1 shown).1) ?_
      intro pass ih rect _
      rw [PaintPass.paintRect]
      split_ifs
      · exact ih
      · exact ih.sweep ..

lemma marks_carryOutDeferred (idle : p.phase = .idle) (inbox : p.inbox = [])
    (h : p.cache.Marks) : p.carryOutDeferred.cache.Marks := by
  rw [carryOutDeferred_eq idle inbox]
  exact List.foldlRecOn (motive := fun p : Painter => p.cache.Marks) p.deferred Painter.request h
    fun _ ih request _ => marks_request ih request

lemma marks_paint (idle : p.phase = .idle) (h : p.cache.Marks) (renderer : SubmittingRenderer σ)
    (s : σ) : (p.paint renderer s).2.1.cache.Marks := by
  have received := marks_receive h
  by_cases empty : p.receive.surface.isEmpty = true
  · rw [paint_of_isEmpty empty]
    exact received
  · rw [paint_of_not_isEmpty empty]
    obtain ⟨cache, -, inbox⟩ := clearSurface_eq p.receive
    refine marks_carryOutDeferred rfl ?_ (marks_paintRects ?_ _ renderer s)
    · have unread := (rest_paintRects p.receive.started
        (p.receive.damage.work p.receive.surface.bounds) renderer s).1
      exact (unread.trans inbox).trans (rest_receive idle).2.1
    · exact cache ▸ received

theorem Reachable.marks (reachable : Reachable ok p) : p.cache.Marks := by
  induction reachable with
  | create settings tileEdge => exact .of_empty rfl
  | step reachable step ih =>
      cases step with
      | resize _ size =>
          rw [resize]
          split_ifs <;> exact ih
      | place | submit => exact ih
      | request _ request => exact marks_request ih request
      | receive => exact marks_receive ih
      | cache _ action => exact ih.act action
      | paint _ renderer s => exact marks_paint reachable.honest.idle ih renderer s

end Painter

/-! ## The state of the renderer -/

section MapState

variable {f : σ → τ} {r : Renderer σ} {r' : Renderer τ}

lemma SubmittingRenderer.collecting_ofRenderer_maps (maps : r.Maps f r') :
    (ofRenderer r).collecting.Maps (fun s => (f s.1, s.2)) (ofRenderer r').collecting where
  now := by
    intro s
    simp only [collecting, ofRenderer, maps.now]
  draw := by
    intro job deadline s
    simp only [collecting, ofRenderer, maps.draw]

namespace PaintPass

/-- The pass with another state of the renderer. -/
def mapState (f : σ → τ) (pass : PaintPass σ) : PaintPass τ where
  cache := pass.cache
  surface := pass.surface
  ready := pass.ready
  pending := pass.pending
  deferred := pass.deferred
  renderer := f pass.renderer

variable {placement : Placement} {deadline : Nat}

lemma paintRect_mapState (maps : r.Maps f r') (pass : PaintPass σ) (rect : Rect .device) :
    (pass.mapState f).paintRect (.ofRenderer r') placement deadline rect =
      (pass.paintRect (.ofRenderer r) placement deadline rect).mapState f := by
  have tiles := fun window dirty => pass.cache.sweep_mapState
    (SubmittingRenderer.collecting_ofRenderer_maps maps) pass.surface window dirty deadline
    (pass.renderer, [])
  by_cases empty : ((rect.intersect pass.surface.bounds).intersect placement.area).isEmpty = true
  · exact (if_pos empty).trans (congrArg (mapState f) (if_pos empty).symm)
  · refine (if_neg empty).trans (Eq.trans ?_ (congrArg (mapState f) (if_neg empty).symm))
    dsimp only [mapState]
    rw [tiles]
    rfl

lemma foldl_paintRect_mapState (maps : r.Maps f r') (rects : List (Rect .device))
    (pass : PaintPass σ) :
    rects.foldl (paintRect (.ofRenderer r') placement deadline) (pass.mapState f) =
      (rects.foldl (paintRect (.ofRenderer r) placement deadline) pass).mapState f := by
  induction rects generalizing pass with
  | nil => rfl
  | cons rect rects ih => rw [List.foldl_cons, List.foldl_cons, paintRect_mapState maps, ih]

end PaintPass

namespace Painter

lemma paintRects_mapState (maps : r.Maps f r') (p : Painter) (rects : List (Rect .device))
    (s : σ) :
    p.paintRects rects (.ofRenderer r') (f s) =
      let painted := p.paintRects rects (.ofRenderer r) s
      (painted.1, painted.2.1, f painted.2.2) := by
  have now : (SubmittingRenderer.ofRenderer r').now (f s) = ((r.now s).1, f (r.now s).2) :=
    maps.now s
  cases shown : p.shown? with
  | none =>
      rw [paintRects_of_not_shown _ _ _ shown, paintRects_of_not_shown _ _ _ shown, now]
      rfl
  | some c =>
      have pass : p.passOver rects (.ofRenderer r') (f s) c =
          (p.passOver rects (.ofRenderer r) s c).mapState f := by
        rw [passOver, now]
        exact PaintPass.foldl_paintRect_mapState maps rects
          { cache := c, surface := p.surface, ready := #[], pending := #[], deferred := p.deferred
            renderer := (r.now s).2 }
      rw [paintRects_of_shown _ _ _ shown, paintRects_of_shown _ _ _ shown, pass]
      rfl

/-- **A painter does not notice what its renderer keeps for itself.** -/
theorem paint_mapState (maps : r.Maps f r') (p : Painter) (s : σ) :
    p.paint (.ofRenderer r') (f s) =
      let painted := p.paint (.ofRenderer r) s
      (painted.1, painted.2.1, f painted.2.2) := by
  by_cases empty : p.receive.surface.isEmpty = true
  · rw [paint_of_isEmpty empty, paint_of_isEmpty empty]
  · rw [paint_of_not_isEmpty empty, paint_of_not_isEmpty empty]
    simp only [paintRects_mapState maps]

end Painter

end MapState

/-! ## Painting in time -/

/-- Tile `index` of a tiling can be seen in a rectangle of the surface. -/
def Placement.ShowsTile (placement : Placement) (t : Tiling) (rect : Rect .device) (index : Nat) :
    Prop :=
  ∃ q ∈ rect, q ∈ placement.area ∧
    q.offset placement.origin.x placement.origin.y ∈ t.rect (t.cellOf index)

section Sights

variable {renderer : Renderer σ} {sights : σ → List Sight} (sees : renderer.Sees sights)

include sees

lemma SubmittingRenderer.collecting_ofRenderer_sees :
    (ofRenderer renderer).collecting.Sees fun s => sights s.1 where
  now := fun s => sees.now s.1
  draw := fun job deadline s => sees.draw job deadline s.1

namespace PaintPass

open PartCache (Finished)

variable {placement : Placement} {deadline : Nat} {pass : PaintPass σ} {t : Tiling}

lemma sights_paintRect (pass : PaintPass σ) (rect : Rect .device) : sights pass.renderer ⊆
    sights (pass.paintRect (.ofRenderer renderer) placement deadline rect).renderer := by
  simp only [paintRect]
  split_ifs
  · exact List.Subset.refl _
  · exact TilePass.sights_foldl (SubmittingRenderer.collecting_ofRenderer_sees sees)
      (pass.cache.tiling.overlapping _)
      { cache := pass.cache, surface := pass.surface, ready := #[], pending := #[]
        renderer := (pass.renderer, []) }

lemma sights_foldl_paintRect (rects : List (Rect .device)) (pass : PaintPass σ) :
    sights pass.renderer ⊆ sights (rects.foldl
      (paintRect (.ofRenderer renderer) placement deadline) pass).renderer := by
  refine List.foldlRecOn (motive := fun result : PaintPass σ =>
    sights pass.renderer ⊆ sights result.renderer) rects _ (List.Subset.refl _) ?_
  intro result ih rect _
  exact List.Subset.trans ih (sights_paintRect sees result rect)

/-- **A damaged rectangle that is painted in time is done.** -/
lemma finished_paintRect (pending : pass.pending = #[]) (collected : pass.cache.Collected)
    (rect : Rect .device)
    (inTime : ∀ sight ∈ sights
      (pass.paintRect (.ofRenderer renderer) placement deadline rect).renderer,
      sight.InTime deadline) :
    (pass.paintRect (.ofRenderer renderer) placement deadline rect).pending = #[] ∧
      Finished (placement.ShowsTile pass.cache.tiling (rect.intersect pass.surface.bounds))
        pass.cache (pass.paintRect (.ofRenderer renderer) placement deadline rect).cache := by
  simp only [paintRect] at inTime ⊢
  split_ifs at inTime ⊢ with empty
  · refine ⟨pending, (Finished.refl collected).mono fun index _ shows => ?_⟩
    obtain ⟨q, hrect, harea, -⟩ := shows
    exact Rect.not_mem_of_isEmpty empty (Rect.mem_intersect.2 ⟨hrect, harea⟩)
  · obtain ⟨none, finished⟩ := PartCache.finished_sweep
      (SubmittingRenderer.collecting_ofRenderer_sees sees) collected pass.surface _ _ deadline
      (pass.renderer, []) inTime
    refine ⟨?_, finished.mono fun index _ shows => ?_⟩
    · simp only [none, pending, onSurface, Array.map_empty, Array.filter_empty, Array.append_empty]
    · obtain ⟨q, hrect, harea, hq⟩ := shows
      have hdirty := Rect.mem_intersect.2 ⟨hrect, harea⟩
      have visits := Tiling.indexAt_mem_overlapping (mem_toDocument hdirty)
        (Tiling.mem_ofSize_of_mem_rect hq)
      rwa [Tiling.indexAt_eq_of_mem_rect hq] at visits

lemma finished_foldl_paintRect (rects : List (Rect .device)) (pending : pass.pending = #[])
    (collected : pass.cache.Collected)
    (inTime : ∀ sight ∈ sights (rects.foldl
      (paintRect (.ofRenderer renderer) placement deadline) pass).renderer,
      sight.InTime deadline) :
    (rects.foldl (paintRect (.ofRenderer renderer) placement deadline) pass).pending = #[] ∧
      Finished
        (fun index => ∃ rect ∈ rects, placement.ShowsTile pass.cache.tiling
          (rect.intersect pass.surface.bounds) index)
        pass.cache
        (rects.foldl (paintRect (.ofRenderer renderer) placement deadline) pass).cache := by
  induction rects generalizing pass with
  | nil =>
      refine ⟨pending, (Finished.refl collected).mono fun _ _ shows => ?_⟩
      obtain ⟨rect, mem, -⟩ := shows
      exact List.not_mem_nil mem
  | cons rect rects ih =>
      obtain ⟨pending', first⟩ := finished_paintRect sees pending collected rect
        fun sight mem => inTime sight (sights_foldl_paintRect sees rects _ mem)
      obtain ⟨pending'', rest⟩ := ih pending' first.collected inTime
      obtain ⟨outline, size⟩ :=
        paintRect_frame (.ofRenderer renderer) placement deadline pass rect
      have tiling := (PartCache.outline_fields outline).2.2.2.2
      have bounds : Bitmap.bounds (paintRect (.ofRenderer renderer) placement deadline pass
        rect).surface = pass.surface.bounds := congrArg Rect.ofSize size
      rw [tiling, bounds] at rest
      refine ⟨pending'', (first.trans rest).mono fun index _ shows => ?_⟩
      obtain ⟨other, mem, shows⟩ := shows
      rcases List.mem_cons.1 mem with rfl | later
      · exact .inl shows
      · exact .inr ⟨other, later, shows⟩

end PaintPass

namespace Painter

open PartCache (Finished)

variable {p : Painter} {c : PartCache Float} {ok : TileKey → DrawOutcome → Prop}

/-- **A paint in time settles.**  Nothing is pending after it, the damage is gone, and the tiles
that could be seen in it have become valid. -/
theorem finished_paint (honest : p.Honest ok) (inbox : p.inbox = [])
    (nonempty : ¬ p.surface.isEmpty = true) (shown : p.shown? = some c) (collected : c.Collected)
    (s : σ)
    (inTime : ∀ sight ∈ sights (p.paint (.ofRenderer renderer) s).2.2,
      sight.InTime ((renderer.now s).1 + p.settings.budget)) :
    let painted := p.paint (.ofRenderer renderer) s
    painted.1.pending = #[] ∧ painted.2.1.damage = .nothing ∧
      ∃ c', painted.2.1.cache.parts[p.placement.part]? = some c' ∧
        c.Finished
          (fun index => ∃ rect ∈ p.damage.work p.surface.bounds, p.placement.ShowsTile c.tiling
            (rect.intersect p.surface.bounds) index) c' := by
  obtain ⟨-, pending, state, painted⟩ := paint_of_shown honest inbox nonempty shown renderer s
  have frame := sameFrame_clearSurface p
  have settings : p.started.settings = p.settings := frame.settings
  have placement : p.started.placement = p.placement := frame.placement
  have bounds : p.started.surface.bounds = p.surface.bounds := frame.bounds
  rw [state] at inTime
  dsimp only
  rw [pending, painted]
  simp only [passOver, settings, placement] at inTime ⊢
  obtain ⟨none, finished⟩ := PaintPass.finished_foldl_paintRect sees
    (p.damage.work p.surface.bounds) rfl collected inTime
  rw [show p.started.surface.bounds = p.surface.bounds from bounds] at finished
  exact ⟨none, rfl, _, DocumentCache.getElem?_setPart_self (shown?_eq_some_iff.1 shown).1, finished⟩

end Painter

end Sights

namespace Painter

variable {p : Painter} {c : PartCache Float} {ok : TileKey → DrawOutcome → Prop}

/-- What a paint pass sees of its renderer. -/
def sights (p : Painter) (renderer : Renderer σ) (s : σ) : List Sight :=
  (p.paint (.ofRenderer renderer.watched) (s, [])).2.2.2

/-- The clock does not reach the deadline of a paint pass while it runs, and every job comes back
drawn. -/
def Timely (p : Painter) (renderer : Renderer σ) (s : σ) : Prop :=
  ∀ sight ∈ p.sights renderer s, sight.InTime ((renderer.now s).1 + p.settings.budget)

instance (p : Painter) (renderer : Renderer σ) (s : σ) : Decidable (p.Timely renderer s) :=
  inferInstanceAs (Decidable (∀ sight ∈ p.sights renderer s, _))

/-- A paint in time settles, watched or not. -/
theorem Timely.finished {renderer : Renderer σ} {s : σ} (timely : p.Timely renderer s)
    (honest : p.Honest ok) (inbox : p.inbox = []) (nonempty : ¬ p.surface.isEmpty = true)
    (shown : p.shown? = some c) (collected : c.Collected) :
    let painted := p.paint (.ofRenderer renderer) s
    painted.1.pending = #[] ∧ painted.2.1.damage = .nothing ∧
      ∃ c', painted.2.1.cache.parts[p.placement.part]? = some c' ∧
        c.Finished
          (fun index => ∃ rect ∈ p.damage.work p.surface.bounds, p.placement.ShowsTile c.tiling
            (rect.intersect p.surface.bounds) index) c' := by
  have watched := finished_paint renderer.watched_sees honest inbox nonempty shown collected (s, [])
    timely
  have same := paint_mapState renderer.watched_maps p (s, [])
  dsimp only at same
  rw [same]
  exact watched

end Painter

end TiledView
