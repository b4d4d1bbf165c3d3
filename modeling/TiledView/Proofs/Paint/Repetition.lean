import TiledView.Proofs.Cache.Classification
import TiledView.Proofs.Cache.Tally
import TiledView.Proofs.Cache.Timely
import TiledView.Proofs.Paint.Mirror

/-!
# Passes that are repeated

A pass that leaves nothing pending is at rest: every tile that it came to is valid, and the surface
shows what would be copied to it.  Another pass over the same area then lists the same tiles and
changes nothing, whatever its renderer would answer, for it never asks (`PartCache.sweep_sweep`).
Bitmaps may have any size here, so what is shown is said by the copying itself:
`PartCache.Rests c window surface index touched` says that another visit of the tile would report
`touched` and change nothing else.  A visit of a tile makes it rest, unless it is pending, and the
visits of the other tiles leave it at rest, since no two tiles share a pixel.

A pass after an invalidation has everything to do.  If it covers the extent and is held up by
nothing, it has every tile drawn once, in ascending order (`PartCache.sweep_invalidateAll`).
-/

namespace TiledView

variable {α σ τ : Type}

/-! ## Copying a tile again -/

namespace PaintWindow

variable (window : PaintWindow) {pixels pixels' : Rect .device} {bitmap bitmap' : Bitmap}
  {surface surface' : Bitmap} {q : Point .device}

/-- What copying a tile makes of a pixel depends on no other pixel of the surface. -/
lemma at?_copyTile_congr (pixels : Rect .device) (bitmap : Bitmap)
    (size : surface'.size = surface.size) (same : surface'.at? q = surface.at? q) :
    (window.copyTile surface' pixels bitmap).at? q =
      (window.copyTile surface pixels bitmap).at? q := by
  have bounds : surface'.bounds = surface.bounds := congrArg Rect.ofSize size
  simp only [copyTile]
  split_ifs
  · exact same
  · rw [Bitmap.at?_blit, Bitmap.at?_blit, bounds, same]

/-- Copying a tile twice is copying it once. -/
lemma copyTile_copyTile (surface : Bitmap) (pixels : Rect .device) (bitmap : Bitmap) :
    window.copyTile (window.copyTile surface pixels bitmap) pixels bitmap =
      window.copyTile surface pixels bitmap := by
  simp only [copyTile]
  split_ifs
  · rfl
  · exact Bitmap.blit_blit _ _ _ _

/-- Copying another tile does not bring back anything to do for a tile that is shown. -/
lemma copyTile_of_apart (shown : window.copyTile surface pixels bitmap = surface)
    (apart : ∀ p ∈ pixels, p ∉ pixels') :
    window.copyTile (window.copyTile surface pixels' bitmap') pixels bitmap =
      window.copyTile surface pixels' bitmap' := by
  refine Bitmap.eq_of_at? (Bitmap.size_copyTile window _ pixels bitmap) fun q _ => ?_
  by_cases inside : q.offset window.origin.x window.origin.y ∈ pixels
  · have same := window.at?_copyTile_of_unseen surface pixels' bitmap'
      fun seen => apart _ inside seen.2
    have size := Bitmap.size_copyTile window surface pixels' bitmap'
    rw [window.at?_copyTile_congr pixels bitmap size same, shown, same]
  · exact window.at?_copyTile_of_unseen _ pixels bitmap fun seen => inside seen.2

end PaintWindow

/-! ## Tiles at rest -/

/-- Another visit of tile `index` reports `touched` and changes nothing else. -/
structure PartCache.Rests (c : PartCache α) (window : PaintWindow) (surface : Bitmap) (index : Nat)
    (touched : TouchedTile) : Prop where
  valid : c.valid.contains index = true
  shown : ∃ tile, c.tiles[index]? = some tile ∧ touched = c.report index tile ∧
    ∀ bitmap, tile.bitmap? = some bitmap → window.copyTile surface tile.pixels bitmap = surface

namespace TilePass

open PartCache (Rests)

variable {renderer : Renderer σ} {window : PaintWindow} {deadline index other : Nat}
  {pass pass' : TilePass α σ} {touched : TouchedTile}

/-- A visit of a tile that is not pending after it makes the tile rest. -/
lemma rests_visited (marks : pass.cache.Marks) (inside : index < pass.cache.tiles.size)
    (visited : Visited renderer window deadline pass index pass')
    (none : pass'.pending = #[]) :
    ∃ touched, pass'.ready = pass.ready.push touched ∧
      pass'.cache.Rests window pass'.surface index touched := by
  cases visited with
  | missing outside => exact absurd inside (Nat.not_lt.2 (Array.getElem?_eq_none_iff.1 outside))
  | shown tile found valid =>
      refine ⟨_, rfl, valid, tile, found, rfl, fun bitmap home => ?_⟩
      rw [home]
      exact window.copyTile_copyTile pass.surface tile.pixels bitmap
  | drawn tile bitmap asks =>
      refine ⟨_, rfl, marks.contains_takeIn asks.found _, { tile with slot := .ready bitmap },
        PartCache.getElem?_setSlot_self asks.found, rfl, fun same home => ?_⟩
      obtain rfl : bitmap = same := Option.some.inj home
      exact window.copyTile_copyTile pass.surface tile.pixels bitmap
  | lent | late | deferred | failed => exact absurd none Array.push_ne_empty

/-- A tile at rest stays so while other tiles are visited. -/
lemma Rests.visited [Arithmetic α] {part tileEdge generation : Nat} {scale : Scale α}
    {documentSize : Size .twips}
    (built : pass.cache.outline = .build part scale documentSize tileEdge generation)
    (h : pass.cache.Rests window pass.surface index touched)
    (visited : Visited renderer window deadline pass other pass') (apart : other ≠ index) :
    pass'.cache.Rests window pass'.surface index touched := by
  obtain ⟨valid, tile, found, reported, shown⟩ := h
  have part := (PartCache.outline_fields (PartCache.outline_visited visited)).1
  refine ⟨valid_visited visited valid, tile, (tiles_visited visited apart).trans found, ?_,
    fun bitmap home => ?_⟩
  · rw [reported, PartCache.report, PartCache.report, part]
  · rcases surface_visited visited with same | ⟨there, copied, hthere, same⟩ <;> rw [same]
    · exact shown bitmap home
    · refine window.copyTile_of_apart (shown bitmap home) fun p inside => ?_
      rw [PartCache.pixels_of_outline built found] at inside
      have own := Tiling.indexAt_eq_of_mem_rect inside
      exact PartCache.not_mem_pixels_of_ne built (own.symm ▸ apart) hthere

/-- A visit of a tile at rest. -/
lemma visit_of_rests {pass : TilePass α τ} (renderer : Renderer τ) (deadline : Nat)
    (h : pass.cache.Rests window pass.surface index touched) :
    pass.visit renderer window deadline index = { pass with ready := pass.ready.push touched } := by
  obtain ⟨valid, tile, found, rfl, shown⟩ := h
  rw [visit_shown found valid]
  cases home : tile.bitmap? with
  | none => rfl
  | some bitmap =>
      have same : window.copyTile pass.surface tile.pixels bitmap = pass.surface :=
        shown bitmap home
      show { pass with
        surface := window.copyTile pass.surface tile.pixels bitmap
        ready := pass.ready.push (pass.touch index tile) } = _
      rw [same]
      rfl

/-- Visits of tiles at rest. -/
lemma foldl_of_rests {cache : PartCache α} {surface : Bitmap} (renderer : Renderer τ)
    (deadline : Nat) (pending : Array TouchedTile) (s : τ) {indices : List Nat}
    {listed : List TouchedTile} (h : List.Forall₂ (cache.Rests window surface) indices listed)
    (ready : Array TouchedTile) :
    indices.foldl (visit renderer window deadline) ⟨cache, surface, ready, pending, s⟩ =
      ⟨cache, surface, ready ++ listed.toArray, pending, s⟩ := by
  induction h generalizing ready with
  | nil => rw [List.foldl_nil, Array.append_empty]
  | cons here _ ih =>
      rw [List.foldl_cons, visit_of_rests renderer deadline here, ih]
      rw [List.toArray_cons, Array.push_eq_append, Array.append_assoc]

/-- What is pending stays pending, whatever tiles are visited. -/
lemma pending_eq_empty_of_foldl {indices : List Nat}
    (none : (indices.foldl (visit renderer window deadline) pass).pending = #[]) :
    pass.pending = #[] := by
  refine Array.eq_empty_iff_forall_not_mem.2 fun touched mem => ?_
  have kept : touched ∈ (indices.foldl (visit renderer window deadline) pass).pending :=
    List.foldlRecOn (motive := fun result : TilePass α σ => touched ∈ result.pending) indices _ mem
      fun result ih index _ => pending_visited (visited result index) ih
  exact Array.not_mem_empty touched (none ▸ kept)

/-- The tiles in `worked` rest and have been listed in this order, and those in `indices` are still
to be visited. -/
lemma rests_foldl [Arithmetic α] {part tileEdge generation : Nat} {scale : Scale α}
    {documentSize : Size .twips} (indices worked : List Nat) (pass : TilePass α σ)
    (built : pass.cache.outline = .build part scale documentSize tileEdge generation)
    (marks : pass.cache.Marks) (apart : (worked ++ indices).Nodup)
    (inside : ∀ index ∈ indices, index < pass.cache.tiles.size)
    (h : List.Forall₂ (pass.cache.Rests window pass.surface) worked pass.ready.toList)
    (none : (indices.foldl (visit renderer window deadline) pass).pending = #[]) :
    let result := indices.foldl (visit renderer window deadline) pass
    List.Forall₂ (result.cache.Rests window result.surface) (worked ++ indices)
      result.ready.toList := by
  induction indices generalizing worked pass with
  | nil => exact (List.append_nil worked).symm ▸ h
  | cons index indices ih =>
      have fresh : ∀ other ∈ worked, index ≠ other := fun other mem same =>
        (List.nodup_append.1 apart).2.2 other mem index List.mem_cons_self same.symm
      have visited : Visited renderer window deadline pass index _ := visited pass index
      have outline := PartCache.outline_visited visited
      obtain ⟨touched, ready, rests⟩ := rests_visited marks (inside index List.mem_cons_self) visited
        (pending_eq_empty_of_foldl none)
      have before := ((List.forall₂_and_left _ _).2 ⟨fresh, h⟩).imp fun other touched before =>
        Rests.visited built before.2 visited before.1
      rw [List.append_cons] at apart ⊢
      refine ih _ _ (outline.trans built) (marks.visited visited) apart (fun other mem => ?_) ?_ none
      · rw [PartCache.size_tiles_eq_of_outline outline]
        exact inside other (List.mem_cons_of_mem index mem)
      · rw [ready, Array.toList_push]
        exact List.rel_append before (.cons rests .nil)

end TilePass

/-! ## Whole passes -/

namespace PartCache

section Again

variable [Arithmetic α] {part tileEdge generation : Nat} {scale : Scale α}
  {documentSize : Size .twips} {c : PartCache α} {surface : Bitmap} {window : PaintWindow}
  {dirty : Rect .device} {deadline : Nat} {renderer : Renderer σ} {s : σ}

/-- **A pass that leaves nothing pending leaves nothing to do.** -/
theorem sweep_sweep (built : c.outline = build part scale documentSize tileEdge generation)
    (marks : c.Marks) (hwidth : c.tiling.size.width ≤ Tiling.maxExtent)
    (hheight : c.tiling.size.height ≤ Tiling.maxExtent)
    (none : (c.sweep surface window dirty deadline renderer s).pending = #[])
    (deadline' : Nat) (renderer' : Renderer τ) (s' : τ) :
    let first := c.sweep surface window dirty deadline renderer s
    first.cache.sweep first.surface window dirty deadline' renderer' s' =
      { cache := first.cache, surface := first.surface, ready := first.ready, pending := #[],
        renderer := s' } := by
  have outline := outline_sweep (c := c) surface window dirty deadline renderer s
  have rests : List.Forall₂ (Rests _ window _) ([] ++ c.tiling.overlapping dirty) _ :=
    TilePass.rests_foldl _ [] ⟨c, surface, #[], #[], s⟩ built marks
      (Tiling.nodup_overlapping hwidth dirty)
      (fun _ => lt_size_of_mem_overlapping built hwidth hheight) .nil none
  dsimp only
  rw [sweep, (outline_fields outline).2.2.2.2]
  refine (TilePass.foldl_of_rests renderer' deadline' #[] s' rests #[]).trans ?_
  rw [Array.empty_append]
  rfl

end Again

section Afresh

variable {c : PartCache α} {surface : Bitmap} {window : PaintWindow} {dirty : Rect .device}
  {deadline : Nat} {renderer : Renderer σ} {s : σ} {index : Nat}

/-- A tile that becomes valid in a pass is drawn in it. -/
lemma mem_jobs_of_valid (before : c.valid.contains index = false)
    (after : (c.sweep surface window dirty deadline renderer s).cache.valid.contains index = true) :
    index ∈ (c.sweep surface window dirty deadline renderer.noting (s, [])).renderer.2.map
      fun job => job.key.index := by
  have same := c.sweep_mapState renderer.noting_maps surface window dirty deadline (s, [])
  rw [same] at after
  refine sweep_rec (P := fun pass : TilePass α (σ × List DrawJob) =>
    pass.cache.valid.contains index = true →
      index ∈ pass.renderer.2.map fun job => job.key.index) c surface dirty (s, [])
    (fun valid => absurd valid (Bool.eq_false_iff.1 before)) ?_ after
  intro pass other pass' visited ih valid
  cases visited with
  | missing | shown | lent | late => exact ih valid
  | deferred | failed =>
      exact List.map_append ▸ List.mem_append_left _ (ih valid)
  | drawn =>
      refine List.map_append ▸ List.mem_append.2 ?_
      exact (contains_markValid valid).imp ih fun own => List.mem_singleton.2 own

variable [Arithmetic α] {part tileEdge generation : Nat} {scale : Scale α}
  {documentSize : Size .twips}
  (built : c.outline = build part scale documentSize tileEdge generation)
  (hwidth : c.tiling.size.width ≤ Tiling.maxExtent)
  (hheight : c.tiling.size.height ≤ Tiling.maxExtent)
  (covers : ∀ p ∈ Rect.ofSize c.tiling.size, p ∈ dirty)

include built hwidth hheight covers

/-- A pass over the extent comes to each tile, in ascending order. -/
lemma overlapping_eq_range_of_covers : c.tiling.overlapping dirty = List.range c.tiles.size := by
  rw [Tiling.overlapping_eq_range hwidth hheight covers, size_tiles_of_outline built]

/-- Where no tile is valid before a pass and all of them are after it, each of them has been drawn
once. -/
lemma jobs_eq_range (marks : c.Marks)
    (before : ∀ index < c.tiles.size, c.valid.contains index = false)
    (after : ∀ index < c.tiles.size,
      (c.sweep surface window dirty deadline renderer s).cache.valid.contains index = true) :
    (c.sweep surface window dirty deadline renderer.noting (s, [])).renderer.2.map
      (fun job => job.key.index) = List.range c.tiles.size := by
  have once := (sorted_sweep hwidth hheight surface window dirty deadline renderer s built
    marks).askedOnce
  rw [overlapping_eq_range_of_covers built hwidth hheight covers] at once
  refine (List.pairwise_lt_range.sublist once).eq_of_mem_iff List.pairwise_lt_range
    fun index => ⟨fun mem => once.subset mem, fun mem => ?_⟩
  have inside := List.mem_range.1 mem
  exact mem_jobs_of_valid (before index inside) (after index inside)

/-- A pass over the extent that is held up by nothing makes all tiles valid. -/
lemma valid_sweep_of_inTime (collected : c.Collected)
    (inTime : ∀ sight ∈ (c.sweep surface window dirty deadline renderer.watched
      (s, [])).renderer.2, sight.InTime deadline) :
    let pass := c.sweep surface window dirty deadline renderer s
    pass.pending = #[] ∧ ∀ index < c.tiles.size, pass.cache.valid.contains index = true := by
  obtain ⟨pending, finished⟩ := finished_sweep renderer.watched_sees collected surface window dirty
    deadline (s, []) inTime
  have same := c.sweep_mapState renderer.watched_maps surface window dirty deadline (s, [])
  refine ⟨same ▸ pending, fun index inside => same ▸ finished.valid index inside (.inl ?_)⟩
  rw [overlapping_eq_range_of_covers built hwidth hheight covers]
  exact List.mem_range.2 inside

/-- **A pass over all the tiles that is held up by nothing has each of them drawn once**, if it
follows an invalidation. -/
theorem sweep_invalidateAll (collected : c.Collected)
    (inTime : ∀ sight ∈ (c.invalidateAll.sweep surface window dirty deadline renderer.watched
      (s, [])).renderer.2, sight.InTime deadline) :
    let pass := c.invalidateAll.sweep surface window dirty deadline renderer s
    (c.invalidateAll.sweep surface window dirty deadline renderer.noting (s, [])).renderer.2.map
        (fun job => job.key.index) = List.range c.tiles.size ∧
      pass.pending = #[] ∧ ∀ index < c.tiles.size, pass.cache.valid.contains index = true := by
  have outline := outline_invalidateAll.trans built
  have size : c.invalidateAll.tiles.size = c.tiles.size :=
    size_tiles_eq_of_outline outline_invalidateAll
  obtain ⟨pending, valid⟩ := valid_sweep_of_inTime outline hwidth hheight covers
    collected.invalidateAll inTime
  refine ⟨?_, pending, size ▸ valid⟩
  rw [← size]
  exact jobs_eq_range outline hwidth hheight covers collected.marks.invalidateAll
    (fun index _ => c.valid.contains_clear index) valid

end Afresh

/-- **A repeated pass does no work.**  If nothing is pending after a pass, another one over the same
area asks its renderer for nothing, lists the same tiles and changes neither the cache nor the
surface.  And all the work is done once by a pass over the extent that follows an invalidation, if
no tile is lent and all jobs come back drawn in time. -/
theorem paint_idempotent [Arithmetic α] {c : PartCache α} (reachable : c.Reachable)
    (hwidth : c.tiling.size.width ≤ Tiling.maxExtent)
    (hheight : c.tiling.size.height ≤ Tiling.maxExtent) (surface : Bitmap) (window : PaintWindow)
    (dirty : Rect .device) (deadline : Nat) (renderer : Renderer σ) (s : σ) :
    let first := c.paint surface window dirty deadline renderer s
    let afresh := c.invalidateAll.paint surface window dirty deadline renderer s
    (first.pending = #[] → ∀ (deadline' : Nat) (renderer' : Renderer τ) (s' : τ),
      first.cache.jobs first.surface window dirty deadline' renderer' s' = [] ∧
        first.cache.paint first.surface window dirty deadline' renderer' s' =
          { cache := first.cache, surface := first.surface, ready := first.ready, pending := #[],
            renderer := s' }) ∧
    ((∀ (index : Nat) (tile : Tile), c.tiles[index]? = some tile → tile.isLent = false) →
      (∀ p ∈ Rect.ofSize c.tiling.size, p ∈ dirty) →
      (∀ sight ∈ (c.invalidateAll.paint surface window dirty deadline renderer.watched
        (s, [])).renderer.2, sight.InTime deadline) →
      (c.invalidateAll.jobs surface window dirty deadline renderer s).map
          (fun job => job.key.index) = List.range c.tiles.size ∧
        afresh.pending = #[] ∧
        (∀ index < c.tiles.size, afresh.cache.valid.contains index = true) ∧
        afresh.cache.valid.isFull = true) := by
  intro first afresh
  obtain ⟨part, scale, documentSize, tileEdge, generation, built⟩ := reachable.exists_outline
  constructor
  · intro none deadline' renderer' s'
    have again {υ : Type} := sweep_sweep (τ := υ) built reachable.marks hwidth hheight none deadline'
    exact ⟨congrArg (fun pass => pass.renderer.2) (again renderer'.noting (s', [])),
      again renderer' s'⟩
  · intro home covers inTime
    obtain ⟨jobs, pending, valid⟩ := sweep_invalidateAll built hwidth hheight
      (fun p => Rect.mem_effective_of_covers covers) ⟨home, reachable.marks⟩ inTime
    have after : afresh.cache.Reachable :=
      (reachable.step .invalidateAll).step (.paint surface window dirty.effective deadline renderer s)
    refine ⟨jobs, pending, valid, after.counts.isFull_iff.2 fun index inside => valid index ?_⟩
    have outline : afresh.cache.outline = c.outline :=
      (outline_sweep surface window dirty.effective deadline renderer s).trans
        outline_invalidateAll
    rwa [after.marks, size_tiles_eq_of_outline outline] at inside

/-- A row of three tiles that are drawn by one pass, and not again by the next one, whose renderer
would fail. -/
theorem paint_idempotent_threeTiles :
    let c : PartCache Float := build 0 .identity ⟨45, 15⟩ 1 1
    let window : PaintWindow := ⟨.zero, ⟨0, 0, 3, 1⟩⟩
    let drawing := Renderer.constant fun job => .drawn job.bitmap
    let failing := Renderer.constant fun job => .failed job.bitmap .engineUnavailable
    let first := c.paint (.blank 3 1) window ⟨0, 0, 3, 1⟩ 1 drawing ()
    c.Reachable ∧ first.pending = #[] ∧ first.ready.map TouchedTile.index = #[0, 1, 2] ∧
      first.cache.jobs first.surface window ⟨0, 0, 3, 1⟩ 1 failing () = [] ∧
      first.cache.paint first.surface window ⟨0, 0, 3, 1⟩ 1 failing () =
        { cache := first.cache, surface := first.surface, ready := first.ready, pending := #[],
          renderer := () } ∧
      (c.invalidateAll.jobs (.blank 3 1) window ⟨0, 0, 3, 1⟩ 1 drawing ()).map
        (fun job => job.key.index) = List.range c.tiles.size := by
  intro c window drawing failing first
  have reachable : c.Reachable := .build 0 .identity ⟨45, 15⟩ 1 1
  have size : c.tiling.size = ⟨3, 1⟩ := by decide +kernel
  have width : c.tiling.size.width ≤ Tiling.maxExtent := by rw [size]; decide
  have height : c.tiling.size.height ≤ Tiling.maxExtent := by rw [size]; decide
  have covers : ∀ p ∈ Rect.ofSize c.tiling.size, p ∈ (⟨0, 0, 3, 1⟩ : Rect .device) := by
    rw [size]
    exact fun _ => id
  have home : ∀ tile ∈ c.tiles, tile.isLent = false := by decide +kernel
  have none : first.pending = #[] := by decide +kernel
  obtain ⟨again, afresh⟩ := paint_idempotent (τ := Unit) reachable width height (.blank 3 1) window
    ⟨0, 0, 3, 1⟩ 1 drawing ()
  obtain ⟨silent, same⟩ := again none 1 failing ()
  obtain ⟨jobs, -⟩ := afresh (fun _ tile found => home tile (Array.mem_of_getElem? found))
    covers (by decide +kernel)
  exact ⟨reachable, none, by decide +kernel, silent, same, jobs⟩

end PartCache

end TiledView
