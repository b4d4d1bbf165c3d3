import TiledView.Proofs.Paint.Outdated
import TiledView.Proofs.Paint.ScrollRun

/-!
# Surfaces that mirror the caches

A paint pass copies to the surface what the cache holds, whatever has been drawn, by whomever and
when.  So there is something to say about a pass without asking anything of its renderer: a pixel
that the pass works on shows afterwards what the cache holds for its tile, or lies in a tile that is
reported as pending (`TilePass.Mirrors`), and a pixel outside of the clip is what it was.

* `TilePass.Mirrors.visited`, `TilePass.mirrors_self` — a visit of another tile leaves a pixel as it
  is, and a visit of its own tile makes it mirror the cache.
* `PartCache.mirrors_sweep`, `PartCache.at?_sweep_of_not_mem` — a pass over a part.
* `Painter.at?_paint_of_everything` — a pass over a surface that is damaged all over.
-/

namespace TiledView

variable {α σ : Type}

/-! ## Pixels that are not written -/

/-- A pixel where the tile cannot be seen is left alone, whatever the bitmap. -/
lemma PaintWindow.at?_copyTile_of_unseen (window : PaintWindow) (surface : Bitmap)
    (pixels : Rect .device) (bitmap : Bitmap) {q : Point .device}
    (unseen : ¬ (q ∈ window.clip ∧ q.offset window.origin.x window.origin.y ∈ pixels)) :
    (window.copyTile surface pixels bitmap).at? q = surface.at? q := by
  simp only [copyTile]
  generalize htile : pixels.offset (-window.origin.x) (-window.origin.y) = tile
  have outside : q ∉ tile.intersect window.clip := by
    rw [Rect.mem_intersect, ← htile, Rect.mem_offset, Int.neg_neg, Int.neg_neg]
    exact fun seen => unseen seen.symm
  split_ifs with empty
  · rfl
  · rw [Bitmap.at?_blit]
    dsimp only
    rw [if_neg]
    rintro ⟨-, copied⟩
    obtain ⟨p, seen⟩ := Rect.isEmpty_eq_false_iff.1 (Bool.eq_false_iff.2 empty)
    obtain ⟨inTile, inClip⟩ := Rect.mem_intersect.1 seen
    have visible := Rect.intersect_of_mem inTile inClip
    generalize tile.intersect window.clip = v at *
    obtain ⟨inVisible, inBitmap⟩ := Rect.mem_intersect.1 copied
    -- The part of the bitmap that is copied begins where the visible part of the tile does.
    have left : tile.x ≤ v.x := by
      rw [visible]
      exact Int.le_max_left _ _
    have top : tile.y ≤ v.y := by
      rw [visible]
      exact Int.le_max_left _ _
    rw [Rect.intersect_of_mem inVisible inBitmap] at inVisible
    have x : max (v.x + -tile.x) 0 = v.x + -tile.x := by omega
    have y : max (v.y + -tile.y) 0 = v.y + -tile.y := by omega
    refine outside ?_
    simp only [Rect.mem_def, Rect.ofEdges, Rect.offset, Rect.origin, Point.x_offset, Point.y_offset,
      Rect.right, Rect.bottom, Bitmap.bounds, Rect.ofSize, x, y] at inVisible ⊢
    omega

/-! ## Visits of tiles -/

/-- Surface pixel `q` shows what `tile` holds: its bitmap, if that has the size of the tile. -/
def Tile.ShownAt (tile : Tile) (origin : Point .device) (surface : Bitmap) (q : Point .device) :
    Prop :=
  ∃ bitmap, tile.slot = .ready bitmap ∧
    (bitmap.width = tile.pixels.width.toNat → bitmap.height = tile.pixels.height.toNat →
      surface.at? q = bitmap.at?
        ((q.offset origin.x origin.y).offset (-tile.pixels.x) (-tile.pixels.y)))

namespace TilePass

variable {renderer : Renderer σ} {window : PaintWindow} {deadline index other : Nat}
  {pass pass' : TilePass α σ} {q : Point .device}

/-- Surface pixel `q` shows what the cache holds for tile `index`, or lies in a tile that is
reported as pending. -/
def Mirrors (window : PaintWindow) (index : Nat) (q : Point .device) (pass : TilePass α σ) : Prop :=
  (∃ tile, pass.cache.tiles[index]? = some tile ∧ tile.ShownAt window.origin pass.surface q) ∨
    ∃ touched ∈ pass.pending, q.offset window.origin.x window.origin.y ∈ touched.pixels

/-- A visit leaves every other tile alone. -/
lemma tiles_visited (visited : Visited renderer window deadline pass other pass')
    (apart : other ≠ index) : pass'.cache.tiles[index]? = pass.cache.tiles[index]? := by
  cases visited with
  | missing | shown | lent | late => rfl
  | drawn | deferred | failed => exact PartCache.getElem?_setSlot_of_ne apart

/-- Valid tiles stay valid. -/
lemma valid_visited (visited : Visited renderer window deadline pass other pass')
    (valid : pass.cache.valid.contains index = true) :
    pass'.cache.valid.contains index = true := by
  cases visited with
  | missing | shown | lent | late | deferred | failed => exact valid
  | drawn tile bitmap =>
      show ((pass.cache.setSlot other (.ready bitmap)).markValid other).valid.contains index = true
      rw [PartCache.markValid, TileSet.contains_insert, PartCache.valid_setSlot, valid,
        Bool.true_or]

/-- What is pending stays pending. -/
lemma pending_visited (visited : Visited renderer window deadline pass other pass')
    {touched : TouchedTile} (mem : touched ∈ pass.pending) : touched ∈ pass'.pending := by
  cases visited with
  | missing | shown | drawn => exact mem
  | lent | late | deferred | failed => exact Array.mem_push_of_mem _ mem

/-- A visit may copy its tile to the surface, and does not touch it otherwise. -/
lemma surface_visited (visited : Visited renderer window deadline pass other pass') :
    pass'.surface = pass.surface ∨ ∃ tile bitmap, pass.cache.tiles[other]? = some tile ∧
      pass'.surface = window.copyTile pass.surface tile.pixels bitmap := by
  cases visited with
  | missing | lent | late | deferred | failed => exact .inl rfl
  | shown tile found =>
      cases tile.bitmap? with
      | none => exact .inl rfl
      | some bitmap => exact .inr ⟨tile, bitmap, found, rfl⟩
  | drawn tile bitmap asks => exact .inr ⟨tile, bitmap, asks.found, rfl⟩

/-- A visit writes where its tile can be seen, and nowhere else. -/
lemma at?_visited (visited : Visited renderer window deadline pass other pass')
    (unseen : ∀ tile, pass.cache.tiles[other]? = some tile →
      ¬ (q ∈ window.clip ∧ q.offset window.origin.x window.origin.y ∈ tile.pixels)) :
    pass'.surface.at? q = pass.surface.at? q := by
  rcases surface_visited visited with same | ⟨tile, bitmap, found, copied⟩
  · rw [same]
  · rw [copied]
    exact window.at?_copyTile_of_unseen _ _ _ (unseen tile found)

lemma Mirrors.visited (h : pass.Mirrors window index q)
    (visited : Visited renderer window deadline pass other pass') (apart : other ≠ index)
    (outside : ∀ tile, pass.cache.tiles[other]? = some tile →
      q.offset window.origin.x window.origin.y ∉ tile.pixels) :
    pass'.Mirrors window index q := by
  rcases h with ⟨tile, found, bitmap, ready, shows⟩ | ⟨touched, mem, hq⟩
  · refine .inl ⟨tile, (tiles_visited visited apart).trans found, bitmap, ready, ?_⟩
    rw [at?_visited visited fun tile found seen => outside tile found seen.2]
    exact shows
  · exact .inr ⟨touched, pending_visited visited mem, hq⟩

/-- A bitmap that has just been copied is shown, where it can be seen. -/
lemma shownAt_copyTile {tile : Tile} {bitmap : Bitmap} (surface : Bitmap)
    (ready : tile.slot = .ready bitmap) (hbounds : q ∈ surface.bounds) (hclip : q ∈ window.clip)
    (htile : q.offset window.origin.x window.origin.y ∈ tile.pixels) :
    tile.ShownAt window.origin (window.copyTile surface tile.pixels bitmap) q := by
  refine ⟨bitmap, ready, fun width height => ?_⟩
  rw [PaintWindow.at?_copyTile _ _ _ _ width height, if_pos ⟨hbounds, hclip, htile⟩]

/-- A visit of its tile makes a pixel mirror the cache. -/
lemma mirrors_self (visited : Visited renderer window deadline pass index pass')
    (backed : pass.cache.Backed fun _ _ => True) (exists_tile : index < pass.cache.tiles.size)
    (hbounds : q ∈ pass.surface.bounds) (hclip : q ∈ window.clip)
    (htile : ∀ tile, pass.cache.tiles[index]? = some tile →
      q.offset window.origin.x window.origin.y ∈ tile.pixels) :
    pass'.Mirrors window index q := by
  cases visited with
  | missing none => exact absurd exists_tile (Nat.not_lt.2 (Array.getElem?_eq_none_iff.1 none))
  | shown tile found valid =>
      obtain ⟨same, bitmap, hsame, ready, -⟩ := backed index valid
      obtain rfl : tile = same := Option.some.inj (found.symm.trans hsame)
      refine .inl ⟨tile, found, ?_⟩
      rw [Tile.bitmap?, ready]
      exact shownAt_copyTile pass.surface ready hbounds hclip (htile tile found)
  | drawn tile bitmap asks =>
      refine .inl ⟨{ tile with slot := .ready bitmap }, ?_, ?_⟩
      · exact PartCache.getElem?_setSlot_self asks.found
      · have inside := htile tile asks.found
        exact shownAt_copyTile pass.surface rfl hbounds hclip inside
  | lent tile found | late tile found =>
      exact .inr ⟨_, Array.mem_push_self, htile tile found⟩
  | deferred tile asks | failed tile _ _ asks =>
      exact .inr ⟨_, Array.mem_push_self, htile tile asks.found⟩

end TilePass

/-! ## Passes over a part -/

section Pass

variable [Arithmetic α] {part tileEdge generation : Nat} {scale : Scale α}
  {documentSize : Size .twips} {renderer : Renderer σ} {window : PaintWindow} {deadline : Nat}
  {c : PartCache α} {surface : Bitmap} {q : Point .device}

/-- A tile past the one of a pixel does not have the pixel in it. -/
lemma PartCache.not_mem_pixels_of_ne
    (built : c.outline = .build part scale documentSize tileEdge generation) {p : Point .device}
    {index : Nat} (apart : index ≠ c.tiling.indexAt p) {tile : Tile}
    (found : c.tiles[index]? = some tile) : p ∉ tile.pixels := by
  rw [pixels_of_outline built found]
  exact fun inside => apart (Tiling.indexAt_eq_of_mem_rect inside).symm

/-- The tiles still to be visited are `indices`; a pixel mirrors the cache already, or its tile is
one of them. -/
lemma TilePass.mirrors_foldl {t : Tiling}
    (hcount : t.indexAt (q.offset window.origin.x window.origin.y) < t.count)
    (htile : q.offset window.origin.x window.origin.y ∈
      t.rect (t.cellOf (t.indexAt (q.offset window.origin.x window.origin.y))))
    (hclip : q ∈ window.clip) (indices : List Nat) (pass : TilePass α σ)
    (built : pass.cache.outline = .build part scale documentSize tileEdge generation)
    (tiling : pass.cache.tiling = t) (backed : pass.cache.Backed fun _ _ => True)
    (hbounds : q ∈ pass.surface.bounds)
    (h : pass.Mirrors window (t.indexAt (q.offset window.origin.x window.origin.y)) q ∨
      t.indexAt (q.offset window.origin.x window.origin.y) ∈ indices) :
    (indices.foldl (visit renderer window deadline) pass).Mirrors window
      (t.indexAt (q.offset window.origin.x window.origin.y)) q := by
  induction indices generalizing pass with
  | nil => exact h.resolve_right List.not_mem_nil
  | cons index indices ih =>
      have visited : Visited renderer window deadline pass index _ := visited pass index
      have outline := PartCache.outline_visited visited
      have size : (pass.visit renderer window deadline index).surface.bounds =
          pass.surface.bounds := congrArg Rect.ofSize (size_visited visited)
      refine ih _ (outline.trans built) ((PartCache.outline_fields outline).2.2.2.2.trans tiling)
        (backed.visited (fun _ _ _ _ _ => trivial) visited) (size.symm ▸ hbounds) ?_
      by_cases own : index = t.indexAt (q.offset window.origin.x window.origin.y)
      · subst own
        refine .inl (mirrors_self visited backed ?_ hbounds hclip fun tile found => ?_)
        · rw [PartCache.size_tiles_of_outline built, tiling]
          exact hcount
        · rw [PartCache.pixels_of_outline built found, tiling]
          exact htile
      · rcases h with before | mem
        · refine .inl (before.visited visited own fun tile found => ?_)
          exact PartCache.not_mem_pixels_of_ne built (tiling.symm ▸ own) found
        · exact .inr ((List.mem_cons.1 mem).resolve_left (Ne.symm own))

/-- **After a pass, every pixel that it works on mirrors the cache**, whatever the renderer does. -/
theorem PartCache.mirrors_sweep (window : PaintWindow) (deadline : Nat)
    (built : c.outline = .build part scale documentSize tileEdge generation)
    (backed : c.Backed fun _ _ => True) (hwidth : c.tiling.size.width ≤ Tiling.maxExtent)
    (hheight : c.tiling.size.height ≤ Tiling.maxExtent) {dirty : Rect .device} (s : σ)
    (hbounds : q ∈ surface.bounds) (hclip : q ∈ window.clip)
    (hdirty : q.offset window.origin.x window.origin.y ∈ dirty)
    (hextent : q.offset window.origin.x window.origin.y ∈ Rect.ofSize c.tiling.size) :
    (c.sweep surface window dirty deadline renderer s).Mirrors window
      (c.tiling.indexAt (q.offset window.origin.x window.origin.y)) q := by
  rw [sweep]
  exact TilePass.mirrors_foldl (Tiling.indexAt_lt_count hextent hwidth hheight)
    (Tiling.mem_rect_indexAt hextent hwidth) hclip _ _ built rfl backed hbounds
    (.inr (Tiling.indexAt_mem_overlapping hdirty hextent))

omit [Arithmetic α] in
/-- A pass writes nothing outside of its clip. -/
lemma PartCache.at?_sweep_of_not_mem (c : PartCache α) (surface : Bitmap) (dirty : Rect .device)
    (s : σ) (outside : q ∉ window.clip) :
    (c.sweep surface window dirty deadline renderer s).surface.at? q = surface.at? q := by
  refine sweep_rec (P := fun pass => pass.surface.at? q = surface.at? q) c surface dirty s rfl ?_
  intro pass index pass' visited ih
  exact (TilePass.at?_visited visited fun _ _ seen => outside seen.1).trans ih

end Pass

/-! ## Passes over a surface -/

namespace PaintPass

variable {renderer : SubmittingRenderer σ} {placement : Placement} {deadline : Nat}
  {pass : PaintPass σ} {rect : Rect .device} {q : Point .device}

/-- Surface pixel `q` shows what the cache holds for its tile, or lies in a rectangle that is
reported as pending. -/
def Mirrors (t : Tiling) (placement : Placement) (q : Point .device) (pass : PaintPass σ) : Prop :=
  (∃ tile, pass.cache.tiles[t.indexAt (q.offset placement.origin.x placement.origin.y)]? =
      some tile ∧ tile.ShownAt placement.origin pass.surface q) ∨
    ∃ rect ∈ pass.pending, q ∈ rect

lemma mirrors_paintRect {part tileEdge generation : Nat} {scale : ViewScale}
    {documentSize : Size .twips}
    (built : pass.cache.outline = .build part scale documentSize tileEdge generation)
    (backed : pass.cache.Backed fun _ _ => True)
    (hwidth : pass.cache.tiling.size.width ≤ Tiling.maxExtent)
    (hheight : pass.cache.tiling.size.height ≤ Tiling.maxExtent) (hrect : q ∈ rect)
    (hbounds : q ∈ pass.surface.bounds) (harea : q ∈ placement.area)
    (hextent : q.offset placement.origin.x placement.origin.y ∈
      Rect.ofSize pass.cache.tiling.size) :
    (pass.paintRect renderer placement deadline rect).Mirrors pass.cache.tiling placement q := by
  have hdirty := mem_dirty hrect hbounds harea
  have hne := Rect.isEmpty_eq_false_iff.2 ⟨q, hdirty⟩
  simp only [paintRect]
  rw [if_neg (Bool.eq_false_iff.1 hne)]
  rcases PartCache.mirrors_sweep ⟨placement.origin, _⟩ deadline built backed hwidth hheight
    (pass.renderer, []) hbounds hdirty (mem_toDocument hdirty) hextent
    with shows | ⟨touched, mem, hp⟩
  · exact .inl shows
  · obtain ⟨waiting, mem, hq⟩ := exists_mem_onSurface mem hdirty hp
    exact .inr ⟨waiting, Array.mem_append_right _ mem, hq⟩

/-- Painting a rectangle writes nothing outside of it, nor outside of the area of the document. -/
lemma at?_paintRect_of_not_mem (outside : ¬ (q ∈ rect ∧ q ∈ placement.area)) :
    (pass.paintRect renderer placement deadline rect).surface.at? q = pass.surface.at? q := by
  simp only [paintRect]
  split_ifs
  · rfl
  · refine PartCache.at?_sweep_of_not_mem _ _ _ _ fun seen => outside ?_
    obtain ⟨inRect, inArea⟩ := Rect.mem_intersect.1 seen
    exact ⟨(Rect.mem_intersect.1 inRect).1, inArea⟩

end PaintPass

namespace Painter

variable {ok : TileKey → DrawOutcome → Prop} {p : Painter} {c : PartCache Float}
  {q : Point .device}

/-- A pass over a surface with pixels is the painting of its damage, if there is a cache of what is
shown and the renderer submits nothing. -/
lemma paint_of_shown (honest : p.Honest ok) (inbox : p.inbox = [])
    (nonempty : ¬ p.surface.isEmpty = true) (shown : p.shown? = some c) (renderer : Renderer σ)
    (s : σ) :
    let painted := p.paint (.ofRenderer renderer) s
    let pass := p.started.passOver (p.damage.work p.surface.bounds) (.ofRenderer renderer) s c
    painted.1.ready = (if p.unclear then #[p.surface.bounds] else #[]) ++ pass.ready ∧
      painted.1.pending = pass.pending ∧ painted.2.2 = pass.renderer ∧
      painted.2.1 =
        { p.started with
          phase := .idle
          cache := p.cache.setPart p.placement.part pass.cache
          surface := pass.surface
          placement := p.placement
          deferred := pass.deferred } := by
  have received := receive_of_inbox_nil inbox
  have cache : p.started.cache = p.cache := (clearSurface_eq p).1
  have placement : p.started.placement = p.placement := (sameFrame_clearSurface p).placement
  have shown' : p.started.shown? = some c := by rw [shown?, cache, placement]; exact shown
  have nonempty' : ¬ p.receive.surface.isEmpty = true := by rwa [received]
  have report := paint_of_not_isEmpty nonempty' (.ofRenderer renderer) s
  have painted := paint_ofRenderer honest nonempty' renderer s
  simp only [received, paintRects_of_shown _ _ _ shown', cache, placement] at report painted
  refine ⟨?_, congrArg (fun painted : PaintReport × Painter × σ => painted.1.pending) report,
    congrArg (fun painted : PaintReport × Painter × σ => painted.2.2) report, painted⟩
  rw [report]
  dsimp only
  split_ifs
  · rfl
  · exact (Array.empty_append).symm

/-- A pass over a surface that is damaged all over is the painting of its bounds. -/
lemma paint_of_everything (honest : p.Honest ok) (inbox : p.inbox = [])
    (nonempty : ¬ p.surface.isEmpty = true) (damaged : p.damage = .everything)
    (shown : p.shown? = some c) (renderer : Renderer σ) (s : σ) :
    let painted := p.paint (.ofRenderer renderer) s
    let pass := p.started.passOver [p.surface.bounds] (.ofRenderer renderer) s c
    painted.1.pending = pass.pending ∧ painted.2.1.surface = pass.surface ∧
      painted.2.1.cache = p.cache.setPart p.placement.part pass.cache := by
  have bounds : ¬ p.surface.bounds.isEmpty = true := by rwa [Bitmap.isEmpty_bounds]
  have work : p.damage.work p.surface.bounds = [p.surface.bounds] := by
    rw [damaged]
    exact if_neg bounds
  obtain ⟨-, pending, -, painted⟩ := paint_of_shown honest inbox nonempty shown renderer s
  rw [work] at pending painted
  exact ⟨pending, congrArg Painter.surface painted, congrArg Painter.cache painted⟩

/-- **A pass over a surface that is damaged all over** leaves the pixels outside of the document's
area as they were, or as they were cleared.  Inside of it they mirror the caches, or are reported as
pending. -/
theorem at?_paint_of_everything (honest : p.Honest ok) (inbox : p.inbox = [])
    (damaged : p.damage = .everything) (shown : p.shown? = some c) (renderer : Renderer σ) (s : σ)
    (hbounds : q ∈ p.surface.bounds) :
    let painted := p.paint (.ofRenderer renderer) s
    let behind := q.offset p.placement.origin.x p.placement.origin.y
    let index := c.tiling.indexAt behind
    (q ∉ p.placement.area → painted.2.1.surface.at? q = p.clearSurface.surface.at? q) ∧
    (q ∈ p.placement.area → behind ∈ Rect.ofSize c.tiling.size →
      c.tiling.size.width ≤ Tiling.maxExtent → c.tiling.size.height ≤ Tiling.maxExtent →
        (∃ rect ∈ painted.1.pending, q ∈ rect) ∨
        ∃ cache tile, painted.2.1.cache.parts[p.placement.part]? = some cache ∧
          cache.tiles[index]? = some tile ∧ tile.pixels = c.tiling.rect (c.tiling.cellOf index) ∧
          tile.ShownAt p.placement.origin painted.2.1.surface q) := by
  have nonempty : ¬ p.surface.isEmpty = true :=
    fun empty => Bitmap.not_mem_bounds_of_isEmpty empty hbounds
  obtain ⟨pending, surface, caches⟩ :=
    paint_of_everything honest inbox nonempty damaged shown renderer s
  have found := (shown?_eq_some_iff.1 shown).1
  have sound := honest.sound p.placement.part c found
  have cleared := sameFrame_clearSurface p
  have placement : p.started.placement = p.placement := cleared.placement
  have hbounds' : q ∈ p.started.surface.bounds := cleared.bounds.symm ▸ hbounds
  dsimp only
  rw [pending, surface, caches]
  simp only [passOver, placement, List.foldl_cons, List.foldl_nil]
  refine ⟨fun outside => PaintPass.at?_paintRect_of_not_mem fun seen => outside seen.2, ?_⟩
  intro inside extent width height
  have backed := sound.backed.mono fun _ _ _ => trivial
  refine (PaintPass.mirrors_paintRect sound.built backed width height hbounds hbounds' inside
    extent).symm.imp_right ?_
  rintro ⟨tile, htile, shownAt⟩
  refine ⟨_, tile, DocumentCache.getElem?_setPart_self found, htile, ?_, shownAt⟩
  rw [PartCache.pixels_of_outline ((PaintPass.paintRect_frame _ _ _ _ _).1.trans sound.built) htile,
    (PartCache.outline_fields (PaintPass.paintRect_frame _ _ _ _ _).1).2.2.2.2]

end Painter

end TiledView
