import TiledView.Paint.Pass
import TiledView.Proofs.Bitmap.Copy
import TiledView.Proofs.Cache.Backed
import TiledView.Proofs.Paint.Frame

/-!
# What a paint pass draws

Fix for every tile a bitmap of its size (`Tiling.Fits`) and suppose that every drawing of a tile is
this bitmap.  Then there is a picture of the whole extent, `Tiling.picture`, and a surface either
shows it at a pixel or does not (`Bitmap.Shows`).

* `PaintWindow.at?_copyTile` — copying a tile writes the picture, and nothing but the picture.
* `PartCache.shows_sweep_of_shows` — so a pass over a part never makes a pixel wrong.
* `PartCache.settles_sweep` — and it makes every pixel that it works on right, or reports a tile with
  the pixel in it as pending.
-/

namespace TiledView

variable {α σ : Type}

/-! ## Copying one tile -/

/-- A tile is copied pixel by pixel where it can be seen through the clip, and nowhere else. -/
lemma PaintWindow.at?_copyTile (window : PaintWindow) (surface : Bitmap) (pixels : Rect .device)
    (bitmap : Bitmap) (hwidth : bitmap.width = pixels.width.toNat)
    (hheight : bitmap.height = pixels.height.toNat) (q : Point .device) :
    (window.copyTile surface pixels bitmap).at? q =
      let p := q.offset window.origin.x window.origin.y
      if q ∈ surface.bounds ∧ q ∈ window.clip ∧ p ∈ pixels then
        bitmap.at? (p.offset (-pixels.x) (-pixels.y))
      else
        surface.at? q := by
  have onSurface : q ∈ pixels.offset (-window.origin.x) (-window.origin.y) ↔
      q.offset window.origin.x window.origin.y ∈ pixels := by
    rw [Rect.mem_offset, Int.neg_neg, Int.neg_neg]
  simp only [copyTile]
  generalize htile : pixels.offset (-window.origin.x) (-window.origin.y) = tile at onSurface ⊢
  by_cases empty : (tile.intersect window.clip).isEmpty = true
  · have unseen : ¬ (q ∈ window.clip ∧ q.offset window.origin.x window.origin.y ∈ pixels) := by
      rintro ⟨hclip, hpixels⟩
      exact Rect.not_mem_of_isEmpty empty (Rect.mem_intersect.2 ⟨onSurface.2 hpixels, hclip⟩)
    rw [if_pos empty, if_neg fun h => unseen h.2]
  · rw [if_neg empty, Bitmap.at?_blit]
    dsimp only
    generalize hvisible : tile.intersect window.clip = visible at empty ⊢
    have hmem : ∀ r, r ∈ visible ↔ r ∈ tile ∧ r ∈ window.clip := by
      intro r
      rw [← hvisible, Rect.mem_intersect]
    -- The visible part lies within the tile, so clipping it to the bitmap cuts nothing off.
    have whole : (visible.offset (-tile.x) (-tile.y)).intersect bitmap.bounds =
        visible.offset (-tile.x) (-tile.y) := by
      refine Rect.intersect_eq_self (Rect.containsRect_of_forall_mem ?_ ?_)
      · exact Bool.eq_false_iff.2 empty
      · intro r hr
        rw [Rect.mem_offset, hmem, Int.neg_neg, Int.neg_neg, Rect.mem_def] at hr
        have sides : tile.width = pixels.width ∧ tile.height = pixels.height := by
          rw [← htile]
          exact ⟨rfl, rfl⟩
        rw [Bitmap.mem_bounds, hwidth, hheight]
        simp only [Point.x_offset, Point.y_offset, Rect.right, Rect.bottom] at hr
        omega
    have place : q.offset ((visible.offset (-tile.x) (-tile.y)).x - visible.origin.x)
        ((visible.offset (-tile.x) (-tile.y)).y - visible.origin.y) =
          (q.offset window.origin.x window.origin.y).offset (-pixels.x) (-pixels.y) := by
      rw [← htile]
      simp only [Point.offset, Rect.offset, Rect.origin, Point.mk.injEq]
      omega
    have seen : (q.offset window.origin.x window.origin.y).offset (-pixels.x) (-pixels.y) ∈
        visible.offset (-tile.x) (-tile.y) ↔
          q ∈ window.clip ∧ q.offset window.origin.x window.origin.y ∈ pixels := by
      have back : ((q.offset window.origin.x window.origin.y).offset (-pixels.x) (-pixels.y)).offset
          (- -tile.x) (- -tile.y) = q := by
        rw [← htile]
        simp only [Point.offset, Rect.offset]
        obtain ⟨x, y⟩ := q
        simp only [Point.mk.injEq]
        omega
      rw [Rect.mem_offset, back, hmem, onSurface, And.comm]
    rw [whole, place]
    exact if_congr (and_congr_right fun _ => seen) rfl rfl

/-! ## The picture -/

/-- At pixel `q`, the surface shows the picture of the tiles, where surface `(0, 0)` is pixel
`origin` of the extent. -/
def Bitmap.Shows (surface : Bitmap) (t : Tiling) (content : Nat → Bitmap)
    (origin q : Point .device) : Prop :=
  surface.at? q = t.picture content (q.offset origin.x origin.y)

section Pass

variable {t : Tiling} {content : Nat → Bitmap} {window : PaintWindow} {surface : Bitmap}
  {index : Nat} {q : Point .device}

/-- The picture is all that is ever copied. -/
lemma shows_copyTile_of_shows (fits : t.Fits content) (hindex : index < t.count)
    (h : surface.Shows t content window.origin q) :
    (window.copyTile surface (t.rect (t.cellOf index)) (content index)).Shows t content
      window.origin q := by
  obtain ⟨width, height⟩ := fits index hindex
  rw [Bitmap.Shows]
  rw [PaintWindow.at?_copyTile _ _ _ _ width height]
  dsimp only
  split_ifs with seen
  · exact (Tiling.picture_of_mem_rect seen.2.2).symm
  · exact h

/-- Where a tile can be seen, copying it makes the surface show the picture. -/
lemma shows_copyTile (fits : t.Fits content) (hindex : index < t.count)
    (hbounds : q ∈ surface.bounds) (hclip : q ∈ window.clip)
    (htile : q.offset window.origin.x window.origin.y ∈ t.rect (t.cellOf index)) :
    (window.copyTile surface (t.rect (t.cellOf index)) (content index)).Shows t content
      window.origin q := by
  obtain ⟨width, height⟩ := fits index hindex
  rw [Bitmap.Shows]
  rw [PaintWindow.at?_copyTile _ _ _ _ width height, if_pos ⟨hbounds, hclip, htile⟩]
  exact (Tiling.picture_of_mem_rect htile).symm

/-! ## Visits of tiles -/

/-- A drawing of a tile of generation `g` is the one in `content`. -/
def Faithful (g : Nat) (content : Nat → Bitmap) (key : TileKey) (bitmap : Bitmap) : Prop :=
  key.generation = g → bitmap = content key.index

/-- What may come back for a job, when tiles of generation `g` always look as in `content`. -/
def Renders (g : Nat) (content : Nat → Bitmap) (key : TileKey) (outcome : DrawOutcome) : Prop :=
  ∀ bitmap, outcome = .drawn bitmap → Faithful g content key bitmap

/-- A renderer for which tiles of generation `g` always look as in `content`. -/
def Renderer.Draws (g : Nat) (content : Nat → Bitmap) (renderer : Renderer σ) : Prop :=
  ∀ job deadline s, Renders g content job.key (renderer.draw job deadline s).1

/-- The cache of generation `g` is tiled by `t` and backed by `content`. -/
structure PartCache.Depicts (t : Tiling) (content : Nat → Bitmap) (g : Nat) (c : PartCache α) :
    Prop where
  generation : c.generation = g
  tiling : c.tiling = t
  size : c.tiles.size = t.count
  pixels : ∀ index tile, c.tiles[index]? = some tile → tile.pixels = t.rect (t.cellOf index)
  backed : c.Backed (Faithful g content)

namespace PartCache.Depicts

variable {g : Nat} {c c' : PartCache α} {tile : Tile}

lemma index_lt (h : c.Depicts t content g) (found : c.tiles[index]? = some tile) :
    index < t.count := h.size ▸ (Array.getElem?_eq_some_iff.1 found).1

lemma evolve (h : c.Depicts t content g) (outline : c'.outline = c.outline)
    (backed : c'.Backed (Faithful g content)) : c'.Depicts t content g where
  generation := (outline_fields outline).2.2.1.trans h.generation
  tiling := (outline_fields outline).2.2.2.2.trans h.tiling
  size := by
    have size : c'.outline.tiles.size = c.outline.tiles.size := by rw [outline]
    rw [PartCache.outline, PartCache.outline, Array.size_map, Array.size_map] at size
    exact size.trans h.size
  pixels := by
    intro index tile' found'
    have found : c.outline.tiles[index]? = some tile'.outline := by
      rw [← outline, getElem?_outline, found', Option.map_some]
    rw [getElem?_outline] at found
    obtain ⟨tile, found, same⟩ := Option.map_eq_some_iff.1 found
    exact (congrArg Tile.pixels same).symm.trans (h.pixels index tile found)
  backed := backed

variable {renderer : Renderer σ} {deadline : Nat} {pass pass' : TilePass α σ}

lemma visited (h : pass.cache.Depicts t content g)
    (draws : renderer.Draws g content)
    (visited : TilePass.Visited renderer window deadline pass index pass') :
    pass'.cache.Depicts t content g :=
  h.evolve (outline_visited visited) (h.backed.visited draws visited)

end PartCache.Depicts

/-- What a visit of tile `index` does to the surface and to the pending tiles. -/
inductive TilePass.Leaves (t : Tiling) (content : Nat → Bitmap) (window : PaintWindow)
    (index : Nat) (pass pass' : TilePass α σ) : Prop where
  | nothing (outside : t.count ≤ index) (surface : pass'.surface = pass.surface)
      (pending : pass'.pending = pass.pending)
  | copied (inside : index < t.count)
      (surface : pass'.surface =
        window.copyTile pass.surface (t.rect (t.cellOf index)) (content index))
      (pending : pass'.pending = pass.pending)
  | postponed (touched : TouchedTile) (pixels : touched.pixels = t.rect (t.cellOf index))
      (surface : pass'.surface = pass.surface)
      (pending : pass'.pending = pass.pending.push touched)

lemma TilePass.leaves {g deadline : Nat} {renderer : Renderer σ} {pass pass' : TilePass α σ}
    (depicts : pass.cache.Depicts t content g)
    (draws : renderer.Draws g content)
    (visited : Visited renderer window deadline pass index pass') :
    Leaves t content window index pass pass' := by
  cases visited with
  | missing none =>
      refine .nothing ?_ rfl rfl
      rw [← depicts.size]
      exact Array.getElem?_eq_none_iff.1 none
  | shown tile found valid =>
      obtain ⟨same, bitmap, hsame, ready, faithful⟩ := depicts.backed index valid
      rw [found, Option.some.injEq] at hsame
      subst hsame
      refine .copied (depicts.index_lt found) ?_ rfl
      have whole : bitmap = content index := faithful depicts.generation
      show (pass.present window (pass.touch index tile) tile.bitmap?).surface = _
      rw [Tile.bitmap?, ready, ← depicts.pixels index tile found, ← whole]
      rfl
  | drawn tile bitmap asks drew =>
      refine .copied (depicts.index_lt asks.found) ?_ rfl
      have whole : bitmap = content index := draws _ _ _ bitmap drew depicts.generation
      rw [← depicts.pixels index tile asks.found, ← whole]
      rfl
  | lent tile found | late tile found =>
      exact .postponed _ (depicts.pixels index tile found) rfl rfl
  | deferred tile asks | failed tile _ _ asks =>
      exact .postponed _ (depicts.pixels index tile asks.found) rfl rfl

/-- Surface pixel `q` shows the picture, or lies in a tile that is reported as pending. -/
def TilePass.Settles (t : Tiling) (content : Nat → Bitmap) (window : PaintWindow)
    (q : Point .device) (pass : TilePass α σ) : Prop :=
  pass.surface.Shows t content window.origin q ∨
    ∃ touched ∈ pass.pending, q.offset window.origin.x window.origin.y ∈ touched.pixels

namespace TilePass.Leaves

variable {pass pass' : TilePass α σ}

lemma shows (h : Leaves t content window index pass pass') (fits : t.Fits content)
    (before : pass.surface.Shows t content window.origin q) :
    pass'.surface.Shows t content window.origin q := by
  cases h with
  | nothing _ surface | postponed _ _ surface => rw [surface]; exact before
  | copied inside surface => rw [surface]; exact shows_copyTile_of_shows fits inside before

/-- What was settled stays settled. -/
lemma settles (h : Leaves t content window index pass pass') (fits : t.Fits content)
    (before : pass.Settles t content window q) : pass'.Settles t content window q := by
  rcases before with before | ⟨touched, mem, hp⟩
  · exact .inl (h.shows fits before)
  · refine .inr ⟨touched, ?_, hp⟩
    cases h with
    | nothing _ _ pending | copied _ _ pending => rw [pending]; exact mem
    | postponed _ _ _ pending => rw [pending]; exact Array.mem_push_of_mem _ mem

/-- A visit of its tile settles a pixel. -/
lemma settles_self (h : Leaves t content window index pass pass') (fits : t.Fits content)
    (hindex : index < t.count) (hbounds : q ∈ pass.surface.bounds) (hclip : q ∈ window.clip)
    (htile : q.offset window.origin.x window.origin.y ∈ t.rect (t.cellOf index)) :
    pass'.Settles t content window q := by
  cases h with
  | nothing outside => omega
  | copied inside surface =>
      refine .inl ?_
      rw [surface]
      exact shows_copyTile fits inside hbounds hclip htile
  | postponed touched pixels _ pending =>
      refine .inr ⟨touched, ?_, ?_⟩
      · rw [pending]
        exact Array.mem_push_self
      · rw [pixels]
        exact htile

end TilePass.Leaves

/-! ## Passes over a part -/

variable {g deadline : Nat} {renderer : Renderer σ} {c : PartCache α}

/-- **A pass never makes a pixel wrong.** -/
lemma PartCache.shows_sweep_of_shows (window : PaintWindow) (fits : t.Fits content)
    (depicts : c.Depicts t content g) (draws : renderer.Draws g content) (dirty : Rect .device)
    (s : σ) (before : surface.Shows t content window.origin q) :
    (c.sweep surface window dirty deadline renderer s).surface.Shows t content window.origin q := by
  refine (sweep_rec (P := fun pass => pass.cache.Depicts t content g ∧
    pass.surface.Shows t content window.origin q) c surface dirty s ⟨depicts, before⟩ ?_).2
  rintro pass index pass' visited ⟨depicts, shows⟩
  exact ⟨depicts.visited draws visited, (TilePass.leaves depicts draws visited).shows fits shows⟩

lemma PartCache.depicts_sweep (depicts : c.Depicts t content g)
    (draws : renderer.Draws g content)
    (surface : Bitmap) (window : PaintWindow) (dirty : Rect .device) (deadline : Nat) (s : σ) :
    (c.sweep surface window dirty deadline renderer s).cache.Depicts t content g := by
  refine sweep_rec (P := fun pass => pass.cache.Depicts t content g) c surface dirty s depicts ?_
  intro pass index pass' visited depicts
  exact depicts.visited draws visited

/-- The tiles still to be visited are `indices`; a pixel is settled already, or its tile is one of
them. -/
lemma TilePass.settles_foldl (fits : t.Fits content)
    (draws : renderer.Draws g content)
    (hcount : t.indexAt (q.offset window.origin.x window.origin.y) < t.count)
    (htile : q.offset window.origin.x window.origin.y ∈
      t.rect (t.cellOf (t.indexAt (q.offset window.origin.x window.origin.y))))
    (hclip : q ∈ window.clip) (indices : List Nat) (pass : TilePass α σ)
    (depicts : pass.cache.Depicts t content g) (hbounds : q ∈ pass.surface.bounds)
    (h : pass.Settles t content window q ∨
      t.indexAt (q.offset window.origin.x window.origin.y) ∈ indices) :
    (indices.foldl (visit renderer window deadline) pass).Settles t content window q := by
  induction indices generalizing pass with
  | nil => exact h.resolve_right List.not_mem_nil
  | cons index indices ih =>
      have visited : Visited renderer window deadline pass index _ := visited pass index
      have leaves := leaves depicts draws visited
      have size : (pass.visit renderer window deadline index).surface.bounds =
          pass.surface.bounds := congrArg Rect.ofSize (size_visited visited)
      refine ih _ (depicts.visited draws visited) (size.symm ▸ hbounds) ?_
      rcases h with before | mem
      · exact .inl (leaves.settles fits before)
      · rcases List.mem_cons.1 mem with rfl | later
        · exact .inl (leaves.settles_self fits hcount hbounds hclip htile)
        · exact .inr later

/-- **A pass settles every pixel that it works on.** -/
theorem PartCache.settles_sweep (window : PaintWindow) (deadline : Nat) (fits : t.Fits content)
    (hwidth : t.size.width ≤ Tiling.maxExtent) (hheight : t.size.height ≤ Tiling.maxExtent)
    (depicts : c.Depicts t content g) (draws : renderer.Draws g content)
    {dirty : Rect .device} (s : σ) (hbounds : q ∈ surface.bounds) (hclip : q ∈ window.clip)
    (hdirty : q.offset window.origin.x window.origin.y ∈ dirty)
    (hextent : q.offset window.origin.x window.origin.y ∈ Rect.ofSize t.size) :
    (c.sweep surface window dirty deadline renderer s).Settles t content window q := by
  rw [sweep, depicts.tiling]
  exact TilePass.settles_foldl fits draws (Tiling.indexAt_lt_count hextent hwidth hheight)
    (Tiling.mem_rect_indexAt hextent hwidth) hclip _ _ depicts hbounds
    (.inr (Tiling.indexAt_mem_overlapping hdirty hextent))

end Pass

end TiledView
