import TiledView.Cache.Document
import TiledView.Proofs.Cache.Visit
import TiledView.Proofs.Tiling

/-!
# What drawing and invalidation leave alone

The *outline* of a part cache is the cache as it was before anything was drawn: every tile empty, of
epoch zero and not valid.  Invalidation, paint passes and late results change slots, epochs and
validity only, so they all keep the outline, and with it the part, the scale, the document size, the
generation and the pixels of every tile.

* `PartCache.outline_build` — a new cache is its own outline.
* `PartCache.outline_sweep`, `PartCache.outline_invalidate`, `PartCache.outline_takeBack` — the
  operations keep it.
* `PartCache.pixels_of_outline`, `PartCache.bounds_of_outline` — how a tile's rectangles are read off
  it.

`DocumentCache.outline` is the same for all parts at once.
-/

namespace TiledView

variable {α β σ : Type}

section Views

variable (xs : Array α) (i : Nat) {g : α → β}

/-- An update of one entry that a view does not see. -/
lemma map_modify_eq_map {f : α → α} (hf : ∀ a, g (f a) = g a) :
    (xs.modify i f).map g = xs.map g := by
  refine Array.ext_getElem? fun j => ?_
  rw [Array.getElem?_map, Array.getElem?_map, Array.getElem?_modify]
  split_ifs
  · cases xs[j]? with
    | none => rfl
    | some a => exact congrArg some (hf a)
  · rfl

/-- A replacement of one entry that a view does not see. -/
lemma map_setIfInBounds_eq_map {a b : α} (found : xs[i]? = some a) (hb : g b = g a) :
    (xs.setIfInBounds i b).map g = xs.map g := by
  refine Array.ext_getElem? fun j => ?_
  rw [Array.getElem?_map, Array.getElem?_map, Array.getElem?_setIfInBounds]
  split_ifs with here inside
  · rw [← here, found]
    exact congrArg some hb
  · rw [← here, Array.getElem?_eq_none (by omega)]
  · rfl

end Views

/-- The tile before anything was drawn. -/
def Tile.outline (t : Tile) : Tile := { t with slot := .empty, epoch := 0 }

namespace PartCache

/-- The cache before anything was drawn. -/
def outline (c : PartCache α) : PartCache α :=
  { c with tiles := c.tiles.map Tile.outline, valid := .noneOf c.tiles.size }

variable {c : PartCache α}

lemma outline_modify (index : Nat) (valid : TileSet) {f : Tile → Tile}
    (hf : ∀ t, (f t).outline = t.outline) :
    outline { c with tiles := c.tiles.modify index f, valid } = c.outline := by
  simp only [outline, map_modify_eq_map c.tiles index hf, Array.size_modify]

@[simp] lemma outline_setSlot (index : Nat) (slot : TileSlot) :
    (c.setSlot index slot).outline = c.outline := outline_modify index _ fun _ => rfl

@[simp] lemma outline_markValid (index : Nat) : (c.markValid index).outline = c.outline := rfl

@[simp] lemma outline_invalidateTile (index : Nat) :
    (c.invalidateTile index).outline = c.outline := outline_modify index _ fun _ => rfl

@[simp] lemma outline_invalidateAll : c.invalidateAll.outline = c.outline := by
  have same : Tile.outline ∘ Tile.raiseEpoch = Tile.outline := rfl
  simp only [outline, invalidateAll, Array.map_map, Array.size_map, same]

lemma outline_foldl_invalidateTile (touched : List Nat) (c : PartCache α) :
    (touched.foldl invalidateTile c).outline = c.outline := by
  induction touched generalizing c with
  | nil => rfl
  | cons index touched ih => rw [List.foldl_cons, ih, outline_invalidateTile]

@[simp] lemma outline_invalidate [Arithmetic α] (area : Rect .twips) :
    (c.invalidate area).2.outline = c.outline := outline_foldl_invalidateTile _ c

@[simp] lemma outline_takeBack (key : TileKey) (outcome : DrawOutcome) :
    (c.takeBack key outcome).2.outline = c.outline := by
  rcases c.takeBack_eq key outcome with
    same | ⟨tile, -, -, -, ⟨bitmap, -, -, same⟩ | ⟨slot, same⟩⟩ <;> rw [same]
  · exact (outline_markValid _).trans (outline_setSlot key.index _)
  · exact outline_setSlot key.index _

lemma outline_visited {renderer : Renderer σ} {window : PaintWindow} {deadline index : Nat}
    {pass pass' : TilePass α σ}
    (visited : TilePass.Visited renderer window deadline pass index pass') :
    pass'.cache.outline = pass.cache.outline := by
  cases visited with
  | missing | shown | lent | late => rfl
  | drawn => exact (outline_markValid index).trans (outline_setSlot index _)
  | deferred | failed => exact outline_setSlot index _

@[simp] theorem outline_sweep (surface : Bitmap) (window : PaintWindow) (dirty : Rect .device)
    (deadline : Nat) (renderer : Renderer σ) (s : σ) :
    (c.sweep surface window dirty deadline renderer s).cache.outline = c.outline := by
  refine sweep_rec (P := fun pass => pass.cache.outline = c.outline) c surface dirty s rfl ?_
  intro pass index pass' visited ih
  exact (outline_visited visited).trans ih

/-! ## Reading the outline -/

/-- What an operation that keeps the outline keeps with it. -/
lemma outline_fields {c' : PartCache α} (h : c'.outline = c.outline) :
    c'.part = c.part ∧ c'.scale = c.scale ∧ c'.generation = c.generation ∧
      c'.documentSize = c.documentSize ∧ c'.tiling = c.tiling := by
  simp only [outline, PartCache.mk.injEq] at h
  exact ⟨h.1, h.2.1, h.2.2.1, h.2.2.2.1, h.2.2.2.2.1⟩

lemma size_tiles_eq_of_outline {c' : PartCache α} (h : c'.outline = c.outline) :
    c'.tiles.size = c.tiles.size := by
  simpa only [outline, Array.size_map] using congrArg (·.tiles.size) h

/-- A cache is new when nothing distinguishes it from its outline. -/
@[simp] lemma outline_build [Arithmetic α] (part : Nat) (scale : Scale α)
    (documentSize : Size .twips) (tileEdge generation : Nat) :
    (build part scale documentSize tileEdge generation).outline =
      build part scale documentSize tileEdge generation := by
  have same : ∀ cell tiling, Tile.outline (freshTile scale tiling cell) =
      freshTile scale tiling cell := fun _ _ => rfl
  simp only [outline, build, Array.map_map, Array.size_map, Array.size_range]
  simp only [Function.comp_def, same]

lemma getElem?_outline (index : Nat) :
    c.outline.tiles[index]? = c.tiles[index]?.map Tile.outline := Array.getElem?_map

section Built

variable [Arithmetic α] {part tileEdge generation index : Nat} {scale : Scale α}
  {documentSize : Size .twips} {tile : Tile}

/-- Each tile is the one of its cell, up to what has been drawn. -/
lemma fresh_of_outline
    (built : c.outline = build part scale documentSize tileEdge generation)
    (found : c.tiles[index]? = some tile) :
    tile.outline = freshTile c.scale c.tiling (c.tiling.cellOf index) := by
  have hfound : c.outline.tiles[index]? = some tile.outline := by
    rw [getElem?_outline, found, Option.map_some]
  show tile.outline = freshTile c.outline.scale c.outline.tiling (c.outline.tiling.cellOf index)
  rw [built, build, Array.getElem?_map, Array.getElem?_range, Option.map_eq_some_iff] at hfound
  obtain ⟨i, hi, same⟩ := hfound
  rw [Option.ite_none_right_eq_some, Option.some.injEq] at hi
  obtain ⟨-, rfl⟩ := hi
  rw [built]
  exact same.symm

/-- Each tile has the pixels of its cell. -/
lemma pixels_of_outline
    (built : c.outline = build part scale documentSize tileEdge generation)
    (found : c.tiles[index]? = some tile) :
    tile.pixels = c.tiling.rect (c.tiling.cellOf index) :=
  congrArg Tile.pixels (fresh_of_outline built found)

/-- Each tile has its pixel edges for bounds, rounded to the nearest twips. -/
lemma bounds_of_outline
    (built : c.outline = build part scale documentSize tileEdge generation)
    (found : c.tiles[index]? = some tile) :
    tile.bounds = .ofEdges (c.scale.nearestTwip tile.pixels.x) (c.scale.nearestTwip tile.pixels.y)
      (c.scale.nearestTwip tile.pixels.right) (c.scale.nearestTwip tile.pixels.bottom) := by
  rw [pixels_of_outline built found]
  exact congrArg Tile.bounds (fresh_of_outline built found)

/-- There is a tile for every index. -/
lemma size_tiles_of_outline
    (built : c.outline = build part scale documentSize tileEdge generation) :
    c.tiles.size = c.tiling.count := by
  have hsize : c.outline.tiles.size = c.tiles.size := Array.size_map
  show c.tiles.size = c.outline.tiling.count
  rw [← hsize, built, build, Array.size_map, Array.size_range]

end Built

end PartCache

namespace DocumentCache

/-- The caches of all parts before anything was drawn. -/
def outline (d : DocumentCache) : DocumentCache :=
  { d with parts := d.parts.map PartCache.outline }

variable {d : DocumentCache}

lemma getElem?_outline (part : Nat) :
    d.outline.parts[part]? = d.parts[part]?.map PartCache.outline := Array.getElem?_map

lemma outline_fields {d' : DocumentCache} (h : d'.outline = d.outline) :
    d'.tileEdge = d.tileEdge ∧ d'.nextGeneration = d.nextGeneration := by
  simp only [outline, DocumentCache.mk.injEq] at h
  exact ⟨h.1, h.2.2⟩

@[simp] lemma size_outline : d.outline.parts.size = d.parts.size := Array.size_map

lemma size_of_outline {d' : DocumentCache} (h : d'.outline = d.outline) :
    d'.parts.size = d.parts.size := by
  rw [← size_outline, h, size_outline]

/-- Where outlines agree, a part cache stands at the place of every other one. -/
lemma part_of_outline {d' : DocumentCache} (h : d'.outline = d.outline) {part : Nat}
    {c : PartCache Float} (found : d.parts[part]? = some c) :
    ∃ c', d'.parts[part]? = some c' ∧ c'.outline = c.outline := by
  have same : d'.outline.parts[part]? = some c.outline := by
    rw [h, getElem?_outline, found, Option.map_some]
  rw [getElem?_outline] at same
  exact Option.map_eq_some_iff.1 same

lemma outline_modifyPart (part : Nat) {f : PartCache Float → PartCache Float}
    (hf : ∀ c, (f c).outline = c.outline) : (d.modifyPart part f).outline = d.outline := by
  simp only [outline, modifyPart, map_modify_eq_map d.parts part hf]

lemma outline_setPart {part : Nat} {c cache : PartCache Float} (found : d.parts[part]? = some c)
    (h : cache.outline = c.outline) : (d.setPart part cache).outline = d.outline := by
  simp only [outline, setPart, map_setIfInBounds_eq_map d.parts part found h]

@[simp] lemma outline_invalidateAll : d.invalidateAll.outline = d.outline := by
  have same : PartCache.outline ∘ PartCache.invalidateAll (α := Float) = PartCache.outline :=
    funext fun c => c.outline_invalidateAll
  simp only [outline, invalidateAll, Array.map_map, same]

@[simp] lemma outline_takeBack (key : TileKey) (outcome : DrawOutcome) :
    (d.takeBack key outcome).2.outline = d.outline := by
  rw [takeBack]
  split
  · rfl
  · next cache found => exact outline_setPart found (cache.outline_takeBack key outcome)

end DocumentCache

end TiledView
