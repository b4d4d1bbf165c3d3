import TiledView.Proofs.Cache.Visit

/-!
# Valid tiles are backed by drawings

`PartCache.Backed shown c` says that every valid tile of `c` holds a bitmap, and that `shown`
relates this bitmap to the key that a job for the tile would have *now*: the generation of the
cache, and the part, the index and the epoch of the tile.  What `shown` is, is left open.  It may be
a list of everything that was ever drawn, or the promise that a drawing for some tile always looks
the same.

Invalidation keeps `Backed` since it takes validity away before it touches an epoch.  The two ways
for a tile to become valid keep it under the condition that the drawing just taken in is in `shown`:

* `PartCache.Backed.takeBack` — a late result;
* `PartCache.Backed.takeIn` — an answer during a paint pass.
-/

namespace TiledView

namespace PartCache

variable {α σ : Type} {shown : TileKey → Bitmap → Prop} {c : PartCache α}

/-- Every valid tile holds a bitmap that `shown` relates to the tile's present key. -/
def Backed (shown : TileKey → Bitmap → Prop) (c : PartCache α) : Prop :=
  ∀ index, c.valid.contains index = true → ∃ tile bitmap,
    c.tiles[index]? = some tile ∧ tile.slot = .ready bitmap ∧ shown (c.keyOf index tile) bitmap

namespace Backed

lemma mono {shown' : TileKey → Bitmap → Prop} (h : c.Backed shown)
    (le : ∀ key bitmap, shown key bitmap → shown' key bitmap) : c.Backed shown' := by
  intro index valid
  obtain ⟨tile, bitmap, found, ready, hshown⟩ := h index valid
  exact ⟨tile, bitmap, found, ready, le _ _ hshown⟩

lemma of_noneOf (count : Nat) (h : c.valid = .noneOf count) : c.Backed shown := by
  intro index valid
  rw [h, TileSet.contains_noneOf] at valid
  exact absurd valid Bool.false_ne_true

lemma build [Arithmetic α] (part : Nat) (scale : Scale α) (documentSize : Size .twips)
    (tileEdge generation : Nat) :
    (build part scale documentSize tileEdge generation).Backed shown := of_noneOf _ rfl

/-! ## Invalidation -/

lemma invalidateAll (c : PartCache α) : c.invalidateAll.Backed shown := of_noneOf _ rfl

/-- The tile itself is not valid any more, and the others are as they were. -/
lemma invalidateTile (h : c.Backed shown) (index : Nat) :
    (c.invalidateTile index).Backed shown := by
  intro other valid
  rw [PartCache.invalidateTile, TileSet.contains_erase, Bool.and_eq_true, bne_iff_ne] at valid
  obtain ⟨tile, bitmap, found, ready, hshown⟩ := h other valid.1
  refine ⟨tile, bitmap, ?_, ready, hshown⟩
  rw [PartCache.invalidateTile, Array.getElem?_modify, if_neg (Ne.symm valid.2), found]

lemma invalidate [Arithmetic α] (h : c.Backed shown) (area : Rect .twips) :
    (c.invalidate area).2.Backed shown := by
  refine List.foldlRecOn (c.intersecting area) _ h ?_
  intro c h index _
  exact h.invalidateTile index

/-! ## Taking bitmaps in -/

/-- Only the slot of a tile that is not valid may change. -/
lemma setSlot (h : c.Backed shown) {index : Nat} (invalid : c.valid.contains index = false)
    (slot : TileSlot) : (c.setSlot index slot).Backed shown := by
  intro other valid
  have apart : index ≠ other := by
    rintro rfl
    rw [valid_setSlot, invalid] at valid
    exact Bool.false_ne_true valid
  obtain ⟨tile, bitmap, found, ready, hshown⟩ := h other valid
  exact ⟨tile, bitmap, by rw [getElem?_setSlot_of_ne apart, found], ready, hshown⟩

/-- A tile may become valid once it holds a bitmap that was drawn for its present key. -/
lemma markValid (h : c.Backed shown) {index : Nat} {tile : Tile} {bitmap : Bitmap}
    (found : c.tiles[index]? = some tile) (ready : tile.slot = .ready bitmap)
    (drawn : shown (c.keyOf index tile) bitmap) : (c.markValid index).Backed shown := by
  intro other valid
  rcases contains_markValid valid with valid | rfl
  · exact h other valid
  · exact ⟨tile, bitmap, found, ready, drawn⟩

/-- A bitmap drawn for the present key of a tile that was not valid. -/
lemma takeIn (h : c.Backed shown) {index : Nat} {tile : Tile} {bitmap : Bitmap}
    (found : c.tiles[index]? = some tile) (invalid : c.valid.contains index = false)
    (drawn : shown (c.keyOf index tile) bitmap) :
    ((c.setSlot index (.ready bitmap)).markValid index).Backed shown :=
  (h.setSlot invalid _).markValid (getElem?_setSlot_self found) rfl drawn

/-- The bitmap of a valid tile is with the tile. -/
lemma invalid_of_isLent (h : c.Backed shown) {index : Nat} {tile : Tile}
    (found : c.tiles[index]? = some tile) (away : tile.isLent = true) :
    c.valid.contains index = false := by
  rw [← Bool.not_eq_true]
  intro valid
  obtain ⟨same, bitmap, hsame, ready, -⟩ := h index valid
  rw [found, Option.some.injEq] at hsame
  subst hsame
  rw [Tile.isLent, ready] at away
  exact Bool.false_ne_true away

theorem takeBack (h : c.Backed shown) {key : TileKey} {outcome : DrawOutcome}
    (part : key.part = c.part)
    (drawn : ∀ bitmap, outcome = .drawn bitmap → shown key bitmap) :
    (c.takeBack key outcome).2.Backed shown := by
  rcases c.takeBack_eq key outcome with
    same | ⟨tile, found, generation, lent, ⟨bitmap, rfl, epoch, same⟩ | ⟨slot, same⟩⟩ <;> rw [same]
  · exact h
  · have now : c.keyOf key.index tile = key := by
      rw [PartCache.keyOf, ← generation, ← part, ← epoch]
    exact h.takeIn found (h.invalid_of_isLent found lent) (now ▸ drawn bitmap rfl)
  · exact h.setSlot (h.invalid_of_isLent found lent) slot

/-- A visit keeps a cache backed when its renderer draws nothing but what is in `shown`. -/
lemma visited {renderer : Renderer σ} {window : PaintWindow} {deadline index : Nat}
    {pass pass' : TilePass α σ} (h : pass.cache.Backed shown)
    (draws : ∀ job deadline s bitmap,
      (renderer.draw job deadline s).1 = .drawn bitmap → shown job.key bitmap)
    (visited : TilePass.Visited renderer window deadline pass index pass') :
    pass'.cache.Backed shown := by
  cases visited with
  | missing | shown | lent | late => exact h
  | drawn tile bitmap asks drew =>
      exact h.takeIn asks.found asks.invalid (draws _ _ _ bitmap drew)
  | deferred tile asks => exact h.setSlot asks.invalid _
  | failed tile bitmap error asks => exact h.setSlot asks.invalid _

end Backed

end PartCache

end TiledView
