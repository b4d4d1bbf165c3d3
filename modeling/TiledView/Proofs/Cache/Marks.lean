import TiledView.Proofs.Cache.Lending

/-!
# Every tile can be marked

A part cache marks its valid tiles in a set of a fixed capacity, and marking a tile beyond it is
without effect.  `PartCache.Marks c` says that the capacity is the number of tiles, so that a tile
which is drawn does become valid (`PartCache.Marks.contains_markValid`).  It holds of every cache
that is built, and nothing that happens to the caches of a document changes it
(`DocumentCache.Marks.act`).
-/

namespace TiledView

/-! ## Capacity -/

namespace TileSet

lemma capacity_insert (s : TileSet) (index : Nat) : (s.insert index).2.capacity = s.capacity := by
  rw [insert]
  split_ifs
  · exact Array.size_setIfInBounds
  · rfl

lemma capacity_erase (s : TileSet) (index : Nat) : (s.erase index).2.capacity = s.capacity := by
  rw [erase]
  split_ifs
  · exact Array.size_setIfInBounds
  · rfl

lemma capacity_noneOf (count : Nat) : (noneOf count).capacity = count := Array.size_replicate

end TileSet

/-! ## Part caches -/

namespace PartCache

variable {α σ : Type} {c : PartCache α} {index : Nat}

/-- There is room in the set of the valid tiles for each tile. -/
def Marks (c : PartCache α) : Prop := c.valid.capacity = c.tiles.size

namespace Marks

lemma build [Arithmetic α] (part : Nat) (scale : Scale α) (documentSize : Size .twips)
    (tileEdge generation : Nat) : (build part scale documentSize tileEdge generation).Marks := by
  rw [Marks, PartCache.build]
  simp only [TileSet.capacity_noneOf, Array.size_map, Array.size_range]

lemma setSlot (h : c.Marks) (index : Nat) (slot : TileSlot) : (c.setSlot index slot).Marks :=
  Eq.trans h (Array.size_modify (f := fun tile : Tile => { tile with slot })).symm

lemma markValid (h : c.Marks) (index : Nat) : (c.markValid index).Marks :=
  (c.valid.capacity_insert index).trans h

lemma invalidateAll (h : c.Marks) : c.invalidateAll.Marks := by
  rw [Marks, PartCache.invalidateAll, TileSet.clear, TileSet.capacity_noneOf, Array.size_map]
  exact h

lemma invalidateTile (h : c.Marks) (index : Nat) : (c.invalidateTile index).Marks := by
  rw [Marks, PartCache.invalidateTile, Array.size_modify, TileSet.capacity_erase]
  exact h

lemma invalidate [Arithmetic α] (h : c.Marks) (area : Rect .twips) : (c.invalidate area).2.Marks :=
  List.foldlRecOn (motive := Marks) (c.intersecting area) PartCache.invalidateTile h
    fun _ ih index _ => ih.invalidateTile index

lemma takeBack (h : c.Marks) (key : TileKey) (outcome : DrawOutcome) :
    (c.takeBack key outcome).2.Marks := by
  rcases c.takeBack_eq key outcome with
    same | ⟨tile, -, -, -, ⟨bitmap, -, -, same⟩ | ⟨slot, same⟩⟩ <;> rw [same]
  · exact h
  · exact (h.setSlot key.index _).markValid key.index
  · exact h.setSlot key.index slot

lemma visited {renderer : Renderer σ} {window : PaintWindow} {deadline : Nat}
    {pass pass' : TilePass α σ} (h : pass.cache.Marks)
    (visited : TilePass.Visited renderer window deadline pass index pass') :
    pass'.cache.Marks := by
  cases visited with
  | missing | shown | lent | late => exact h
  | drawn => exact (h.setSlot index _).markValid index
  | deferred | failed => exact h.setSlot index _

lemma sweep (h : c.Marks) (surface : Bitmap) (window : PaintWindow) (dirty : Rect .device)
    (deadline : Nat) (renderer : Renderer σ) (s : σ) :
    (c.sweep surface window dirty deadline renderer s).cache.Marks :=
  sweep_rec (P := fun pass => pass.cache.Marks) c surface dirty s h
    fun _ _ _ visited ih => ih.visited visited

/-- **A tile that is marked becomes valid**, and the others stay as they are. -/
theorem contains_markValid (h : c.Marks) (index other : Nat) :
    (c.markValid index).valid.contains other =
      (c.valid.contains other || (other == index && decide (index < c.tiles.size))) := by
  rw [PartCache.markValid, TileSet.contains_insert, show c.valid.capacity = c.tiles.size from h]

/-- A bitmap that is taken in makes its tile valid. -/
lemma contains_takeIn (h : c.Marks) {tile : Tile} (found : c.tiles[index]? = some tile)
    (slot : TileSlot) : ((c.setSlot index slot).markValid index).valid.contains index = true := by
  have there : (c.setSlot index slot).tiles[index]? = some { tile with slot } :=
    getElem?_setSlot_self found
  obtain ⟨inside, -⟩ := Array.getElem?_eq_some_iff.1 there
  rw [(h.setSlot index slot).contains_markValid, beq_self_eq_true, decide_eq_true inside,
    Bool.and_self, Bool.or_true]

end Marks

end PartCache

/-! ## The caches of a document -/

namespace DocumentCache

variable {d : DocumentCache}

def Marks (d : DocumentCache) : Prop :=
  ∀ (part : Nat) (c : PartCache Float), d.parts[part]? = some c → c.Marks

namespace Marks

lemma of_empty (none : d.parts = #[]) : d.Marks := by
  intro part c found
  rw [none, Array.getElem?_empty] at found
  cases found

lemma modifyPart (h : d.Marks) {part : Nat} {f : PartCache Float → PartCache Float}
    (marks : ∀ c, c.Marks → (f c).Marks) : (d.modifyPart part f).Marks := by
  intro other c' found'
  obtain ⟨c, found, ⟨-, rfl⟩ | ⟨-, rfl⟩⟩ := getElem?_modifyPart found'
  · exact marks c (h other c found)
  · exact h other c' found

lemma setPart (h : d.Marks) (part : Nat) {c : PartCache Float} (marks : c.Marks) :
    (d.setPart part c).Marks := by
  intro other c' found'
  rw [show (d.setPart part c).parts = d.parts.setIfInBounds part c from rfl,
    Array.getElem?_setIfInBounds] at found'
  split_ifs at found'
  · exact Option.some.inj found' ▸ marks
  · exact h other c' found'

lemma fit (h : d.Marks) (count : Nat) (scale : ViewScale) (documentSize : Size .twips) :
    (d.fit count scale documentSize).Marks := by
  obtain ⟨-, size, -, fitted⟩ := d.fit_spec count scale documentSize
  intro part c' found'
  obtain ⟨inside, -⟩ := Array.getElem?_eq_some_iff.1 found'
  obtain ⟨c, found, origin⟩ := fitted part (size ▸ inside)
  obtain rfl := Option.some.inj (found.symm.trans found')
  cases origin with
  | kept _ found => exact h part c found
  | built => exact .build _ _ _ _ _

lemma invalidateAll (h : d.Marks) : d.invalidateAll.Marks := by
  intro part c' found'
  rw [DocumentCache.invalidateAll, Array.getElem?_map] at found'
  obtain ⟨c, found, rfl⟩ := Option.map_eq_some_iff.1 found'
  exact (h part c found).invalidateAll

/-- **Nothing that happens to the caches takes the room from a tile.** -/
theorem act (h : d.Marks) (action : CacheAction) : (d.act action).Marks := by
  cases action with
  | fit count scale documentSize => exact h.fit count scale documentSize
  | clear => exact of_empty rfl
  | staleAll => exact h.invalidateAll
  | stalePart part => exact h.modifyPart fun _ marks => marks.invalidateAll
  | staleArea part area => exact h.modifyPart fun _ marks => marks.invalidate area
  | paint part surface window dirty deadline renderer s =>
      exact h.modifyPart fun _ marks => marks.sweep surface window dirty deadline renderer s
  | late key outcome =>
      rw [DocumentCache.act, takeBack_eq_modifyPart]
      exact h.modifyPart fun _ marks => marks.takeBack key outcome

end Marks

end DocumentCache

end TiledView
