import TiledView.Cache.Pass
import Mathlib.Tactic.Common

/-!
# What a paint pass does to one tile

`TilePass.Visited` lists everything that a visit of a tile can come to, one constructor for each:
the tile is missing, shown as it is, still lent, out of time, drawn, deferred or failed.
`TilePass.visited` says that there is nothing else, and `PartCache.sweep_rec` carries a property of
passes through all the visits of a paint.  No proof about paint passes opens `TilePass.visit` after
this file.

`PartCache.takeBack_eq` does the same for a result that arrives after its pass.

Two facts about part caches are used with these everywhere.  The tile of an index depends on the
slot and the epoch of no other tile (`getElem?_setSlot`), and only a drawn tile enters the valid
ones.
-/

namespace TiledView

variable {α σ : Type}

namespace TilePass

/-- State in which the renderer is asked to draw: the clock has been read. -/
def asked (renderer : Renderer σ) (pass : TilePass α σ) : σ := (renderer.now pass.renderer).2

/-- The answer of the renderer for a tile, and the state it leaves the renderer in. -/
def answer (renderer : Renderer σ) (deadline : Nat) (pass : TilePass α σ) (index : Nat)
    (tile : Tile) : DrawOutcome × σ :=
  renderer.draw (pass.cache.jobOf index tile) deadline (asked renderer pass)

/-- A pass that has tile `index`, which is `tile`, drawn when it comes to it: the bitmap is at home,
the tile is not valid and there is time left. -/
structure Asks (renderer : Renderer σ) (deadline : Nat) (pass : TilePass α σ) (index : Nat)
    (tile : Tile) : Prop where
  found : pass.cache.tiles[index]? = some tile
  invalid : pass.cache.valid.contains index = false
  home : tile.isLent = false
  inTime : (renderer.now pass.renderer).1 < deadline

/-- What a visit of tile `index` can make of a pass. -/
inductive Visited (renderer : Renderer σ) (window : PaintWindow) (deadline : Nat)
    (pass : TilePass α σ) (index : Nat) : TilePass α σ → Prop where
  | missing (none : pass.cache.tiles[index]? = none) :
      Visited renderer window deadline pass index pass
  | shown (tile : Tile) (found : pass.cache.tiles[index]? = some tile)
      (valid : pass.cache.valid.contains index = true) :
      Visited renderer window deadline pass index
        (pass.present window (pass.touch index tile) tile.bitmap?)
  | lent (tile : Tile) (found : pass.cache.tiles[index]? = some tile)
      (invalid : pass.cache.valid.contains index = false) (away : tile.isLent = true) :
      Visited renderer window deadline pass index (pass.postpone (pass.touch index tile))
  | late (tile : Tile) (found : pass.cache.tiles[index]? = some tile)
      (invalid : pass.cache.valid.contains index = false) (home : tile.isLent = false)
      (expired : deadline ≤ (renderer.now pass.renderer).1) :
      Visited renderer window deadline pass index
        ({ pass with renderer := asked renderer pass }.postpone (pass.touch index tile))
  | drawn (tile : Tile) (bitmap : Bitmap) (asks : Asks renderer deadline pass index tile)
      (drew : (answer renderer deadline pass index tile).1 = .drawn bitmap) :
      Visited renderer window deadline pass index
        ({ pass with
          cache := (pass.cache.setSlot index (.ready bitmap)).markValid index
          renderer := (answer renderer deadline pass index tile).2 }.present window
            (pass.touch index tile) (some bitmap))
  | deferred (tile : Tile) (asks : Asks renderer deadline pass index tile)
      (drew : (answer renderer deadline pass index tile).1 = .deferred) :
      Visited renderer window deadline pass index
        ({ pass with
          cache := pass.cache.setSlot index .lent
          renderer := (answer renderer deadline pass index tile).2 }.postpone
            (pass.touch index tile))
  | failed (tile : Tile) (bitmap : Bitmap) (error : DrawError)
      (asks : Asks renderer deadline pass index tile)
      (drew : (answer renderer deadline pass index tile).1 = .failed bitmap error) :
      Visited renderer window deadline pass index
        ({ pass with
          cache := pass.cache.setSlot index (.ready bitmap)
          renderer := (answer renderer deadline pass index tile).2 }.postpone
            (pass.touch index tile))

variable {renderer : Renderer σ} {window : PaintWindow} {deadline : Nat}

theorem visited (pass : TilePass α σ) (index : Nat) :
    Visited renderer window deadline pass index
      (pass.visit renderer window deadline index) := by
  rw [visit]
  split
  · next none => exact .missing none
  · next tile found =>
    dsimp only
    split
    · next valid => exact .shown tile found valid
    · next invalid =>
      rw [Bool.not_eq_true] at invalid
      split_ifs with away expired
      · exact .lent tile found invalid away
      · exact .late tile found invalid (Bool.eq_false_iff.2 away) expired
      · have asks : Asks renderer deadline pass index tile :=
          ⟨found, invalid, Bool.eq_false_iff.2 away, Nat.lt_of_not_le expired⟩
        simp only [draw]
        split
        · next bitmap drew => exact .drawn tile bitmap asks drew
        · next drew => exact .deferred tile asks drew
        · next bitmap error drew => exact .failed tile bitmap error asks drew

end TilePass

namespace PartCache

open TilePass

/-- A property that every visit keeps holds at the end of a paint. -/
theorem sweep_rec {renderer : Renderer σ} {window : PaintWindow} {deadline : Nat}
    {P : TilePass α σ → Prop} (c : PartCache α) (surface : Bitmap) (dirty : Rect .device) (s : σ)
    (start : P { cache := c, surface, ready := #[], pending := #[], renderer := s })
    (step : ∀ pass index pass', Visited renderer window deadline pass index pass' →
      P pass → P pass') :
    P (c.sweep surface window dirty deadline renderer s) := by
  rw [sweep]
  refine List.foldlRecOn _ _ start ?_
  intro pass hpass index _
  exact step pass index _ (visited pass index) hpass

/-! ## Late results -/

/-- What a late result can come to.  One that is not for a lent tile of this cache changes nothing;
of the others, a bitmap of the present epoch may be shown, and the rest only gives the slot back. -/
theorem takeBack_eq (c : PartCache α) (key : TileKey) (outcome : DrawOutcome) :
    (c.takeBack key outcome).2 = c ∨
    ∃ tile, c.tiles[key.index]? = some tile ∧ key.generation = c.generation ∧
      tile.isLent = true ∧
      ((∃ bitmap, outcome = .drawn bitmap ∧ key.epoch = tile.epoch ∧
          (c.takeBack key outcome).2 =
            (c.setSlot key.index (.ready bitmap)).markValid key.index) ∨
        ∃ slot, (c.takeBack key outcome).2 = c.setSlot key.index slot) := by
  rw [takeBack]
  split
  · exact .inl rfl
  · next tile found =>
    split_ifs with mine
    · refine .inr ⟨tile, found, mine.1, mine.2, ?_⟩
      cases outcome with
      | drawn bitmap =>
          dsimp only
          split_ifs with current
          · exact .inl ⟨bitmap, rfl, current.1, rfl⟩
          · exact .inr ⟨_, rfl⟩
      | failed | deferred => exact .inr ⟨_, rfl⟩
    · exact .inl rfl

/-! ## Tiles and validity after an update -/

variable {c : PartCache α} {index other : Nat}

lemma getElem?_setSlot (slot : TileSlot) : (c.setSlot index slot).tiles[other]? =
    if index = other then c.tiles[other]?.map ({ · with slot }) else c.tiles[other]? :=
  Array.getElem?_modify

lemma getElem?_setSlot_self {slot : TileSlot} {tile : Tile} (found : c.tiles[index]? = some tile) :
    (c.setSlot index slot).tiles[index]? = some { tile with slot } := by
  rw [getElem?_setSlot, if_pos rfl, found]
  rfl

lemma getElem?_setSlot_of_ne {slot : TileSlot} (apart : index ≠ other) :
    (c.setSlot index slot).tiles[other]? = c.tiles[other]? := by
  rw [getElem?_setSlot, if_neg apart]

@[simp] lemma valid_setSlot (slot : TileSlot) : (c.setSlot index slot).valid = c.valid := rfl

lemma contains_markValid (h : (c.markValid index).valid.contains other = true) :
    c.valid.contains other = true ∨ other = index := by
  rw [markValid, TileSet.contains_insert, Bool.or_eq_true, Bool.and_eq_true, beq_iff_eq] at h
  exact h.imp_right And.left

end PartCache

end TiledView
