import Mathlib.Logic.Relation
import TiledView.Proofs.Cache.Classification
import TiledView.Proofs.Cache.Evolution
import TiledView.Proofs.Cache.Tally

/-!
# Slots, bits and the count agree

What a part cache knows about a tile is written down in three places: the slot of the tile, its bit
among the valid tiles, and the running count of these.  Each operation updates them one by one.
`PartCache.Consistent` says that they never contradict each other, and
`PartCache.Reachable.consistent` that this is so after any calls.

Late results come with any key.  A bitmap for a lent tile is taken in for its generation, index and
epoch alone, whether or not a job with this key was ever made.  So a valid tile is sure to hold a
bitmap (`PartCache.backed_step`), but nothing is said here about what it shows.

Time goes one way: an epoch never falls, and the generation stays what it was
(`PartCache.Precedes`).
-/

namespace TiledView

namespace PartCache

variable {α : Type} {c c' : PartCache α}

/-- The slots, the bits of the valid tiles and their count do not contradict each other. -/
structure Consistent (c : PartCache α) : Prop where
  /-- There is one bit for each tile. -/
  bits : c.valid.bits.size = c.tiles.size
  count : c.valid.card = c.valid.bits.count true
  full : c.valid.isFull = true ↔ ∀ index < c.tiles.size, c.valid.contains index = true
  /-- A tile that is valid can be shown. -/
  held : ∀ index, c.valid.contains index = true →
    ∃ tile bitmap, c.tiles[index]? = some tile ∧ tile.bitmap? = some bitmap
  lent : ∀ index tile, c.tiles[index]? = some tile → tile.isLent = true →
    c.valid.contains index = false

/-- `c'` is `c` at a later time: the same cache, with no epoch lower than it was. -/
structure Precedes (c c' : PartCache α) : Prop where
  generation : c'.generation = c.generation
  size : c'.tiles.size = c.tiles.size
  epoch : ∀ (index : Nat) (tile tile' : Tile), c.tiles[index]? = some tile →
    c'.tiles[index]? = some tile' → tile.epoch ≤ tile'.epoch

lemma bitmap?_of_ready {tile : Tile} {bitmap : Bitmap} (ready : tile.slot = .ready bitmap) :
    tile.bitmap? = some bitmap := by
  rw [Tile.bitmap?, ready]

/-- What the three invariants come to together. -/
lemma Consistent.of_invariants (marks : c.Marks) (counts : c.valid.Counts)
    (backed : c.Backed fun _ _ => True) : c.Consistent where
  bits := marks
  count := counts
  full := by
    rw [counts.isFull_iff, show c.valid.capacity = c.tiles.size from marks]
  held := by
    intro index valid
    obtain ⟨tile, bitmap, found, ready, -⟩ := backed index valid
    exact ⟨tile, bitmap, found, bitmap?_of_ready ready⟩
  lent := fun index tile found away => backed.invalid_of_isLent found away

lemma Precedes.of_raises (outline : c'.outline = c.outline)
    (raises : ∀ index, Raises 0 index c c') : c.Precedes c' where
  generation := (outline_fields outline).2.2.1
  size := size_tiles_eq_of_outline outline
  epoch := by
    intro index tile tile' found found'
    obtain ⟨old, hold, le⟩ := raises index tile' found'
    obtain rfl : tile = old := Option.some.inj (found.symm.trans hold)
    exact le

/-! ## One call -/

section Steps

variable [Arithmetic α]

/-- A valid tile holds a bitmap, wherever it has come from. -/
lemma backed_step (h : c.Backed fun _ _ => True) (step : Step c c') :
    c'.Backed fun _ _ => True := by
  cases step with
  | invalidateAll => exact .invalidateAll c
  | invalidate area => exact h.invalidate area
  | takeBack key outcome =>
      -- The key may name another part, so this is not a case of `Backed.takeBack`.
      rcases c.takeBack_eq key outcome with
        same | ⟨tile, found, -, away, ⟨bitmap, -, -, same⟩ | ⟨slot, same⟩⟩ <;> rw [same]
      · exact h
      · exact h.takeIn found (h.invalid_of_isLent found away) trivial
      · exact h.setSlot (h.invalid_of_isLent found away) slot
  | paint surface window dirty deadline renderer s =>
      refine sweep_rec (P := fun pass => pass.cache.Backed fun _ _ => True) c surface dirty s h ?_
      intro pass index pass' visited ih
      exact ih.visited (fun _ _ _ _ _ => trivial) visited

lemma Step.raises (step : Step c c') (index : Nat) : Raises 0 index c c' := by
  cases step with
  | invalidateAll => exact (Raises.invalidateAll index).mono (Nat.zero_le 1)
  | invalidate area => exact (Raises.invalidate index area).mono (Nat.zero_le _)
  | takeBack key outcome => exact Raises.takeBack index key outcome
  | paint surface window dirty deadline renderer s =>
      exact Raises.sweep index surface window dirty deadline renderer s

/-! ## Any number of calls -/

lemma Reachable.backed (reachable : c.Reachable) : c.Backed fun _ _ => True := by
  induction reachable with
  | build part scale documentSize tileEdge generation =>
      exact Backed.build part scale documentSize tileEdge generation
  | step _ step ih => exact backed_step ih step

lemma outline_of_steps (steps : Relation.ReflTransGen Step c c') : c'.outline = c.outline := by
  induction steps with
  | refl => rfl
  | tail _ step ih => exact step.outline.trans ih

lemma raises_of_steps (steps : Relation.ReflTransGen Step c c') (index : Nat) :
    Raises 0 index c c' := by
  induction steps with
  | refl => exact .refl index c
  | tail _ step ih => exact ih.trans (step.raises index)

/-- **The slots, the bits and the count agree after any calls**, whatever renderers answer and
whatever late results bring, and no later call takes an epoch or the generation back. -/
theorem Reachable.consistent (reachable : c.Reachable) :
    c.Consistent ∧ ∀ c', Relation.ReflTransGen Step c c' → c.Precedes c' := by
  refine ⟨.of_invariants reachable.marks reachable.counts reachable.backed, fun c' later => ?_⟩
  exact .of_raises (outline_of_steps later) (raises_of_steps later)

end Steps

/-- The second tile is lent to a job of part 0.  A result for part 7 is taken in for it, and the tile
becomes valid; after an invalidation it is not valid any more, and its epoch has risen. -/
theorem consistent_threeFates :
    let taken := (threeFates.takeBack ⟨1, 7, 1, 0⟩ (.drawn .empty)).2
    taken.Reachable ∧ threeFates.valid.toList = [0] ∧ taken.valid.toList = [0, 1] ∧
      taken.valid.card = 2 ∧ taken.valid.isFull = false ∧
      taken.invalidateAll.tiles.map Tile.epoch = #[1, 1, 1] ∧ taken.Consistent ∧
      taken.Precedes taken.invalidateAll := by
  intro taken
  have reachable : taken.Reachable :=
    .step (.step (.build 0 .identity ⟨45, 15⟩ 1 1) (.paint _ _ _ _ _ _)) (.takeBack _ _)
  obtain ⟨consistent, later⟩ := reachable.consistent
  exact ⟨reachable, by decide +kernel, by decide +kernel, by decide +kernel, by decide +kernel,
    by decide +kernel, consistent, later _ (.single .invalidateAll)⟩

end PartCache

end TiledView
