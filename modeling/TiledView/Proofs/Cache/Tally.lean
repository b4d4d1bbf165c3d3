import TiledView.Proofs.Cache.Reachable

/-!
# The running count of the valid tiles

A `TileSet` counts its members as they come and go, and is found full by comparing this count with
its capacity.  `TileSet.Counts s` says that the count is right.  Every update keeps it, since an
update that would change nothing does not touch the count.  A set that counts is full exactly if all
the tiles are members (`TileSet.Counts.isFull_iff`), and the valid tiles of a part cache are always
counted (`PartCache.Reachable.counts`).
-/

namespace TiledView

/-! ## Sets of tiles -/

namespace TileSet

variable {s : TileSet} {index : Nat}

/-- The running count is the number of members. -/
def Counts (s : TileSet) : Prop := s.card = s.bits.count true

namespace Counts

lemma noneOf (count : Nat) : (noneOf count).Counts :=
  (Array.count_replicate (a := true) (b := false)).symm

lemma insert (h : s.Counts) (index : Nat) : (s.insert index).2.Counts := by
  rw [TileSet.insert]
  split_ifs with absent
  · obtain ⟨inside, value⟩ := Array.getElem?_eq_some_iff.1 absent
    rw [Counts, Array.setIfInBounds_def, dif_pos inside, Array.count_set, value, h]
    rfl
  · exact h

lemma erase (h : s.Counts) (index : Nat) : (s.erase index).2.Counts := by
  rw [TileSet.erase]
  split_ifs with present
  · obtain ⟨inside, value⟩ := Array.getElem?_eq_some_iff.1 present
    rw [Counts, Array.setIfInBounds_def, dif_pos inside, Array.count_set, value, h]
    rfl
  · exact h

lemma clear (s : TileSet) : s.clear.Counts := noneOf s.capacity

/-- **A set that counts is full exactly if every tile is a member.** -/
theorem isFull_iff (h : s.Counts) :
    s.isFull = true ↔ ∀ index < s.capacity, s.contains index = true := by
  rw [isFull, beq_iff_eq, h, Array.count_eq_size]
  constructor
  · intro all index inside
    rw [contains, Array.getElem?_eq_getElem inside, ← all _ (Array.getElem_mem inside)]
    rfl
  · intro all bit mem
    obtain ⟨index, inside, rfl⟩ := Array.mem_iff_getElem.1 mem
    have member := all index inside
    rw [contains, Array.getElem?_eq_getElem inside, beq_iff_eq, Option.some.injEq] at member
    exact member.symm

end Counts

end TileSet

/-! ## Part caches -/

namespace PartCache

variable {α σ : Type} {c c' : PartCache α}

lemma counts_visited {renderer : Renderer σ} {window : PaintWindow} {deadline index : Nat}
    {pass pass' : TilePass α σ} (h : pass.cache.valid.Counts)
    (visited : TilePass.Visited renderer window deadline pass index pass') :
    pass'.cache.valid.Counts := by
  cases visited with
  | missing | shown | lent | late | deferred | failed => exact h
  | drawn => exact h.insert index

variable [Arithmetic α]

lemma Step.counts (h : c.valid.Counts) (step : Step c c') : c'.valid.Counts := by
  cases step with
  | invalidateAll => exact .clear _
  | invalidate area =>
      refine List.foldlRecOn (motive := fun cache : PartCache α => cache.valid.Counts)
        (c.intersecting area) invalidateTile h ?_
      intro cache counts index _
      exact counts.erase index
  | takeBack key outcome =>
      rcases c.takeBack_eq key outcome with
        same | ⟨tile, -, -, -, ⟨bitmap, -, -, same⟩ | ⟨slot, same⟩⟩ <;> rw [same]
      · exact h
      · exact h.insert key.index
      · exact h
  | paint surface window dirty deadline renderer s =>
      exact sweep_rec (P := fun pass => pass.cache.valid.Counts) c surface dirty s h
        fun _ _ _ visited ih => counts_visited ih visited

/-- **The valid tiles are counted**, whatever happens to the cache. -/
theorem Reachable.counts (reachable : c.Reachable) : c.valid.Counts := by
  induction reachable with
  | build => exact .noneOf _
  | step _ step ih => exact step.counts ih

end PartCache

end TiledView
