import TiledView.Proofs.Cache.Marks

/-!
# Passes that meet their deadline

What a renderer does during a pass can be watched.  A `Sight` is one thing that is seen of it, and
`Renderer.watched` writes the sights down, in order, without changing anything else.

A pass is in time if no reading of the clock is past the deadline and every job comes back drawn.
Where no bitmap is lent when it begins, it is then not held up by anything: nothing is pending after
it, and all the tiles that it comes to are valid (`PartCache.finished_sweep`).  Of the sights it
matters only that they are good ones, so that those of the first visits are among those of all.
-/

namespace TiledView

variable {α σ : Type}

/-! ## Watching a renderer -/

/-- Something seen of a renderer. -/
inductive Sight where
  | time (now : Nat)
  | answer (outcome : DrawOutcome)

/-- A reading of the clock before the deadline, or a job that comes back drawn. -/
def Sight.InTime (deadline : Nat) : Sight → Prop
  | .time now => now < deadline
  | .answer (.drawn _) => True
  | .answer .deferred | .answer (.failed _ _) => False

instance (deadline : Nat) : DecidablePred (Sight.InTime deadline)
  | .time now => inferInstanceAs (Decidable (now < deadline))
  | .answer (.drawn _) => inferInstanceAs (Decidable True)
  | .answer .deferred | .answer (.failed _ _) => inferInstanceAs (Decidable False)

namespace Renderer

/-- The state of a renderer has a list of what was seen of it. -/
structure Sees (r : Renderer σ) (sights : σ → List Sight) : Prop where
  now : ∀ s, sights (r.now s).2 = sights s ++ [.time (r.now s).1]
  draw : ∀ job deadline s, sights (r.draw job deadline s).2 =
    sights s ++ [.answer (r.draw job deadline s).1]

/-- The renderer, with a list of its sights beside its state. -/
def watched (r : Renderer σ) : Renderer (σ × List Sight) where
  now s := ((r.now s.1).1, (r.now s.1).2, s.2 ++ [.time (r.now s.1).1])
  draw job deadline s :=
    ((r.draw job deadline s.1).1, (r.draw job deadline s.1).2,
      s.2 ++ [.answer (r.draw job deadline s.1).1])

lemma watched_maps (r : Renderer σ) : r.watched.Maps Prod.fst r := ⟨fun _ => rfl, fun _ _ _ => rfl⟩

lemma watched_sees (r : Renderer σ) : r.watched.Sees Prod.snd := ⟨fun _ => rfl, fun _ _ _ => rfl⟩

end Renderer

/-! ## Tiles that are done -/

namespace PartCache

variable {c c' c'' : PartCache α} {index : Nat} {wanted wanted' : Nat → Prop}

/-- No bitmap is lent, and every tile can be marked. -/
structure Collected (c : PartCache α) : Prop where
  home : ∀ (index : Nat) (tile : Tile), c.tiles[index]? = some tile → tile.isLent = false
  marks : c.Marks

/-- Nothing is lent after an invalidation if nothing was before. -/
lemma Collected.invalidateAll (h : c.Collected) : c.invalidateAll.Collected where
  home := by
    intro index tile' found'
    rw [PartCache.invalidateAll, Array.getElem?_map] at found'
    obtain ⟨tile, found, rfl⟩ := Option.map_eq_some_iff.1 found'
    exact h.home index tile found
  marks := h.marks.invalidateAll

/-- From `c` to `c'`, the tiles that are `wanted` have become valid beside those that were, and no
bitmap has stayed away. -/
structure Finished (wanted : Nat → Prop) (c c' : PartCache α) : Prop where
  collected : c'.Collected
  outline : c'.outline = c.outline
  valid : ∀ index < c.tiles.size,
    wanted index ∨ c.valid.contains index = true → c'.valid.contains index = true

namespace Finished

lemma refl (collected : c.Collected) : Finished (fun _ => False) c c :=
  ⟨collected, rfl, fun _ _ h => h.resolve_left id⟩

lemma mono (h : Finished wanted c c')
    (le : ∀ index < c.tiles.size, wanted' index → wanted index) : Finished wanted' c c' :=
  ⟨h.collected, h.outline, fun index inside before =>
    h.valid index inside (before.imp_left (le index inside))⟩

lemma size (h : Finished wanted c c') : c'.tiles.size = c.tiles.size :=
  size_tiles_eq_of_outline h.outline

lemma trans (h : Finished wanted c c') (h' : Finished wanted' c' c'') :
    Finished (fun index => wanted index ∨ wanted' index) c c'' where
  collected := h'.collected
  outline := h'.outline.trans h.outline
  valid := by
    intro index inside before
    refine h'.valid index (h.size.symm ▸ inside) ?_
    rcases before with (first | second) | valid
    · exact .inr (h.valid index inside (.inl first))
    · exact .inl second
    · exact .inr (h.valid index inside (.inr valid))

/-- A tile that is valid already needs nothing. -/
lemma of_valid (collected : c.Collected)
    (valid : index < c.tiles.size → c.valid.contains index = true) :
    Finished (· = index) c c := by
  refine ⟨collected, rfl, fun other inside before => ?_⟩
  rcases before with rfl | before
  · exact valid inside
  · exact before

/-- A drawing that is taken in makes its tile valid. -/
lemma takeIn (collected : c.Collected) (index : Nat) (bitmap : Bitmap) :
    Finished (· = index) c ((c.setSlot index (.ready bitmap)).markValid index) where
  collected := by
    have marks := collected.marks.setSlot index (.ready bitmap)
    refine ⟨fun other tile' found' => ?_, marks.markValid index⟩
    change (c.setSlot index (.ready bitmap)).tiles[other]? = some tile' at found'
    rw [getElem?_setSlot] at found'
    split_ifs at found'
    · obtain ⟨tile, -, rfl⟩ := Option.map_eq_some_iff.1 found'
      rfl
    · exact collected.home other tile' found'
  outline := (outline_markValid index).trans (outline_setSlot index _)
  valid := by
    intro other inside before
    have marks := collected.marks.setSlot index (.ready bitmap)
    rw [marks.contains_markValid, Bool.or_eq_true]
    rcases before with rfl | valid
    · have inside' : other < (c.setSlot other (.ready bitmap)).tiles.size :=
        (Array.size_modify ..).symm ▸ inside
      exact .inr (by simp only [beq_self_eq_true, decide_eq_true inside', Bool.and_self])
    · exact .inl valid

end Finished

end PartCache

/-! ## Visits of tiles -/

namespace TilePass

open PartCache (Finished)

variable {renderer : Renderer σ} {sights : σ → List Sight} {window : PaintWindow}
  {deadline index : Nat} {pass pass' : TilePass α σ} (sees : renderer.Sees sights)

include sees

/-- What has been seen is not forgotten. -/
lemma sights_visited (visited : Visited renderer window deadline pass index pass') :
    sights pass.renderer ⊆ sights pass'.renderer := by
  have read : sights pass.renderer ⊆ sights (asked renderer pass) := by
    rw [asked, sees.now]
    exact List.subset_append_left _ _
  have answered : ∀ tile, sights pass.renderer ⊆
      sights (answer renderer deadline pass index tile).2 := by
    intro tile
    rw [answer, sees.draw]
    exact List.Subset.trans read (List.subset_append_left _ _)
  cases visited with
  | missing | shown | lent => exact List.Subset.refl _
  | late => exact read
  | drawn tile | deferred tile | failed tile => exact answered tile

lemma sights_foldl (indices : List Nat) (pass : TilePass α σ) : sights pass.renderer ⊆
    sights (indices.foldl (visit renderer window deadline) pass).renderer := by
  refine List.foldlRecOn (motive := fun result : TilePass α σ =>
    sights pass.renderer ⊆ sights result.renderer) indices _ (List.Subset.refl _) ?_
  intro result ih index _
  exact List.Subset.trans ih (sights_visited sees (visited result index))

/-- **A visit in time is done with its tile.**  A tile that is not valid yet is home, the clock lets
it be drawn, and the drawing comes back at once. -/
lemma finished_visited (pending : pass.pending = #[]) (collected : pass.cache.Collected)
    (visited : Visited renderer window deadline pass index pass')
    (inTime : ∀ sight ∈ sights pass'.renderer, sight.InTime deadline) :
    pass'.pending = #[] ∧ Finished (· = index) pass.cache pass'.cache := by
  have answered : ∀ tile, Sight.answer (answer renderer deadline pass index tile).1 ∈
      sights (answer renderer deadline pass index tile).2 := by
    intro tile
    rw [answer, sees.draw]
    exact List.mem_append_right _ (List.mem_singleton_self _)
  cases visited with
  | missing none =>
      have outside := Nat.not_lt.2 (Array.getElem?_eq_none_iff.1 none)
      exact ⟨pending, .of_valid collected fun inside => absurd inside outside⟩
  | shown tile found valid => exact ⟨pending, .of_valid collected fun _ => valid⟩
  | lent tile found invalid away =>
      rw [collected.home index tile found] at away
      cases away
  | late tile found invalid home expired =>
      have read : Sight.time (renderer.now pass.renderer).1 ∈ sights (asked renderer pass) := by
        rw [asked, sees.now]
        exact List.mem_append_right _ (List.mem_singleton_self _)
      exact absurd (inTime _ read) (Nat.not_lt.2 expired)
  | drawn tile bitmap => exact ⟨pending, .takeIn collected index bitmap⟩
  | deferred tile asks drew | failed tile bitmap error asks drew =>
      have good := inTime _ (answered tile)
      rw [drew] at good
      exact good.elim

lemma finished_foldl (indices : List Nat) (pending : pass.pending = #[])
    (collected : pass.cache.Collected)
    (inTime : ∀ sight ∈ sights (indices.foldl (visit renderer window deadline) pass).renderer,
      sight.InTime deadline) :
    (indices.foldl (visit renderer window deadline) pass).pending = #[] ∧
      Finished (· ∈ indices) pass.cache
        (indices.foldl (visit renderer window deadline) pass).cache := by
  induction indices generalizing pass with
  | nil => exact ⟨pending, (Finished.refl collected).mono fun _ _ => List.not_mem_nil⟩
  | cons index indices ih =>
      obtain ⟨pending', first⟩ := finished_visited sees pending collected (visited pass index)
        fun sight mem => inTime sight (sights_foldl sees indices _ mem)
      obtain ⟨pending'', rest⟩ := ih pending' first.collected inTime
      exact ⟨pending'', (first.trans rest).mono fun _ _ => List.mem_cons.1⟩

end TilePass

/-- **A pass in time finishes every tile that it comes to.** -/
theorem PartCache.finished_sweep {renderer : Renderer σ} {sights : σ → List Sight}
    (sees : renderer.Sees sights) {c : PartCache α} (collected : c.Collected) (surface : Bitmap)
    (window : PaintWindow) (dirty : Rect .device) (deadline : Nat) (s : σ)
    (inTime : ∀ sight ∈ sights (c.sweep surface window dirty deadline renderer s).renderer,
      sight.InTime deadline) :
    (c.sweep surface window dirty deadline renderer s).pending = #[] ∧
      c.Finished (· ∈ c.tiling.overlapping dirty)
        (c.sweep surface window dirty deadline renderer s).cache :=
  TilePass.finished_foldl sees _ rfl collected inTime

end TiledView
