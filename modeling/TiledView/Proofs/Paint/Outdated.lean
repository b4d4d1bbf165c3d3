import TiledView.Proofs.Cache.Lending
import TiledView.Proofs.Paint.Coherence

/-!
# Painters that take nothing to be up to date

`Painter.Outdated keys p` holds of a painter after its caches have been taken out of use and the
whole surface has been damaged: no tile is valid, and the jobs with `keys`, which may still come
back, were all made before.  Nothing but a paint pass ends this state.  A late result of one of
these jobs gives its bitmap back, but does not make a tile valid, since its epoch is over
(`Painter.Outdated.carryOut`).
-/

namespace TiledView

/-! ## Stale caches -/

namespace PartCache

variable {α : Type} {c : PartCache α}

/-- No tile is valid. -/
def Stale (c : PartCache α) : Prop := ∀ index, c.valid.contains index = false

lemma stale_invalidateAll (c : PartCache α) : c.invalidateAll.Stale :=
  fun index => c.valid.contains_clear index

lemma Stale.invalidate [Arithmetic α] (h : c.Stale) (area : Rect .twips) :
    (c.invalidate area).2.Stale := by
  refine List.foldlRecOn (c.intersecting area) _ h ?_
  intro c h index _ other
  rw [invalidateTile, TileSet.contains_erase, h other, Bool.false_and]

/-- The result of a job from an earlier epoch makes nothing valid. -/
lemma Stale.takeBack (h : c.Stale) {key : TileKey}
    (earlier : key.generation = c.generation → ∀ tile, c.tiles[key.index]? = some tile →
      key.epoch + 1 ≤ tile.epoch) (outcome : DrawOutcome) :
    (c.takeBack key outcome).2.Stale := by
  rcases c.takeBack_eq key outcome with
    same | ⟨tile, found, generation, -, ⟨bitmap, -, epoch, -⟩ | ⟨slot, same⟩⟩
  · rw [same]
    exact h
  · have lag := earlier generation tile found
    omega
  · rw [same]
    exact h

end PartCache

namespace DocumentCache

variable {d : DocumentCache} {key : TileKey}

/-- No tile of any part is valid. -/
def Stale (d : DocumentCache) : Prop :=
  ∀ (part : Nat) (c : PartCache Float), d.parts[part]? = some c → c.Stale

lemma stale_of_empty (none : d.parts = #[]) : d.Stale := by
  intro part c found
  rw [none, Array.getElem?_empty] at found
  cases found

lemma stale_invalidateAll (d : DocumentCache) : d.invalidateAll.Stale := by
  intro part c found
  rw [invalidateAll, Array.getElem?_map] at found
  obtain ⟨c, -, rfl⟩ := Option.map_eq_some_iff.1 found
  exact c.stale_invalidateAll

lemma Stale.modifyPart (h : d.Stale) {part : Nat} {f : PartCache Float → PartCache Float}
    (stale : ∀ c, c.Stale → (f c).Stale) : (d.modifyPart part f).Stale := by
  intro other c' found'
  obtain ⟨c, found, ⟨-, rfl⟩ | ⟨-, rfl⟩⟩ := getElem?_modifyPart found'
  · exact stale c (h other c found)
  · exact h other c' found

lemma Stale.takeBack (h : d.Stale) (behind : d.Behind 1 key) (outcome : DrawOutcome) :
    (d.takeBack key outcome).2.Stale := by
  intro part c' found'
  obtain ⟨c, found, ⟨rfl, rfl⟩ | rfl⟩ := getElem?_takeBack found'
  · refine (h _ c found).takeBack ?_ outcome
    exact fun generation tile htile => behind.2 c found generation.symm tile htile
  · exact h part c' found

end DocumentCache

/-! ## Painters -/

lemma Bitmap.isEmpty_bounds (b : Bitmap) : b.bounds.isEmpty = b.isEmpty := by
  rw [Bool.eq_iff_iff, Bitmap.isEmpty, beq_iff_eq, Nat.mul_eq_zero, Rect.isEmpty]
  simp [Bitmap.bounds, Bitmap.size, Rect.ofSize]

namespace Damage

/-- Damage to the whole of a surface is damage to everything. -/
lemma mark_bounds (d : Damage) {bounds : Rect .device} (nonempty : bounds.isEmpty = false) :
    d.mark bounds bounds = .everything := by
  have itself : bounds.containsRect bounds = true :=
    Rect.containsRect_of_forall_mem nonempty fun _ inside => inside
  simp only [mark, Rect.intersect_eq_self itself]
  rw [if_neg (Bool.eq_false_iff.1 nonempty), if_pos itself]

end Damage

namespace Painter

variable {p : Painter} {keys : List TileKey}

/-- The whole surface waits for the next paint pass, if there is anything of it. -/
def AllDamaged (p : Painter) : Prop := p.surface.isEmpty = false → p.damage = .everything

namespace AllDamaged

lemma of_redraw (idle : p.phase = .idle) : p.redraw.AllDamaged := by
  rw [redraw_of_idle idle]
  exact fun nonempty => p.damage.mark_bounds (p.surface.isEmpty_bounds.trans nonempty)

lemma carryOut (h : p.AllDamaged) (request : PaintRequest) : (p.carryOut request).AllDamaged := by
  have bounds := (sameFrame_carryOut p request).bounds
  intro nonempty
  rw [← Bitmap.isEmpty_bounds, bounds, Bitmap.isEmpty_bounds] at nonempty
  exact everything_carryOut (h nonempty) request

lemma request (h : p.AllDamaged) (request : PaintRequest) : (p.request request).AllDamaged := by
  rw [Painter.request]
  split
  · exact h.carryOut request
  · exact h

lemma receive (h : p.AllDamaged) : p.receive.AllDamaged :=
  List.foldlRecOn (motive := AllDamaged) p.inbox Painter.request h fun _ ih request _ =>
    ih.request request

end AllDamaged

structure Outdated (keys : List TileKey) (p : Painter) : Prop where
  idle : p.phase = .idle
  inPlace : p.cache.InPlace
  stale : p.cache.Stale
  behind : ∀ key ∈ keys, p.cache.Behind 1 key
  damaged : p.AllDamaged

/-- A request does to the caches what an action does, if it does anything. -/
lemma cache_carryOut (p : Painter) (request : PaintRequest) :
    (p.carryOut request).cache = p.cache ∨
      ∃ action, (p.carryOut request).cache = p.cache.act action := by
  cases request with
  | staleArea part area => exact .inr ⟨.staleArea part area, rfl⟩
  | stalePart part => exact .inr ⟨.stalePart part, rfl⟩
  | damaged => exact .inl rfl
  | scroll => exact .inl (cache_scroll _ _)
  | lateResult key outcome => exact .inr ⟨.late key outcome, cache_takeBack key outcome⟩

namespace Outdated

/-- A surface that is damaged all over, above stale caches. -/
lemma of_redraw (idle : p.phase = .idle) (inPlace : p.cache.InPlace) (stale : p.cache.Stale)
    (behind : ∀ key ∈ keys, p.cache.Behind 1 key) : p.redraw.Outdated keys := by
  have damaged := AllDamaged.of_redraw idle
  rw [redraw_of_idle idle] at damaged ⊢
  exact ⟨idle, inPlace, stale, behind, damaged⟩

/-- **Requests leave a painter outdated**, as long as the drawings among them were asked for
before. -/
theorem carryOut (h : p.Outdated keys) {request : PaintRequest}
    (delivers : request.Delivers fun key _ => key ∈ keys) : (p.carryOut request).Outdated keys where
  idle := (sameFrame_carryOut p request).phase.trans h.idle
  inPlace := h.inPlace.of_outline (sameFrame_carryOut p request).outline
  stale := by
    cases request with
    | staleArea part area => exact h.stale.modifyPart fun c stale => stale.invalidate area
    | stalePart part => exact h.stale.modifyPart fun c _ => c.stale_invalidateAll
    | damaged => exact h.stale
    | scroll area shift =>
        rw [Painter.carryOut, cache_scroll]
        exact h.stale
    | lateResult key outcome =>
        rw [Painter.carryOut, cache_takeBack]
        exact h.stale.takeBack (h.behind key delivers) outcome
  behind := by
    intro key mem
    rcases cache_carryOut p request with same | ⟨action, same⟩ <;> rw [same]
    · exact h.behind key mem
    · exact (h.behind key mem).act h.inPlace
  damaged := h.damaged.carryOut request

lemma request (h : p.Outdated keys) {request : PaintRequest}
    (delivers : request.Delivers fun key _ => key ∈ keys) : (p.request request).Outdated keys := by
  rw [request_of_idle h.idle]
  exact h.carryOut delivers

lemma receive (h : p.Outdated keys)
    (delivers : ∀ request ∈ p.inbox, request.Delivers fun key _ => key ∈ keys) :
    p.receive.Outdated keys := by
  have emptied : ({ p with inbox := [] } : Painter).Outdated keys := { h with }
  exact List.foldlRecOn (motive := Outdated keys) p.inbox Painter.request emptied
    fun _ ih request mem => ih.request (delivers request mem)

end Outdated

end Painter

end TiledView
