import TiledView.Proofs.Cache.Backed
import TiledView.Proofs.Cache.Outline
import TiledView.Proofs.Cache.Recording

/-!
# How a part cache evolves

Everything that happens to a part cache short of replacing it comes down to one relation,
`PartCache.Evolves drawn stale`: the outline stays, epochs never fall and rise for the tiles in
`stale`, and valid tiles stay backed as soon as the drawings in `drawn` count as backing.  One lemma
for each operation says so, and whatever is proved about runs of a cache uses these lemmas instead
of the operations.

Epochs are compared by `PartCache.Raises n index`, which adds up along a run
(`PartCache.Raises.trans`).
-/

namespace TiledView

variable {α σ : Type}

namespace PartCache

variable {c c' c'' : PartCache α} {index m n : Nat}

/-! ## Epochs -/

/-- The epoch of tile `index` is higher by `n` at least. -/
def Raises (n index : Nat) (c c' : PartCache α) : Prop :=
  ∀ tile', c'.tiles[index]? = some tile' →
    ∃ tile, c.tiles[index]? = some tile ∧ tile.epoch + n ≤ tile'.epoch

namespace Raises

lemma refl (index : Nat) (c : PartCache α) : Raises 0 index c c :=
  fun tile found => ⟨tile, found, Nat.le_refl _⟩

lemma trans (h : Raises m index c c') (h' : Raises n index c' c'') :
    Raises (m + n) index c c'' := by
  intro tile'' found''
  obtain ⟨tile', found', le'⟩ := h' tile'' found''
  obtain ⟨tile, found, le⟩ := h tile' found'
  exact ⟨tile, found, by omega⟩

lemma mono (le : m ≤ n) (h : Raises n index c c') : Raises m index c c' := by
  intro tile' found'
  obtain ⟨tile, found, hle⟩ := h tile' found'
  exact ⟨tile, found, by omega⟩

/-- An update of tile `other`. -/
lemma modify (valid : TileSet) (index other : Nat) {f : Tile → Tile}
    (hf : ∀ t, t.epoch + n ≤ (f t).epoch) :
    Raises (if other = index then n else 0) index c
      { c with tiles := c.tiles.modify other f, valid } := by
  intro tile' found'
  rw [Array.getElem?_modify] at found'
  split_ifs at found' ⊢ with here
  · obtain ⟨tile, found, rfl⟩ := Option.map_eq_some_iff.1 found'
    exact ⟨tile, found, hf tile⟩
  · exact ⟨tile', found', Nat.le_refl _⟩

lemma setSlot (index other : Nat) (slot : TileSlot) :
    Raises 0 index c (c.setSlot other slot) := by
  have same : ∀ t : Tile, t.epoch + 0 ≤ ({ t with slot } : Tile).epoch := fun t => Nat.le_refl _
  exact (modify c.valid index other same).mono (Nat.zero_le _)

lemma takeIn (index other : Nat) (slot : TileSlot) :
    Raises 0 index c ((c.setSlot other slot).markValid other) := setSlot index other slot

lemma invalidateTile (index other : Nat) :
    Raises (if other = index then 1 else 0) index c (c.invalidateTile other) :=
  modify _ index other fun t => Nat.le_refl (t.epoch + 1)

lemma invalidateAll (index : Nat) : Raises 1 index c c.invalidateAll := by
  intro tile' found'
  rw [PartCache.invalidateAll, Array.getElem?_map] at found'
  obtain ⟨tile, found, rfl⟩ := Option.map_eq_some_iff.1 found'
  exact ⟨tile, found, Nat.le_refl _⟩

lemma foldl_invalidateTile (touched : List Nat) (index : Nat) (c : PartCache α) :
    Raises (if index ∈ touched then 1 else 0) index c
      (touched.foldl PartCache.invalidateTile c) := by
  induction touched generalizing c with
  | nil => exact refl index c
  | cons other touched ih =>
      refine ((invalidateTile index other).trans (ih (c.invalidateTile other))).mono ?_
      by_cases here : other = index
      · rw [if_pos here, if_pos (List.mem_cons.2 (.inl here.symm))]
        exact Nat.le_add_right _ _
      · simp only [List.mem_cons, if_neg here, Ne.symm here, false_or]
        exact Nat.le_add_left _ _

lemma invalidate [Arithmetic α] (index : Nat) (area : Rect .twips) :
    Raises (if index ∈ c.intersecting area then 1 else 0) index c (c.invalidate area).2 :=
  foldl_invalidateTile _ index c

lemma takeBack (index : Nat) (key : TileKey) (outcome : DrawOutcome) :
    Raises 0 index c (c.takeBack key outcome).2 := by
  rcases c.takeBack_eq key outcome with
    same | ⟨tile, -, -, -, ⟨bitmap, -, -, same⟩ | ⟨slot, same⟩⟩ <;> rw [same]
  · exact refl index c
  · exact takeIn index key.index _
  · exact setSlot index key.index _

lemma visited {renderer : Renderer σ} {window : PaintWindow} {deadline other : Nat}
    {pass pass' : TilePass α σ}
    (visited : TilePass.Visited renderer window deadline pass other pass') :
    Raises 0 index pass.cache pass'.cache := by
  cases visited with
  | missing | shown | lent | late => exact refl index pass.cache
  | drawn => exact takeIn index other _
  | deferred | failed => exact setSlot index other _

lemma sweep (index : Nat) (surface : Bitmap) (window : PaintWindow) (dirty : Rect .device)
    (deadline : Nat) (renderer : Renderer σ) (s : σ) :
    Raises 0 index c (c.sweep surface window dirty deadline renderer s).cache := by
  refine sweep_rec (P := fun pass => Raises 0 index c pass.cache) c surface dirty s
    (refl index c) ?_
  intro pass other pass' visited ih
  exact ih.trans (Raises.visited visited)

end Raises

/-! ## The answers of a pass -/

/-- `key` names a tile of `c` as it is or was: its epoch is not of the future. -/
structure Names (c : PartCache α) (key : TileKey) : Prop where
  generation : key.generation = c.generation
  part : key.part = c.part
  epoch : ∀ tile, c.tiles[key.index]? = some tile → key.epoch ≤ tile.epoch

lemma names_keyOf {tile : Tile} (found : c.tiles[index]? = some tile) :
    c.Names (c.keyOf index tile) where
  generation := rfl
  part := rfl
  epoch := by
    intro same hsame
    rw [keyOf] at hsame
    rw [found, Option.some.injEq] at hsame
    rw [← hsame]
    exact Nat.le_refl _

/-- Keys do not get ahead of a cache that evolves. -/
lemma Names.evolve {key : TileKey} (h : c.Names key) (outline : c'.outline = c.outline)
    (raises : Raises 0 key.index c c') : c'.Names key where
  generation := h.generation.trans (outline_fields outline).2.2.1.symm
  part := h.part.trans (outline_fields outline).1.symm
  epoch := by
    intro tile' found'
    obtain ⟨tile, found, le⟩ := raises tile' found'
    have hle := h.epoch tile found
    omega

lemma names_answers_visited {renderer : Renderer σ} {window : PaintWindow} {deadline : Nat}
    {pass pass' : TilePass α (σ × List Answer)}
    (visited : TilePass.Visited renderer.recording window deadline pass index pass')
    (ih : ∀ answer ∈ pass.renderer.2, pass.cache.Names answer.1) :
    ∀ answer ∈ pass'.renderer.2, pass'.cache.Names answer.1 := by
  have old : ∀ answer ∈ pass.renderer.2, pass'.cache.Names answer.1 := fun answer h =>
    (ih answer h).evolve (outline_visited visited) (Raises.visited visited)
  have new : ∀ tile, pass.cache.tiles[index]? = some tile →
      pass'.cache.Names (pass.cache.keyOf index tile) := fun tile found =>
    (names_keyOf found).evolve (outline_visited visited) (Raises.visited visited)
  intro answer h
  cases visited with
  | missing | shown | lent | late => exact old answer h
  | drawn tile _ asks | deferred tile asks | failed tile _ _ asks =>
      rcases List.mem_append.1 h with h | h
      · exact old answer h
      · rw [List.mem_singleton.1 h]
        exact new tile asks.found

/-- What a pass has recorded names tiles of its cache. -/
lemma names_recorded (surface : Bitmap) (window : PaintWindow) (dirty : Rect .device)
    (deadline : Nat) (renderer : Renderer σ) (s : σ) (answer : Answer)
    (h : answer ∈ c.recorded surface window dirty deadline renderer s) :
    (c.sweep surface window dirty deadline renderer s).cache.Names answer.1 := by
  rw [← cache_sweep_recording]
  refine sweep_rec (P := fun pass : TilePass α (σ × List Answer) =>
    ∀ answer ∈ pass.renderer.2, pass.cache.Names answer.1) c surface dirty (s, [])
    (fun _ h => absurd h List.not_mem_nil) ?_ answer h
  intro pass index pass' visited ih
  exact names_answers_visited visited ih

/-! ## Evolution -/

/-- What becomes of a part cache that is not replaced. -/
structure Evolves (drawn : TileKey → Bitmap → Prop) (stale : Nat → Prop) (c c' : PartCache α) :
    Prop where
  outline : c'.outline = c.outline
  backed : ∀ shown : TileKey → Bitmap → Prop,
    (∀ key bitmap, drawn key bitmap → shown key bitmap) → c.Backed shown → c'.Backed shown
  raises : ∀ index, Raises 0 index c c'
  raises_stale : ∀ index, stale index → Raises 1 index c c'

namespace Evolves

variable {drawn drawn' : TileKey → Bitmap → Prop} {stale stale' : Nat → Prop}

lemma refl (c : PartCache α) (fresh : ∀ index, ¬ stale index) : Evolves drawn stale c c where
  outline := rfl
  backed := fun _ _ h => h
  raises := fun index => Raises.refl index c
  raises_stale := fun index h => absurd h (fresh index)

lemma imp (h : Evolves drawn stale c c')
    (hdrawn : ∀ key bitmap, drawn key bitmap → drawn' key bitmap)
    (hstale : ∀ index, stale' index → stale index) : Evolves drawn' stale' c c' where
  outline := h.outline
  backed := fun shown le => h.backed shown fun key bitmap new => le key bitmap (hdrawn _ _ new)
  raises := h.raises
  raises_stale := fun index new => h.raises_stale index (hstale index new)

lemma invalidateAll (c : PartCache α) : Evolves drawn (fun _ => True) c c.invalidateAll where
  outline := outline_invalidateAll
  backed := fun _ _ _ => Backed.invalidateAll c
  raises := fun index => (Raises.invalidateAll index).mono (Nat.zero_le 1)
  raises_stale := fun index _ => Raises.invalidateAll index

lemma invalidate [Arithmetic α] (c : PartCache α) (area : Rect .twips) :
    Evolves drawn (· ∈ c.intersecting area) c (c.invalidate area).2 where
  outline := outline_invalidate area
  backed := fun _ _ h => h.invalidate area
  raises := fun index => (Raises.invalidate index area).mono (Nat.zero_le _)
  raises_stale := by
    intro index touched
    have raises := Raises.invalidate (c := c) index area
    rwa [if_pos touched] at raises

lemma takeBack (c : PartCache α) {key : TileKey} (outcome : DrawOutcome)
    (part : key.part = c.part) :
    Evolves (fun k bitmap => k = key ∧ outcome = .drawn bitmap) (fun _ => False) c
      (c.takeBack key outcome).2 where
  outline := outline_takeBack key outcome
  backed := fun _ le h => h.takeBack part fun bitmap drew => le key bitmap ⟨rfl, drew⟩
  raises := fun index => Raises.takeBack index key outcome
  raises_stale := fun _ h => h.elim

/-- Everything that becomes valid during a pass was drawn in it. -/
lemma backed_sweep {shown : TileKey → Bitmap → Prop} (h : c.Backed shown) (surface : Bitmap)
    (window : PaintWindow) (dirty : Rect .device) (deadline : Nat) (renderer : Renderer σ) (s : σ) :
    (c.sweep surface window dirty deadline renderer s).cache.Backed fun key bitmap =>
      shown key bitmap ∨
        (key, .drawn bitmap) ∈ c.recorded surface window dirty deadline renderer s := by
  rw [← cache_sweep_recording]
  refine sweep_rec (P := fun pass : TilePass α (σ × List Answer) => pass.cache.Backed
    fun key bitmap => shown key bitmap ∨ (key, .drawn bitmap) ∈ pass.renderer.2)
    c surface dirty (s, []) (h.mono fun _ _ => .inl) ?_
  intro pass index pass' visited ih
  have longer : ∀ answers, pass.cache.Backed fun key bitmap => shown key bitmap ∨
      (key, .drawn bitmap) ∈ pass.renderer.2 ++ answers := fun answers =>
    ih.mono fun key bitmap => Or.imp_right (List.mem_append_left answers)
  cases visited with
  | missing | shown | lent | late => exact ih
  | drawn tile bitmap asks drew =>
      refine (longer _).takeIn asks.found asks.invalid (.inr (List.mem_append_right _ ?_))
      rw [List.mem_singleton, ← drew]
      rfl
  | deferred tile asks => exact (longer _).setSlot asks.invalid _
  | failed tile bitmap error asks => exact (longer _).setSlot asks.invalid _

lemma sweep (c : PartCache α) (surface : Bitmap) (window : PaintWindow) (dirty : Rect .device)
    (deadline : Nat) (renderer : Renderer σ) (s : σ) :
    Evolves (fun key bitmap =>
        (key, .drawn bitmap) ∈ c.recorded surface window dirty deadline renderer s)
      (fun _ => False) c (c.sweep surface window dirty deadline renderer s).cache where
  outline := outline_sweep surface window dirty deadline renderer s
  backed := fun _ le h => (backed_sweep h surface window dirty deadline renderer s).mono
    fun key bitmap => Or.rec id (le key bitmap)
  raises := fun index => Raises.sweep index surface window dirty deadline renderer s
  raises_stale := fun _ h => h.elim

end Evolves

end PartCache

end TiledView
