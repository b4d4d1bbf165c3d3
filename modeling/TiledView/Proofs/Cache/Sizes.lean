import TiledView.Proofs.Cache.Classification

/-!
# Bitmaps of the right size

A job lends a bitmap of the size of its tile, and a renderer that keeps the size of what it is lent
(`Renderer.KeepsSize`) draws every tile at its size.  A late result is not bound to any renderer, so
the same is asked of it directly: `DocumentCache.Suits` says that it has the size of the tile that
its key names, if this tile is still there.  Once a result suits the caches it does so for good
(`DocumentCache.Suits.act`), since generations are not given out twice.

Valid tiles hold bitmaps of their own sizes as long as nothing but such results comes in:

* `PartCache.Backed.sweep_of_keepsSize` — a paint pass, seen from its part.
* `DocumentCache.SoundPart.sweep_of_keepsSize` — the same, seen from the document.
-/

namespace TiledView

variable {α σ : Type}

/-- Whatever comes back as drawn has the size of the bitmap that was lent for it. -/
def Renderer.KeepsSize (r : Renderer σ) : Prop :=
  ∀ job deadline s bitmap, (r.draw job deadline s).1 = .drawn bitmap →
    bitmap.size = job.bitmap.size

/-- `bitmap` has the size of the tile that `key` names. -/
def Tiling.Tailors (t : Tiling) (key : TileKey) (bitmap : Bitmap) : Prop :=
  bitmap.size = (t.rect (t.cellOf key.index)).size

/-! ## Part caches -/

namespace PartCache

variable {c c' : PartCache α} {index : Nat} {shown shown' : TileKey → Bitmap → Prop}

/-- Where outlines agree, the tiles cover the same pixels. -/
lemma pixels_eq_of_outline (same : c'.outline = c.outline) {tile' : Tile}
    (found' : c'.tiles[index]? = some tile') :
    ∃ tile, c.tiles[index]? = some tile ∧ tile'.pixels = tile.pixels := by
  have there : c.outline.tiles[index]? = some tile'.outline := by
    rw [← same, getElem?_outline, found', Option.map_some]
  rw [getElem?_outline] at there
  obtain ⟨tile, found, outline⟩ := Option.map_eq_some_iff.1 there
  exact ⟨tile, found, (congrArg Tile.pixels outline).symm⟩

/-- It is the keys that tiles have now that count. -/
lemma Backed.imp (h : c.Backed shown)
    (le : ∀ index tile bitmap, c.tiles[index]? = some tile → shown (c.keyOf index tile) bitmap →
      shown' (c.keyOf index tile) bitmap) : c.Backed shown' := by
  intro index valid
  obtain ⟨tile, bitmap, found, ready, hshown⟩ := h index valid
  exact ⟨tile, bitmap, found, ready, le index tile bitmap found hshown⟩

section Built

variable [Arithmetic α] {part tileEdge generation : Nat} {scale : Scale α}
  {documentSize : Size .twips} {renderer : Renderer σ} {window : PaintWindow} {deadline : Nat}

/-- A drawing by a renderer that keeps sizes fits its tile. -/
lemma tailors_of_keepsSize (keeps : renderer.KeepsSize)
    (built : c.outline = .build part scale documentSize tileEdge generation) {tile : Tile}
    (found : c.tiles[index]? = some tile) {s : σ} {bitmap : Bitmap}
    (drew : (renderer.draw (c.jobOf index tile) deadline s).1 = .drawn bitmap) :
    c.tiling.Tailors (c.keyOf index tile) bitmap := by
  rw [Tiling.Tailors, keeps _ _ _ _ drew, size_jobOf built found, pixels_of_outline built found]
  rfl

lemma Backed.visited_of_keepsSize {pass pass' : TilePass α σ} {t : Tiling}
    (h : pass.cache.Backed t.Tailors) (keeps : renderer.KeepsSize)
    (built : pass.cache.outline = .build part scale documentSize tileEdge generation)
    (tiling : pass.cache.tiling = t)
    (visited : TilePass.Visited renderer window deadline pass index pass') :
    pass'.cache.Backed t.Tailors := by
  cases visited with
  | missing | shown | lent | late => exact h
  | drawn tile bitmap asks drew =>
      exact h.takeIn asks.found asks.invalid
        (tiling ▸ tailors_of_keepsSize keeps built asks.found drew)
  | deferred tile asks => exact h.setSlot asks.invalid _
  | failed tile bitmap error asks => exact h.setSlot asks.invalid _

/-- **A pass of a renderer that keeps sizes** leaves valid tiles with bitmaps of their own sizes. -/
theorem Backed.sweep_of_keepsSize (h : c.Backed c.tiling.Tailors) (keeps : renderer.KeepsSize)
    (built : c.outline = .build part scale documentSize tileEdge generation) (surface : Bitmap)
    (window : PaintWindow) (dirty : Rect .device) (deadline : Nat) (s : σ) :
    (c.sweep surface window dirty deadline renderer s).cache.Backed c.tiling.Tailors := by
  refine (sweep_rec (P := fun pass : TilePass α σ => pass.cache.outline = c.outline ∧
    pass.cache.Backed c.tiling.Tailors) c surface dirty s ⟨rfl, h⟩ ?_).2
  intro pass index pass' visited ⟨outline, backed⟩
  exact ⟨(outline_visited visited).trans outline, backed.visited_of_keepsSize keeps
    (outline.trans built) (outline_fields outline).2.2.2.2 visited⟩

end Built

end PartCache

/-! ## The caches of a document -/

namespace DocumentCache

variable {d d' : DocumentCache} {key : TileKey} {outcome : DrawOutcome} {action : CacheAction}
  {part tileEdge next : Nat} {c c' : PartCache Float} {shown : TileKey → Bitmap → Prop}

/-- A result for a job that has been made before: if the tile is still there, what comes back as
drawn has its size. -/
def Suits (d : DocumentCache) (key : TileKey) (outcome : DrawOutcome) : Prop :=
  ∀ bitmap, outcome = .drawn bitmap → key.generation < d.nextGeneration ∧
    ∀ c, d.parts[key.part]? = some c → c.generation = key.generation →
      ∀ tile, c.tiles[key.index]? = some tile → bitmap.size = tile.pixels.size

/-- What is drawn suits the caches. -/
def Suited (d : DocumentCache) (key : TileKey) (bitmap : Bitmap) : Prop :=
  d.Suits key (.drawn bitmap)

lemma Suits.of_outline (h : d.Suits key outcome) (same : d'.outline = d.outline) :
    d'.Suits key outcome := by
  intro bitmap drew
  obtain ⟨given, sized⟩ := h bitmap drew
  refine ⟨(outline_fields same).2 ▸ given, fun c' found' generation tile' htile' => ?_⟩
  obtain ⟨c, found, outline⟩ := part_of_outline same.symm found'
  obtain ⟨tile, htile, pixels⟩ := PartCache.pixels_eq_of_outline outline.symm htile'
  rw [pixels]
  exact sized c found ((PartCache.outline_fields outline).2.2.1.trans generation) tile htile

/-- **What suits the caches once, suits them ever after.** -/
lemma Suits.act (h : d.Suits key outcome) (inPlace : d.InPlace) :
    (d.act action).Suits key outcome := by
  intro bitmap drew
  obtain ⟨given, sized⟩ := h bitmap drew
  refine ⟨Nat.lt_of_lt_of_le given nextGeneration_le_act, fun c' found' generation' => ?_⟩
  intro tile' htile'
  cases act_part inPlace found' with
  | evolved c found evolves =>
      obtain ⟨tile, htile, pixels⟩ := PartCache.pixels_eq_of_outline evolves.outline htile'
      rw [pixels]
      exact sized c found ((PartCache.outline_fields evolves.outline).2.2.1.symm.trans generation')
        tile htile
  | built scale documentSize generation fresh below new =>
      -- A generation that was given out before is not given out again.
      have generation_eq : c'.generation = generation := congrArg PartCache.generation new
      omega

/-- What suits the caches of a document has the size of its tile in each of the parts. -/
lemma SoundPart.tailors (sound : SoundPart d.Suited tileEdge next part c)
    (found : d.parts[part]? = some c') (same : c.outline = c'.outline) :
    c.Backed c.tiling.Tailors := by
  refine sound.backed.imp fun index tile bitmap htile suited => ?_
  obtain ⟨tile', htile', pixels⟩ := PartCache.pixels_eq_of_outline same htile
  have there : d.parts[(c.keyOf index tile).part]? = some c' := by
    rw [show (c.keyOf index tile).part = part from sound.part_eq, found]
  have sized := (suited bitmap rfl).2 c' there (PartCache.outline_fields same).2.2.1.symm tile'
    htile'
  rw [Tiling.Tailors, sized, ← pixels, PartCache.pixels_of_outline sound.built htile]
  rfl

/-- And the other way round. -/
lemma suited_of_tailors (sound : SoundPart shown tileEdge d.nextGeneration part c)
    (found : d.parts[part]? = some c') (same : c.outline = c'.outline)
    (backed : c.Backed c.tiling.Tailors) : c.Backed d.Suited := by
  refine backed.imp fun index tile bitmap htile tailors => ?_
  rintro _ ⟨⟩
  refine ⟨sound.generation_lt, fun other there _ tile' htile' => ?_⟩
  rw [show (c.keyOf index tile).part = part from sound.part_eq, found, Option.some.injEq] at there
  subst there
  obtain ⟨here, hhere, pixels⟩ := PartCache.pixels_eq_of_outline same.symm htile'
  obtain rfl := Option.some.inj (hhere.symm.trans htile)
  rw [pixels, PartCache.pixels_of_outline sound.built htile]
  exact tailors

/-- **A pass of a renderer that keeps sizes** keeps a part sound. -/
theorem SoundPart.sweep_of_keepsSize {renderer : Renderer σ}
    (sound : SoundPart d.Suited tileEdge d.nextGeneration part c)
    (found : d.parts[part]? = some c') (same : c.outline = c'.outline)
    (keeps : renderer.KeepsSize) (surface : Bitmap) (window : PaintWindow) (dirty : Rect .device)
    (deadline : Nat) (s : σ) :
    SoundPart d.Suited tileEdge d.nextGeneration part
      (c.sweep surface window dirty deadline renderer s).cache := by
  have outline := c.outline_sweep surface window dirty deadline renderer s
  have painted := (sound.tailors found same).sweep_of_keepsSize keeps sound.built surface window
    dirty deadline s
  have moved : SoundPart (fun _ _ => True) tileEdge d.nextGeneration part
      (c.sweep surface window dirty deadline renderer s).cache :=
    sound.of_outline outline (Nat.le_refl _) (painted.mono fun _ _ _ => trivial)
  rw [← (PartCache.outline_fields outline).2.2.2.2] at painted
  exact { moved with backed := suited_of_tailors moved found (outline.trans same) painted }

end DocumentCache

end TiledView
