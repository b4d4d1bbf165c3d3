import TiledView.Proofs.Cache.Evolution
import TiledView.Proofs.Cache.Fit

/-!
# Steps of a document cache

A `CacheAction` is anything that can happen to the caches of a document, and `DocumentCache.act`
carries it out.  After a step, the cache of a part is either the one that was there, evolved, or a
new one of a generation that nothing had before (`DocumentCache.act_part`).  Two invariants follow.

* `DocumentCache.Sound` — every part cache stands at its place, has a generation that was given out,
  is what it was built as up to drawing, and is backed.
* `DocumentCache.Behind` — how far a key lags behind the cache.  A key that lags can never catch up,
  since epochs do not fall and generations are not given out twice.
-/

namespace TiledView

/-- Something that happens to the caches of a document. -/
inductive CacheAction : Type 1 where
  | fit (count : Nat) (scale : ViewScale) (documentSize : Size .twips)
  | clear
  | staleAll
  | stalePart (part : Nat)
  | staleArea (part : Nat) (area : Rect .twips)
  /-- A paint pass over a part, whatever the renderer, the clock and the surface. -/
  | paint {σ : Type} (part : Nat) (surface : Bitmap) (window : PaintWindow) (dirty : Rect .device)
      (deadline : Nat) (renderer : Renderer σ) (s : σ)
  /-- A result that arrives after its pass. -/
  | late (key : TileKey) (outcome : DrawOutcome)

/-- The answer that an action delivers for a job dispatched before it. -/
def CacheAction.returned : CacheAction → List Answer
  | .late key outcome => [(key, outcome)]
  | _ => []

namespace DocumentCache

variable {d d' : DocumentCache} {action : CacheAction} {part : Nat} {c c' : PartCache Float}

def act (d : DocumentCache) : CacheAction → DocumentCache
  | .fit count scale documentSize => d.fit count scale documentSize
  | .clear => d.clear
  | .staleAll => d.invalidateAll
  | .stalePart part => d.modifyPart part PartCache.invalidateAll
  | .staleArea part area => d.modifyPart part fun c => (c.invalidate area).2
  | .paint part surface window dirty deadline renderer s =>
    d.modifyPart part fun c => (c.sweep surface window dirty deadline renderer s).cache
  | .late key outcome => (d.takeBack key outcome).2

/-- The jobs dispatched by an action, with what became of them. -/
def dispatched (d : DocumentCache) : CacheAction → List Answer
  | .paint part surface window dirty deadline renderer s =>
    match d.parts[part]? with
    | some c => c.recorded surface window dirty deadline renderer s
    | none => []
  | _ => []

/-- The answers of an action: those of its own jobs, and one that comes late. -/
def answered (d : DocumentCache) (action : CacheAction) : List Answer :=
  d.dispatched action ++ action.returned

/-- Whether an action invalidates tile `index` of a part, or drops or replaces its cache. -/
def Outdates (d : DocumentCache) (part index : Nat) : CacheAction → Prop
  | .fit count scale documentSize =>
    ¬ (part < count ∧ ∃ c, d.parts[part]? = some c ∧ keeps scale documentSize c)
  | .clear => True
  | .staleAll => True
  | .stalePart stale => stale = part
  | .staleArea stale area =>
    stale = part ∧ ∃ c, d.parts[part]? = some c ∧ index ∈ c.intersecting area
  | .paint .. => False
  | .late .. => False

/-! ## What a step does to one part -/

lemma getElem?_modifyPart {p : Nat} {f : PartCache Float → PartCache Float}
    (h : (d.modifyPart p f).parts[part]? = some c') :
    ∃ c, d.parts[part]? = some c ∧ (p = part ∧ c' = f c ∨ p ≠ part ∧ c' = c) := by
  rw [modifyPart, Array.getElem?_modify] at h
  split_ifs at h with here
  · obtain ⟨c, found, rfl⟩ := Option.map_eq_some_iff.1 h
    exact ⟨c, found, .inl ⟨here, rfl⟩⟩
  · exact ⟨c', h, .inr ⟨here, rfl⟩⟩

lemma getElem?_takeBack {key : TileKey} {outcome : DrawOutcome}
    (h : (d.takeBack key outcome).2.parts[part]? = some c') :
    ∃ c, d.parts[part]? = some c ∧
      (key.part = part ∧ c' = (c.takeBack key outcome).2 ∨ c' = c) := by
  rw [takeBack] at h
  split at h
  · exact ⟨c', h, .inr rfl⟩
  · next c found =>
    dsimp only [setPart] at h
    rw [Array.getElem?_setIfInBounds] at h
    split_ifs at h with here
    · exact ⟨c, here ▸ found, .inl ⟨here, (Option.some.inj h).symm⟩⟩
    · exact ⟨c', h, .inr rfl⟩

/-- What a step makes of the cache `c'` of a part: the cache `c` that was there, evolved, or a new
one. -/
inductive Steps (d : DocumentCache) (action : CacheAction) (part : Nat) (c' : PartCache Float) :
    Prop where
  | evolved (c : PartCache Float) (found : d.parts[part]? = some c)
      (evolves : PartCache.Evolves (fun key bitmap => (key, .drawn bitmap) ∈ d.answered action)
        (fun index => d.Outdates part index action) c c')
  | built (scale : ViewScale) (documentSize : Size .twips) (generation : Nat)
      (fresh : d.nextGeneration ≤ generation)
      (below : generation < (d.act action).nextGeneration)
      (new : c' = .build part scale documentSize d.tileEdge generation)

/-- Every part cache says of itself where it stands. -/
def InPlace (d : DocumentCache) : Prop :=
  ∀ (part : Nat) (c : PartCache Float), d.parts[part]? = some c → c.part = part

lemma InPlace.of_outline (h : d.InPlace) (same : d'.outline = d.outline) : d'.InPlace := by
  intro part cache found
  obtain ⟨old, hold, outline⟩ := part_of_outline same.symm found
  rw [← (PartCache.outline_fields outline).1]
  exact h part old hold

/-- **A step evolves the cache of a part or replaces it by a new one.** -/
theorem act_part (inPlace : d.InPlace)
    (h : (d.act action).parts[part]? = some c') : Steps d action part c' := by
  cases action with
  | fit count scale documentSize =>
      obtain ⟨-, size, -, fitted⟩ := fit_spec d count scale documentSize
      have hpart : part < count := by
        rw [← size]
        exact (Array.getElem?_eq_some_iff.1 h).1
      obtain ⟨c, found, hc⟩ := fitted part hpart
      obtain rfl : c = c' := Option.some.inj (found.symm.trans h)
      cases hc with
      | kept c old keeps =>
          exact .evolved c old (.refl c fun _ outdates => outdates ⟨hpart, c, old, keeps⟩)
      | built generation fresh stale =>
          exact .built scale documentSize generation fresh.1 fresh.2 rfl
  | clear => exact absurd h (by rw [act, clear]; simp)
  | staleAll =>
      rw [act, invalidateAll, Array.getElem?_map] at h
      obtain ⟨c, found, rfl⟩ := Option.map_eq_some_iff.1 h
      exact .evolved c found (.invalidateAll c)
  | stalePart p =>
      obtain ⟨c, found, ⟨rfl, rfl⟩ | ⟨apart, rfl⟩⟩ := getElem?_modifyPart h
      · exact .evolved c found ((PartCache.Evolves.invalidateAll c).imp (fun _ _ => id)
          fun _ _ => trivial)
      · exact .evolved c' found (.refl c' fun _ => apart)
  | staleArea p area =>
      obtain ⟨c, found, ⟨rfl, rfl⟩ | ⟨apart, rfl⟩⟩ := getElem?_modifyPart h
      · refine .evolved c found ((PartCache.Evolves.invalidate c area).imp (fun _ _ => id) ?_)
        rintro index ⟨-, same, hsame, touched⟩
        rw [found, Option.some.injEq] at hsame
        exact hsame ▸ touched
      · exact .evolved c' found (.refl c' fun _ outdates => apart outdates.1)
  | paint p surface window dirty deadline renderer s =>
      obtain ⟨c, found, ⟨rfl, rfl⟩ | ⟨apart, rfl⟩⟩ := getElem?_modifyPart h
      · refine .evolved c found ((PartCache.Evolves.sweep c surface window dirty deadline renderer
          s).imp ?_ fun _ => id)
        intro key bitmap recorded
        refine List.mem_append_left _ ?_
        rw [dispatched, found]
        exact recorded
      · exact .evolved c' found (.refl c' fun _ => id)
  | late key outcome =>
      obtain ⟨c, found, ⟨rfl, rfl⟩ | rfl⟩ := getElem?_takeBack h
      · refine .evolved c found ((PartCache.Evolves.takeBack c outcome
          (inPlace _ c found).symm).imp ?_ fun _ => id)
        rintro k bitmap ⟨rfl, rfl⟩
        exact List.mem_append_right _ (List.mem_singleton_self _)
      · exact .evolved c' found (.refl c' fun _ => id)

lemma tileEdge_act : (d.act action).tileEdge = d.tileEdge := by
  cases action with
  | fit count scale documentSize => exact (fit_spec d count scale documentSize).1
  | late key outcome => exact (outline_fields (outline_takeBack key outcome)).1
  | _ => rfl

lemma nextGeneration_le_act : d.nextGeneration ≤ (d.act action).nextGeneration := by
  cases action with
  | fit count scale documentSize => exact (fit_spec d count scale documentSize).2.2.1
  | late key outcome =>
      exact Nat.le_of_eq (outline_fields (outline_takeBack key outcome)).2.symm
  | _ => exact Nat.le_refl _

/-! ## Sound caches -/

/-- The cache `c` of part `part`, where tiles have edge `tileEdge` and generations below `next` were
given out. -/
structure SoundPart (shown : TileKey → Bitmap → Prop) (tileEdge next part : Nat)
    (c : PartCache Float) : Prop where
  part_eq : c.part = part
  generation_lt : c.generation < next
  built : c.outline = .build c.part c.scale c.documentSize tileEdge c.generation
  backed : c.Backed shown

/-- Every part cache stands at its place and is backed. -/
def Sound (shown : TileKey → Bitmap → Prop) (d : DocumentCache) : Prop :=
  ∀ part c, d.parts[part]? = some c → SoundPart shown d.tileEdge d.nextGeneration part c

variable {shown shown' : TileKey → Bitmap → Prop}

lemma Sound.inPlace (h : d.Sound shown) : d.InPlace := fun part c found => (h part c found).part_eq

lemma sound_ofTileEdge (tileEdge : Nat) : (ofTileEdge tileEdge).Sound shown := by
  intro part c found
  exact absurd found (by simp [ofTileEdge])

lemma Sound.mono (h : d.Sound shown) (le : ∀ key bitmap, shown key bitmap → shown' key bitmap) :
    d.Sound shown' := by
  intro part c found
  exact { h part c found with backed := (h part c found).backed.mono le }

lemma SoundPart.of_outline {tileEdge next next' : Nat} (h : SoundPart shown tileEdge next part c)
    (outline : c'.outline = c.outline) (le : next ≤ next') (backed : c'.Backed shown') :
    SoundPart shown' tileEdge next' part c' := by
  obtain ⟨hpart, hscale, hgeneration, hsize, -⟩ := PartCache.outline_fields outline
  refine ⟨hpart.trans h.part_eq, ?_, ?_, backed⟩
  · rw [hgeneration]
    exact Nat.lt_of_lt_of_le h.generation_lt le
  · rw [outline, hpart, hscale, hgeneration, hsize, h.built]

lemma SoundPart.evolve {drawn : TileKey → Bitmap → Prop} {stale : Nat → Prop}
    {tileEdge next next' : Nat} (h : SoundPart shown tileEdge next part c)
    (evolves : PartCache.Evolves drawn stale c c') (le : next ≤ next')
    (hdrawn : ∀ key bitmap, drawn key bitmap → shown key bitmap) :
    SoundPart shown tileEdge next' part c' :=
  h.of_outline evolves.outline le (evolves.backed shown hdrawn h.backed)

/-- Another sound cache may take the place of a part. -/
lemma Sound.setPart (h : d.Sound shown)
    (sound : SoundPart shown d.tileEdge d.nextGeneration part c) :
    (d.setPart part c).Sound shown := by
  intro other c' found'
  dsimp only [DocumentCache.setPart] at found'
  rw [Array.getElem?_setIfInBounds] at found'
  split_ifs at found' with here
  · subst here
    rw [← Option.some.inj found']
    exact sound
  · exact h other c' found'

/-- **Steps keep a cache sound**, as long as what they take in counts as backing. -/
theorem Sound.act (h : d.Sound shown)
    (answers : ∀ key bitmap, (key, .drawn bitmap) ∈ d.answered action → shown key bitmap) :
    (d.act action).Sound shown := by
  intro part c' found'
  rw [tileEdge_act]
  cases act_part h.inPlace found' with
  | evolved c found evolves =>
      exact (h part c found).evolve evolves nextGeneration_le_act answers
  | built scale documentSize generation fresh below new =>
      subst new
      exact ⟨rfl, below, PartCache.outline_build .., .build _ _ _ _ _⟩

/-! ## Keys that lag behind -/

variable {key : TileKey} {m n : Nat}

/-- The tile that `key` names has been invalidated `n` times at least since, or its cache is gone
for good. -/
def Behind (n : Nat) (d : DocumentCache) (key : TileKey) : Prop :=
  key.generation < d.nextGeneration ∧
    ∀ c, d.parts[key.part]? = some c → c.generation = key.generation →
      ∀ tile, c.tiles[key.index]? = some tile → key.epoch + n ≤ tile.epoch

/-- A lag never shrinks, and grows where a step raises the epoch. -/
lemma Behind.step (h : d.Behind n key)
    (inPlace : d.InPlace)
    (raises : ∀ c c' : PartCache Float,
      PartCache.Evolves (fun key bitmap => (key, .drawn bitmap) ∈ d.answered action)
      (fun index => d.Outdates key.part index action) c c' →
        PartCache.Raises m key.index c c') :
    (d.act action).Behind (n + m) key := by
  refine ⟨Nat.lt_of_lt_of_le h.1 nextGeneration_le_act, ?_⟩
  intro c' found' same tile' htile'
  cases act_part inPlace found' with
  | evolved c found evolves =>
      obtain ⟨tile, htile, le⟩ := raises c c' evolves tile' htile'
      have hgeneration := (PartCache.outline_fields evolves.outline).2.2.1
      have lag := h.2 c found (hgeneration.symm.trans same) tile htile
      omega
  | built scale documentSize generation fresh below new =>
      -- A generation that was given out before is not given out again.
      have generation_eq : c'.generation = generation := congrArg PartCache.generation new
      have given := h.1
      omega

/-- **A key that lags behind never catches up.** -/
lemma Behind.act (h : d.Behind n key)
    (inPlace : d.InPlace) :
    (d.act action).Behind n key :=
  h.step (m := 0) inPlace fun _ _ evolves => evolves.raises key.index

/-- A step that outdates the tile of a key makes the key lag one more epoch behind. -/
lemma Behind.outdate (h : d.Behind n key)
    (inPlace : d.InPlace)
    (outdates : d.Outdates key.part key.index action) : (d.act action).Behind (n + 1) key :=
  h.step inPlace fun _ _ evolves => evolves.raises_stale key.index outdates

/-- The jobs dispatched in a step do not get ahead of the cache. -/
lemma behind_of_mem_dispatched (h : d.Sound shown) {answer : Answer}
    (mem : answer ∈ d.dispatched action) : (d.act action).Behind 0 answer.1 := by
  cases action with
  | paint part surface window dirty deadline renderer s =>
      rw [dispatched] at mem
      split at mem
      · next c found =>
        have names := PartCache.names_recorded surface window dirty deadline renderer s answer mem
        have outline := PartCache.outline_sweep (c := c) surface window dirty deadline renderer s
        obtain ⟨hpart, -, hgeneration, -, -⟩ := PartCache.outline_fields outline
        have sound := h part c found
        refine ⟨?_, ?_⟩
        · rw [names.generation, hgeneration]
          exact sound.generation_lt
        · intro c' found' _ tile htile
          obtain ⟨old, hold, ⟨-, rfl⟩ | ⟨apart, -⟩⟩ := getElem?_modifyPart found'
          · rw [names.part, hpart, sound.part_eq, found, Option.some.injEq] at hold
            subst hold
            exact names.epoch tile htile
          · exact absurd (names.part.trans (hpart.trans sound.part_eq)).symm apart
      · exact absurd mem List.not_mem_nil
  | _ => exact absurd mem List.not_mem_nil

end DocumentCache

end TiledView
