import Mathlib.Data.List.Nodup
import TiledView.Proofs.Cache.Action

/-!
# Who owes which bitmap

A bitmap that is lent is with a job, and somebody waits for the job and knows its key.  A
`DocumentCache.Ledger` is what can be said of a cache and the keys of the jobs that are waited for,
whatever happens to the cache: a job that is put off enters the books, its late result leaves them,
and everything else (`DocumentCache.Carries`) changes neither side.  There are three of them.

* `DocumentCache.ledger_lends` — the books are complete.  No two keys are for the same tile, and a
  tile is lent exactly if one of them is for it.  Keys of caches that are gone may stay in the
  books; they name no tile any more.
* `DocumentCache.ledger_behind` — no key is ahead of the cache, whatever results come besides.
* `DocumentCache.ledger_owed` — no bitmap is away without being owed, whatever results come besides.
-/

namespace TiledView

/-- The tile that a key is for: the generation of its cache, its part and its index. -/
def TileKey.place (key : TileKey) : Nat × Nat × Nat := (key.generation, key.part, key.index)

namespace PartCache

variable {α : Type} {c c' : PartCache α} {index other : Nat}

/-- Whether the bitmap of a tile is lent. -/
def lent? (c : PartCache α) (index : Nat) : Option Bool := c.tiles[index]?.map Tile.isLent

/-- The place of a tile of the cache. -/
def placeOf (c : PartCache α) (index : Nat) : Nat × Nat × Nat := (c.generation, c.part, index)

/-- Another slot for tile `index`, which is one of a lent tile or not. -/
lemma lent?_setSlot (slot : TileSlot) {away : Bool}
    (h : ∀ t : Tile, ({ t with slot } : Tile).isLent = away) (other : Nat) :
    (c.setSlot index slot).lent? other =
      if index = other then (c.lent? other).map fun _ => away else c.lent? other := by
  rw [lent?, lent?, getElem?_setSlot]
  split_ifs
  · rw [Option.map_map, Option.map_map]
    exact congrArg (c.tiles[other]?.map ·) (funext h)
  · rfl

/-- Where a tile is known to be at home, making sure of it changes nothing. -/
lemma map_lent?_of_home {tile : Tile} (found : c.tiles[index]? = some tile)
    (home : tile.isLent = false) : (c.lent? index).map (fun _ => false) = c.lent? index := by
  rw [lent?, found, Option.map_some, home]
  rfl

lemma lent?_setSlot_ready {tile : Tile} (found : c.tiles[index]? = some tile)
    (home : tile.isLent = false) (bitmap : Bitmap) (other : Nat) :
    (c.setSlot index (.ready bitmap)).lent? other = c.lent? other := by
  rw [lent?_setSlot (.ready bitmap) (fun _ => rfl)]
  split_ifs with here
  · subst here
    exact map_lent?_of_home found home
  · rfl

lemma lent?_modify {valid : TileSet} {f : Tile → Tile} (hf : ∀ t, (f t).isLent = t.isLent) :
    lent? { c with tiles := c.tiles.modify index f, valid } other = c.lent? other := by
  simp only [lent?, Array.getElem?_modify]
  split_ifs
  · rw [Option.map_map]
    exact congrArg (c.tiles[other]?.map ·) (funext hf)
  · rfl

lemma lent?_invalidateAll (index : Nat) : c.invalidateAll.lent? index = c.lent? index := by
  simp only [lent?, invalidateAll, Array.getElem?_map, Option.map_map]
  rfl

lemma lent?_invalidate [Arithmetic α] (area : Rect .twips) (other : Nat) :
    (c.invalidate area).2.lent? other = c.lent? other := by
  refine List.foldlRecOn (motive := fun result : PartCache α => result.lent? other = c.lent? other)
    (c.intersecting area) invalidateTile rfl ?_
  intro result ih index _
  have raised : ∀ t : Tile, t.raiseEpoch.isLent = t.isLent := fun _ => rfl
  exact (lent?_modify raised).trans ih

lemma lent?_build [Arithmetic α] {part tileEdge generation : Nat} {scale : Scale α}
    {documentSize : Size .twips} {away : Bool}
    (found : (build part scale documentSize tileEdge generation).lent? index = some away) :
    away = false := by
  rw [lent?, build, Array.getElem?_map, Option.map_map, Option.map_eq_some_iff] at found
  obtain ⟨i, -, rfl⟩ := found
  rfl

/-- A late result gives the bitmap of its tile back, and touches no other tile. -/
lemma lent?_takeBack (key : TileKey) (outcome : DrawOutcome) (other : Nat) :
    (c.takeBack key outcome).2.lent? other =
      if key.generation = c.generation ∧ key.index = other then
        (c.lent? other).map fun _ => false
      else c.lent? other := by
  have gives : ∀ slot : TileSlot, (∀ t : Tile, ({ t with slot } : Tile).isLent = false) →
      key.generation = c.generation → (c.setSlot key.index slot).lent? other =
        if key.generation = c.generation ∧ key.index = other then
          (c.lent? other).map fun _ => false
        else c.lent? other := by
    intro slot home mine
    simp only [lent?_setSlot slot home, mine, true_and]
  rw [takeBack]
  split
  · next missing =>
    split_ifs with mine
    · rw [lent?, ← mine.2, missing]
      rfl
    · rfl
  · next tile found =>
    by_cases mine : key.generation = c.generation ∧ tile.isLent = true
    · rw [if_pos mine]
      cases outcome with
      | drawn bitmap =>
          have given := gives (.ready bitmap) (fun _ => rfl) mine.1
          dsimp only
          split <;> exact given
      | failed bitmap => exact gives (.ready bitmap) (fun _ => rfl) mine.1
      | deferred => exact gives .empty (fun _ => rfl) mine.1
    · rw [if_neg mine]
      split_ifs with here
      · have home : tile.isLent = false := Bool.eq_false_iff.2 (not_and.1 mine here.1)
        rw [← here.2]
        exact (map_lent?_of_home found home).symm
      · rfl

end PartCache

namespace DocumentCache

variable {d d' : DocumentCache} {keys kept rest : List TileKey} {key : TileKey} {part : Nat}
  {c c' : PartCache Float}

/-! ## What lends nothing -/

/-- The cache `c'` of a part is the one of `d`, with the same tiles lent, or a new one. -/
inductive Carried (d : DocumentCache) (part : Nat) (c' : PartCache Float) : Prop where
  | same (c : PartCache Float) (found : d.parts[part]? = some c) (outline : c'.outline = c.outline)
      (lent : ∀ index, c'.lent? index = c.lent? index)
  | new (fresh : d.nextGeneration ≤ c'.generation)
      (home : ∀ index away, c'.lent? index = some away → away = false)

/-- Between `d` and `d'` no bitmap is lent or given back. -/
structure Carries (d d' : DocumentCache) : Prop where
  behind : ∀ key, d.Behind 0 key → d'.Behind 0 key
  parts : ∀ part c', d'.parts[part]? = some c' → Carried d part c'

lemma getElem?_setPart_self (found : d.parts[part]? = some c) :
    (d.setPart part c').parts[part]? = some c' := by
  rw [setPart, Array.getElem?_setIfInBounds_self_of_lt (Array.getElem?_eq_some_iff.1 found).1]

lemma getElem?_setPart_of_ne {other : Nat} (apart : part ≠ other) :
    (d.setPart part c').parts[other]? = d.parts[other]? :=
  Array.getElem?_setIfInBounds_ne apart

lemma setPart_eq_modifyPart (found : d.parts[part]? = some c)
    (f : PartCache Float → PartCache Float) : d.setPart part (f c) = d.modifyPart part f := by
  rw [setPart, modifyPart]
  have same : d.parts.setIfInBounds part (f c) = d.parts.modify part f := by
    refine Array.ext_getElem? fun other => ?_
    rw [Array.getElem?_modify, Array.getElem?_setIfInBounds]
    split_ifs with here inside
    · rw [← here, found]
      rfl
    · exact absurd (Array.getElem?_eq_some_iff.1 found).1 inside
    · rfl
  rw [same]

/-- A late result is given to the cache of its part. -/
lemma takeBack_eq_modifyPart (d : DocumentCache) (key : TileKey) (outcome : DrawOutcome) :
    (d.takeBack key outcome).2 =
      d.modifyPart key.part fun c => (c.takeBack key outcome).2 := by
  rw [takeBack, modifyPart]
  split
  · next missing =>
    have same : d.parts.modify key.part (fun c => (c.takeBack key outcome).2) = d.parts := by
      refine Array.ext_getElem? fun part => ?_
      rw [Array.getElem?_modify]
      split_ifs with here
      · rw [← here, missing]
        rfl
      · rfl
    rw [same]
  · next c found =>
    exact setPart_eq_modifyPart found fun c => (c.takeBack key outcome).2

lemma InPlace.setPart (h : d.InPlace) (found : d.parts[part]? = some c)
    (outline : c'.outline = c.outline) : (d.setPart part c').InPlace := by
  intro other e found'
  by_cases here : part = other
  · subst here
    rw [getElem?_setPart_self found, Option.some.injEq] at found'
    rw [← found', (PartCache.outline_fields outline).1, h part c found]
  · rw [getElem?_setPart_of_ne here] at found'
    exact h other e found'

lemma Behind.setPart {n : Nat} (h : d.Behind n key) (found : d.parts[part]? = some c)
    (outline : c'.outline = c.outline) (raises : PartCache.Raises 0 key.index c c') :
    (d.setPart part c').Behind n key := by
  refine ⟨h.1, fun e found' same tile' htile' => ?_⟩
  by_cases here : part = key.part
  · subst here
    rw [getElem?_setPart_self found, Option.some.injEq] at found'
    subst found'
    obtain ⟨tile, htile, le⟩ := raises tile' htile'
    have generation := (PartCache.outline_fields outline).2.2.1
    have lag := h.2 c found (generation.symm.trans same) tile htile
    omega
  · rw [getElem?_setPart_of_ne here] at found'
    exact h.2 e found' same tile' htile'

namespace Carries

lemma act (inPlace : d.InPlace) (action : CacheAction)
    (carried : ∀ part c', (d.act action).parts[part]? = some c' → Carried d part c') :
    d.Carries (d.act action) := ⟨fun _ behind => behind.act inPlace, carried⟩

lemma fit (inPlace : d.InPlace) (count : Nat) (scale : ViewScale) (documentSize : Size .twips) :
    d.Carries (d.fit count scale documentSize) := by
  refine act inPlace (.fit count scale documentSize) ?_
  intro part c' found'
  obtain ⟨-, size, -, fitted⟩ := fit_spec d count scale documentSize
  obtain ⟨c, hc, hfitted⟩ := fitted part (size ▸ (Array.getElem?_eq_some_iff.1 found').1)
  obtain rfl : c = c' := Option.some.inj (hc.symm.trans found')
  cases hfitted with
  | kept c found => exact .same c found rfl fun _ => rfl
  | built generation fresh => exact .new fresh.1 fun _ _ => PartCache.lent?_build

lemma invalidateAll (inPlace : d.InPlace) : d.Carries d.invalidateAll := by
  refine act inPlace .staleAll ?_
  intro part c' found'
  rw [DocumentCache.act, DocumentCache.invalidateAll, Array.getElem?_map] at found'
  obtain ⟨c, found, rfl⟩ := Option.map_eq_some_iff.1 found'
  exact .same c found c.outline_invalidateAll PartCache.lent?_invalidateAll

lemma modifyPart (inPlace : d.InPlace) (action : CacheAction)
    {f : PartCache Float → PartCache Float} (same : d.act action = d.modifyPart part f)
    (outline : ∀ c, (f c).outline = c.outline)
    (lent : ∀ c index, (f c).lent? index = c.lent? index) : d.Carries (d.modifyPart part f) := by
  refine same ▸ act inPlace action ?_
  intro other c' found'
  obtain ⟨c, found, ⟨-, rfl⟩ | ⟨-, rfl⟩⟩ := getElem?_modifyPart (same ▸ found')
  · exact .same c found (outline c) (lent c)
  · exact .same c' found rfl fun _ => rfl

/-- Another cache for a part, with the same tiles lent. -/
lemma setPart (found : d.parts[part]? = some c) (outline : c'.outline = c.outline)
    (raises : ∀ index, PartCache.Raises 0 index c c')
    (lent : ∀ index, c'.lent? index = c.lent? index) : d.Carries (d.setPart part c') := by
  refine ⟨fun key behind => behind.setPart found outline (raises key.index), ?_⟩
  intro other e found'
  by_cases here : part = other
  · subst here
    rw [getElem?_setPart_self found, Option.some.injEq] at found'
    subst found'
    exact .same c found outline lent
  · rw [getElem?_setPart_of_ne here] at found'
    exact .same e found' rfl fun _ => rfl

end Carries

/-- A late result brings home the bitmap of the tile that it is for, and no other. -/
lemma lent?_of_takeBack (inPlace : d.InPlace) {outcome : DrawOutcome}
    (found' : (d.takeBack key outcome).2.parts[part]? = some c') (index : Nat) :
    ∃ c, d.parts[part]? = some c ∧ c'.placeOf index = c.placeOf index ∧
      c'.lent? index = if c.placeOf index = key.place then (c.lent? index).map fun _ => false
        else c.lent? index := by
  rw [takeBack_eq_modifyPart] at found'
  obtain ⟨c, found, ⟨rfl, rfl⟩ | ⟨apart, rfl⟩⟩ := getElem?_modifyPart found'
  · have outline := PartCache.outline_fields (c.outline_takeBack key outcome)
    have mine : key.generation = c.generation ∧ key.index = index ↔
        c.placeOf index = key.place := by
      simp only [PartCache.placeOf, TileKey.place, inPlace _ c found, Prod.mk.injEq, true_and,
        eq_comm]
    refine ⟨c, found, ?_, ?_⟩
    · rw [PartCache.placeOf, outline.1, outline.2.2.1]
      rfl
    · rw [PartCache.lent?_takeBack]
      exact if_congr mine rfl rfl
  · refine ⟨c', found, rfl, (if_neg fun place => apart ?_).symm⟩
    rw [← inPlace part c' found]
    exact (congrArg (fun place => place.2.1) place).symm

/-! ## Ledgers -/

/-- What lasts of a cache and the keys of the jobs that are waited for.  `ok` tells which results
may come although nobody waits for them. -/
structure Ledger (ok : TileKey → DrawOutcome → Prop)
    (P : DocumentCache → List TileKey → Prop) : Prop where
  empty {d : DocumentCache} (none : d.parts = #[]) : P d []
  carry {d d' : DocumentCache} {keys : List TileKey} (h : P d keys) (carries : d.Carries d') :
    P d' keys
  /-- A job is put off, and is waited for from now on. -/
  lend {d : DocumentCache} {keys : List TileKey} {part index : Nat} {c : PartCache Float}
    {tile : Tile} (h : P d keys) (inPlace : d.InPlace) (found : d.parts[part]? = some c)
    (generation : c.generation < d.nextGeneration) (htile : c.tiles[index]? = some tile)
    (home : tile.isLent = false) :
    P (d.setPart part (c.setSlot index .lent)) (keys ++ [c.keyOf index tile])
  /-- The result of a job has come that was waited for. -/
  takeBack {d : DocumentCache} {kept rest : List TileKey} {key : TileKey}
    (h : P d (kept ++ key :: rest)) (inPlace : d.InPlace) (outcome : DrawOutcome) :
    P (d.takeBack key outcome).2 (kept ++ rest)
  /-- A result has come that nobody waits for. -/
  stray {d : DocumentCache} {keys : List TileKey} {key : TileKey} {outcome : DrawOutcome}
    (h : P d keys) (inPlace : d.InPlace) (allowed : ok key outcome) :
    P (d.takeBack key outcome).2 keys

/-! ## No key is ahead -/

/-- A job that is put off now is not ahead of the cache. -/
lemma behind_lend (inPlace : d.InPlace) (found : d.parts[part]? = some c)
    (generation : c.generation < d.nextGeneration) {index : Nat} {tile : Tile}
    (htile : c.tiles[index]? = some tile) :
    (d.setPart part (c.setSlot index .lent)).Behind 0 (c.keyOf index tile) := by
  refine ⟨generation, fun e found' _ tile' htile' => ?_⟩
  obtain rfl : c.part = part := inPlace part c found
  rw [PartCache.keyOf, getElem?_setPart_self found, Option.some.injEq] at found'
  subst found'
  rw [PartCache.keyOf, PartCache.getElem?_setSlot_self htile, Option.some.injEq] at htile'
  rw [← htile']
  exact Nat.le_refl _

/-- **Keys that were given out are never ahead of the cache**, whatever results come. -/
theorem ledger_behind (ok : TileKey → DrawOutcome → Prop) :
    Ledger ok fun d keys => ∀ key ∈ keys, d.Behind 0 key where
  empty := fun _ _ mem => absurd mem List.not_mem_nil
  carry := fun h carries key mem => carries.behind key (h key mem)
  lend := by
    intro d keys part index c tile h inPlace found generation htile home key mem
    rcases List.mem_append.1 mem with old | last
    · have raises := PartCache.Raises.setSlot (c := c) key.index index .lent
      exact (h key old).setPart found (c.outline_setSlot index .lent) raises
    · rw [List.mem_singleton.1 last]
      exact behind_lend inPlace found generation htile
  takeBack := by
    intro d kept rest key h inPlace outcome other mem
    have fewer : (kept ++ rest).Sublist (kept ++ key :: rest) :=
      .append_left (List.sublist_cons_self key rest) kept
    show (d.act (.late key outcome)).Behind 0 other
    exact (h other (fewer.subset mem)).act inPlace
  stray := by
    intro d keys key outcome h inPlace _ other mem
    show (d.act (.late key outcome)).Behind 0 other
    exact (h other mem).act inPlace

/-! ## Every bitmap is owed once -/

/-- The bitmaps that are lent are owed by the jobs with `keys`, each by one of them. -/
structure Lends (keys : List TileKey) (d : DocumentCache) : Prop where
  /-- No two jobs are for the same tile. -/
  once : (keys.map TileKey.place).Nodup
  behind : ∀ key ∈ keys, d.Behind 0 key
  lent : ∀ (part : Nat) (c : PartCache Float), d.parts[part]? = some c →
    ∀ index away, c.lent? index = some away →
      (away = true ↔ c.placeOf index ∈ keys.map TileKey.place)

namespace Lends

lemma empty (none : d.parts = #[]) : d.Lends [] where
  once := List.nodup_nil
  behind := (ledger_behind fun _ _ => True).empty none
  lent := by
    intro part c found
    rw [none, Array.getElem?_empty] at found
    cases found

/-- Where no bitmap is lent or given back, the books stay as they are. -/
lemma carry (h : d.Lends keys) (carries : d.Carries d') : d'.Lends keys where
  once := h.once
  behind := (ledger_behind fun _ _ => True).carry h.behind carries
  lent := by
    intro part c' found' index away lent'
    cases carries.parts part c' found' with
    | same c found outline lent =>
        obtain ⟨part_eq, -, generation, -, -⟩ := PartCache.outline_fields outline
        rw [PartCache.placeOf, part_eq, generation]
        exact h.lent part c found index away ((lent index).symm.trans lent')
    | new fresh home =>
        rw [home index away lent']
        refine ⟨fun absurd => (Bool.false_ne_true absurd).elim, fun mem => ?_⟩
        obtain ⟨key, hkey, place⟩ := List.mem_map.1 mem
        have given := (h.behind key hkey).1
        have generation : key.generation = c'.generation := congrArg Prod.fst place
        omega

/-- A job that is put off owes the bitmap of its tile from now on. -/
lemma lend (h : d.Lends keys) (inPlace : d.InPlace) (found : d.parts[part]? = some c)
    (generation : c.generation < d.nextGeneration) {index : Nat} {tile : Tile}
    (htile : c.tiles[index]? = some tile) (home : tile.isLent = false) :
    (d.setPart part (c.setSlot index .lent)).Lends (keys ++ [c.keyOf index tile]) := by
  have place : (c.keyOf index tile).place = c.placeOf index := rfl
  have settled : c.lent? index = some false := by
    rw [PartCache.lent?, htile, Option.map_some, home]
  have new : c.placeOf index ∉ keys.map TileKey.place := fun owed =>
    Bool.false_ne_true ((h.lent part c found index false settled).2 owed)
  have owed : ∀ other, other ∈ (keys ++ [c.keyOf index tile]).map TileKey.place ↔
      other ∈ keys.map TileKey.place ∨ other = c.placeOf index := by
    intro other
    rw [List.map_append, List.mem_append, List.map_singleton, List.mem_singleton, place]
  refine ⟨?_, (ledger_behind fun _ _ => True).lend h.behind inPlace found generation htile home,
    ?_⟩
  · rw [List.map_append, List.map_singleton, place]
    refine List.nodup_append.2 ⟨h.once, List.nodup_singleton _, ?_⟩
    intro other old last mem same
    rw [List.mem_singleton.1 mem] at same
    exact new (same ▸ old)
  · intro other e found' i away lent
    rw [owed]
    by_cases here : part = other
    · subst here
      rw [getElem?_setPart_self found, Option.some.injEq] at found'
      subst found'
      rw [PartCache.lent?_setSlot .lent (fun _ => rfl)] at lent
      have same : (c.setSlot index .lent).placeOf i = c.placeOf i := rfl
      rw [same]
      by_cases this : index = i
      · subst this
        rw [if_pos rfl, settled] at lent
        cases lent
        exact ⟨fun _ => .inr rfl, fun _ => rfl⟩
      · rw [if_neg this] at lent
        rw [h.lent part c found i away lent, or_iff_left fun same => this ?_]
        exact (congrArg (fun place => place.2.2) same).symm
    · rw [getElem?_setPart_of_ne here] at found'
      rw [h.lent other e found' i away lent, or_iff_left fun same => here ?_]
      rw [← inPlace part c found, ← inPlace other e found']
      exact (congrArg (fun place => place.2.1) same).symm

/-- A late result gives its bitmap back, and nobody owes it any more. -/
lemma takeBack (h : d.Lends (kept ++ key :: rest)) (inPlace : d.InPlace)
    (outcome : DrawOutcome) : (d.takeBack key outcome).2.Lends (kept ++ rest) := by
  have fewer : (kept ++ rest).Sublist (kept ++ key :: rest) :=
    .append_left (List.sublist_cons_self key rest) kept
  have split : ∀ place, place ∈ (kept ++ key :: rest).map TileKey.place ↔
      place = key.place ∨ place ∈ (kept ++ rest).map TileKey.place := by
    intro place
    simp only [List.map_append, List.map_cons, List.mem_append, List.mem_cons]
    tauto
  have gone : key.place ∉ (kept ++ rest).map TileKey.place := by
    have once := h.once
    rw [List.map_append, List.map_cons, List.nodup_middle, List.nodup_cons] at once
    rw [List.map_append]
    exact once.1
  refine ⟨h.once.sublist (fewer.map _),
    (ledger_behind fun _ _ => True).takeBack h.behind inPlace outcome, ?_⟩
  intro part c' found' index away lent
  obtain ⟨c, found, same, lent'⟩ := lent?_of_takeBack inPlace found' index
  rw [lent'] at lent
  rw [same]
  split_ifs at lent with mine
  · obtain ⟨-, -, rfl⟩ := Option.map_eq_some_iff.1 lent
    rw [mine]
    exact ⟨fun absurd => (Bool.false_ne_true absurd).elim, fun owed => (gone owed).elim⟩
  · rw [h.lent part c found index away lent, split, or_iff_right mine]

end Lends

/-- **The books stay complete** where no result comes that nobody waits for. -/
theorem ledger_lends : Ledger (fun _ _ => False) fun d keys => d.Lends keys where
  empty := .empty
  carry := .carry
  lend := fun h inPlace found generation htile home =>
    h.lend inPlace found generation htile home
  takeBack := .takeBack
  stray := fun _ _ allowed => allowed.elim

/-! ## No bitmap is away for good -/

/-- Every bitmap that is lent is owed by one of the jobs with `keys`. -/
def Owed (keys : List TileKey) (d : DocumentCache) : Prop :=
  ∀ (part : Nat) (c : PartCache Float), d.parts[part]? = some c → ∀ index,
    c.lent? index = some true → c.placeOf index ∈ keys.map TileKey.place

namespace Owed

lemma carry (h : d.Owed keys) (carries : d.Carries d') : d'.Owed keys := by
  intro part c' found' index lent'
  cases carries.parts part c' found' with
  | same c found outline lent =>
      obtain ⟨part_eq, -, generation, -, -⟩ := PartCache.outline_fields outline
      rw [PartCache.placeOf, part_eq, generation]
      exact h part c found index ((lent index).symm.trans lent')
  | new fresh home => exact (Bool.false_ne_true (home index true lent').symm).elim

lemma lend (h : d.Owed keys) (found : d.parts[part]? = some c) {index : Nat} (tile : Tile) :
    (d.setPart part (c.setSlot index .lent)).Owed (keys ++ [c.keyOf index tile]) := by
  intro other e found' i lent
  rw [List.map_append, List.mem_append]
  by_cases here : part = other
  · subst here
    rw [getElem?_setPart_self found, Option.some.injEq] at found'
    subst found'
    rw [PartCache.lent?_setSlot .lent (fun _ => rfl)] at lent
    split_ifs at lent with this
    · subst this
      exact .inr (List.mem_singleton_self _)
    · exact .inl (h part c found i lent)
  · rw [getElem?_setPart_of_ne here] at found'
    exact .inl (h other e found' i lent)

/-- A bitmap that is still away after a late result was away before, and is not the one that has
come. -/
lemma lent_of_takeBack (inPlace : d.InPlace) {outcome : DrawOutcome}
    (found' : (d.takeBack key outcome).2.parts[part]? = some c') {index : Nat}
    (lent : c'.lent? index = some true) :
    ∃ c, d.parts[part]? = some c ∧ c.lent? index = some true ∧
      c'.placeOf index = c.placeOf index ∧ c.placeOf index ≠ key.place := by
  obtain ⟨c, found, same, lent'⟩ := lent?_of_takeBack inPlace found' index
  rw [lent'] at lent
  split_ifs at lent with mine
  · obtain ⟨-, -, absurd⟩ := Option.map_eq_some_iff.1 lent
    exact (Bool.false_ne_true absurd).elim
  · exact ⟨c, found, lent, same, mine⟩

lemma takeBack (h : d.Owed (kept ++ key :: rest)) (inPlace : d.InPlace) (outcome : DrawOutcome) :
    (d.takeBack key outcome).2.Owed (kept ++ rest) := by
  intro part c' found' index lent'
  obtain ⟨c, found, lent, same, other⟩ := lent_of_takeBack inPlace found' lent'
  have owed := h part c found index lent
  rw [List.map_append, List.map_cons, List.mem_append, List.mem_cons] at owed
  rw [same, List.map_append, List.mem_append]
  exact owed.imp_right fun mem => mem.resolve_left other

lemma stray (h : d.Owed keys) (inPlace : d.InPlace) (key : TileKey) (outcome : DrawOutcome) :
    (d.takeBack key outcome).2.Owed keys := by
  intro part c' found' index lent'
  obtain ⟨c, found, lent, same, -⟩ := lent_of_takeBack inPlace found' lent'
  rw [same]
  exact h part c found index lent

end Owed

/-- **No bitmap is away without being owed**, whatever results come. -/
theorem ledger_owed (ok : TileKey → DrawOutcome → Prop) :
    Ledger ok fun d keys => d.Owed keys where
  empty := by
    intro d none part c found
    rw [none, Array.getElem?_empty] at found
    cases found
  carry := .carry
  lend := fun h _ found _ _ _ => h.lend found _
  takeBack := .takeBack
  stray := fun h inPlace _ => h.stray inPlace _ _

end DocumentCache

end TiledView
