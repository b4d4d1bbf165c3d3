import TiledView.Proofs.Paint.Outdated

/-!
# Recorded damage is real

The damage of a painter is recorded in three forms, nothing, everything or a list of rectangles, and
clipped to the bounds of a surface whose size may change.

* `Damage.Real` — the list is short and not empty, and every rectangle of it has pixels and lies
  within the bounds.  Marking, merging and shifting keep damage real.
* `Painter.Reachable.realDamage` — after any calls the damage of a painter is real, so what a paint
  pass takes out of it is work it can do (`Damage.Real.work`).
* `Painter.Hollow` — damage to the whole of a surface that has no pixels.  It is the one case in
  which a painter lists damage that no paint pass can take out
  (`Painter.Reachable.damageList_iff`, `Painter.Hollow.paint`): a pass looks whether the surface is
  empty, the list of damage does not.
-/

namespace TiledView

variable {σ : Type}

/-! ## The three forms of damage -/

namespace Damage

variable {d : Damage} {bounds rect area : Rect .device} {rects : List (Rect .device)}

/-- Damage within `bounds` that there is something to do about. -/
inductive Real (bounds : Rect .device) : Damage → Prop where
  | nothing : Real bounds .nothing
  | everything : Real bounds .everything
  | listed (rects : List (Rect .device)) (some : rects ≠ []) (few : rects.length ≤ maxRects)
      (inside : ∀ rect ∈ rects, bounds.containsRect rect = true) : Real bounds (.listed rects)

lemma one_le_maxRects : 1 ≤ maxRects := by decide

lemma containsRect_foldl_union (rects : List (Rect .device)) {box : Rect .device}
    (hbox : bounds.containsRect box = true)
    (inside : ∀ rect ∈ rects, bounds.containsRect rect = true) :
    bounds.containsRect (rects.foldl Rect.union box) = true := by
  refine List.foldlRecOn (motive := fun box => bounds.containsRect box = true) rects _ hbox ?_
  exact fun box ih rect mem => Rect.containsRect_union ih (inside rect mem)

lemma containsRect_boundingBox (some : rects ≠ [])
    (inside : ∀ rect ∈ rects, bounds.containsRect rect = true) :
    bounds.containsRect (boundingBox rects) = true := by
  obtain ⟨first, rest, rfl⟩ := List.exists_cons_of_ne_nil some
  rw [List.forall_mem_cons] at inside
  exact containsRect_foldl_union rest inside.1 inside.2

lemma real_insert (few : rects.length ≤ maxRects)
    (inside : ∀ other ∈ rects, bounds.containsRect other = true)
    (hrect : bounds.containsRect rect = true) (some : rects ≠ []) :
    Real bounds (.listed (insert rects rect)) := by
  have both : ∀ other ∈ rects ++ [rect], bounds.containsRect other = true := by
    intro other mem
    rcases List.mem_append.1 mem with old | new
    · exact inside other old
    · exact List.mem_singleton.1 new ▸ hrect
  simp only [insert]
  split_ifs with covered full
  · exact .listed rects some few inside
  · refine .listed _ (List.cons_ne_nil _ _) one_le_maxRects ?_
    rw [List.forall_mem_singleton]
    exact containsRect_boundingBox (by simp) both
  · exact .listed _ (by simp) (Nat.le_of_not_lt full) both

/-- **Recording a rectangle** keeps damage real. -/
theorem Real.mark (h : d.Real bounds) (rect : Rect .device) : (d.mark rect bounds).Real bounds := by
  simp only [Damage.mark]
  split_ifs with empty whole
  · exact h
  · exact .everything
  · have inside := (Rect.containsRect_intersect (Bool.eq_false_iff.2 empty)).2
    cases h with
    | nothing =>
        exact .listed _ (List.cons_ne_nil _ _) one_le_maxRects (List.forall_mem_singleton.2 inside)
    | everything => exact .everything
    | listed rects some few old => exact real_insert few old inside some

/-- **Damage that follows scrolling content** stays real. -/
theorem Real.shift (h : d.Real bounds) (within : ∀ p ∈ area, p ∈ bounds) (dx dy : Int) :
    (d.shift area dx dy).Real bounds := by
  cases h with
  | nothing => exact .nothing
  | everything => exact .everything
  | listed rects some few inside =>
      simp only [Damage.shift]
      split
      · exact .nothing
      · next moved some =>
        refine .listed _ some ?_ ?_
        · refine Nat.le_trans (List.length_filter_le _ _) ?_
          rwa [List.length_map]
        · intro rect mem
          obtain ⟨source, pixels⟩ := List.mem_filter.1 mem
          obtain ⟨old, hold, rfl⟩ := List.mem_map.1 source
          split_ifs at pixels ⊢
          · refine Rect.containsRect_of_forall_mem (by simpa using pixels) fun p hp => ?_
            exact within p (Rect.mem_intersect.1 hp).2
          · exact inside old hold

/-- A paint pass takes out what it can work on. -/
lemma Real.work (h : d.Real bounds) : ∀ rect ∈ d.work bounds, bounds.containsRect rect = true := by
  cases h with
  | nothing => exact fun _ mem => absurd mem List.not_mem_nil
  | everything =>
      rw [Damage.work]
      split_ifs with empty
      · exact fun _ mem => absurd mem List.not_mem_nil
      · refine List.forall_mem_singleton.2 ?_
        exact Rect.containsRect_of_forall_mem (Bool.eq_false_iff.2 empty) fun _ hp => hp
  | listed rects some few inside => exact inside

lemma Real.length_toList (h : d.Real bounds) : (d.toList bounds).length ≤ maxRects := by
  cases h with
  | nothing => exact Nat.zero_le _
  | everything => exact one_le_maxRects
  | listed rects some few inside => exact few

lemma toList_eq_work (d : Damage) (h : ¬(bounds.isEmpty = true ∧ d = .everything)) :
    d.toList bounds = d.work bounds := by
  cases d with
  | nothing => rfl
  | everything => exact (if_neg fun empty => h ⟨empty, rfl⟩).symm
  | listed => rfl

end Damage

/-! ## Painters -/

namespace Painter

variable {p : Painter} {ok : TileKey → DrawOutcome → Prop}

lemma damage_paintRects (p : Painter) (rects : List (Rect .device))
    (renderer : SubmittingRenderer σ) (s : σ) :
    (p.paintRects rects renderer s).2.1.damage = p.damage := by
  simp only [paintRects]
  split
  · rfl
  · split_ifs <;> rfl

/-- There is something to do about the damage of a painter. -/
def RealDamage (p : Painter) : Prop := p.damage.Real p.surface.bounds

namespace RealDamage

lemma create (settings : PaintSettings) (tileEdge : Nat) :
    (create settings tileEdge).RealDamage := .nothing

lemma resize (h : p.RealDamage) (size : Size .device) : (p.resize size).RealDamage := by
  rw [Painter.resize]
  split_ifs
  · exact h
  · exact .everything

lemma markDamage (h : p.RealDamage) (rect : Rect .device) : (p.markDamage rect).RealDamage :=
  h.mark rect

lemma scroll (h : p.RealDamage) (area : Rect .device) (shift : AxisShift) :
    (p.scroll area shift).RealDamage := by
  rcases scroll_eq p area shift with ⟨-, same⟩ | same | same <;> rw [same]
  · exact h
  · exact h.markDamage _
  · refine markDamage (p := { p with surface := _, damage := _ }) ?_ _
    exact h.shift (fun q hq => (Rect.mem_intersect.1 hq).2) _ _

lemma takeBack (h : p.RealDamage) (key : TileKey) (outcome : DrawOutcome) :
    (p.takeBack key outcome).RealDamage := by
  rcases takeBack_eq p key outcome with same | ⟨rect, same⟩ <;> rw [same]
  · exact h
  · exact markDamage (p := { p with cache := _ }) h rect

lemma carryOut (h : p.RealDamage) (request : PaintRequest) : (p.carryOut request).RealDamage := by
  cases request with
  | staleArea | stalePart => exact h
  | damaged rect => exact h.markDamage rect.effective
  | scroll area shift => exact h.scroll area shift
  | lateResult key outcome => exact h.takeBack key outcome

lemma request (h : p.RealDamage) (request : PaintRequest) : (p.request request).RealDamage := by
  rw [Painter.request]
  split
  · exact h.carryOut request
  · exact h

lemma receive (h : p.RealDamage) : p.receive.RealDamage :=
  List.foldlRecOn (motive := RealDamage) p.inbox Painter.request h fun _ ih request _ =>
    ih.request request

lemma carryOutDeferred (h : p.RealDamage) : p.carryOutDeferred.RealDamage := by
  have carried : (p.deferred.foldl Painter.carryOut { p with deferred := [] }).RealDamage :=
    List.foldlRecOn (motive := RealDamage) p.deferred Painter.carryOut h fun _ ih request _ =>
      ih.carryOut request
  exact carried.receive

/-- A paint pass takes the damage out, and what arrives meanwhile is recorded after it. -/
lemma paint (h : p.RealDamage) (renderer : SubmittingRenderer σ) (s : σ) :
    (p.paint renderer s).2.1.RealDamage := by
  have received := h.receive
  by_cases empty : p.receive.surface.isEmpty = true
  · rw [paint_of_isEmpty empty]
    exact received
  · rw [paint_of_not_isEmpty empty]
    refine carryOutDeferred ?_
    have none := damage_paintRects p.receive.started
      (p.receive.damage.work p.receive.surface.bounds) renderer s
    rw [RealDamage, none]
    exact .nothing

end RealDamage

/-- **The damage of a painter is real**, whatever calls have led to it. -/
theorem Reachable.realDamage (reachable : Reachable ok p) : p.RealDamage := by
  induction reachable with
  | create settings tileEdge => exact .create settings tileEdge
  | step _ step ih =>
      cases step with
      | resize _ size => exact ih.resize size
      | place | submit | cache => exact ih
      | request _ request => exact ih.request request
      | receive => exact ih.receive
      | paint _ renderer s => exact ih.paint renderer s

/-! ## A surface without pixels -/

/-- All of a surface is damaged that has no pixels. -/
def Hollow (p : Painter) : Prop := p.surface.isEmpty = true ∧ p.damage = .everything

namespace Hollow

lemma bounds (h : p.Hollow) : p.surface.bounds.isEmpty = true :=
  p.surface.isEmpty_bounds.trans h.1

/-- The bounds are listed, and no work is to be done. -/
lemma lists (h : p.Hollow) : p.damageList = [p.surface.bounds] ∧
    p.damage.work p.surface.bounds = [] := by
  rw [damageList, h.2]
  exact ⟨rfl, if_pos h.bounds⟩

lemma of_sameFrame {p' : Painter} (h : p.Hollow) (same : SameFrame p p')
    (damage : p'.damage = .everything) : p'.Hollow := by
  refine ⟨?_, damage⟩
  rw [← Bitmap.isEmpty_bounds, same.bounds]
  exact h.bounds

lemma carryOut (h : p.Hollow) (request : PaintRequest) : (p.carryOut request).Hollow :=
  h.of_sameFrame (sameFrame_carryOut p request) (everything_carryOut h.2 request)

lemma request (h : p.Hollow) (request : PaintRequest) : (p.request request).Hollow := by
  rw [Painter.request]
  split
  · exact h.carryOut request
  · exact h

lemma receive (h : p.Hollow) : p.receive.Hollow :=
  List.foldlRecOn (motive := Hollow) p.inbox Painter.request h fun _ ih request _ =>
    ih.request request

/-- **A paint pass leaves it as it is.** -/
lemma paint (h : p.Hollow) (renderer : SubmittingRenderer σ) (s : σ) :
    (p.paint renderer s).2.1.Hollow := by
  rw [paint_of_isEmpty h.receive.1]
  exact h.receive

end Hollow

/-- What is listed is what a paint pass takes out, unless the surface is damaged without having
pixels. -/
lemma damageList_eq_work (filled : ¬p.Hollow) : p.damageList = p.damage.work p.surface.bounds := by
  refine Damage.toList_eq_work p.damage fun empty => filled ⟨?_, empty.2⟩
  exact p.surface.isEmpty_bounds ▸ empty.1

/-- **The listed damage is work that can be done**, in every painter that can come about, except on
a surface that is damaged without having pixels. -/
theorem Reachable.damageList_iff (reachable : Reachable ok p) :
    (∀ rect ∈ p.damageList, rect.isEmpty = false ∧ p.surface.bounds.containsRect rect = true) ↔
      ¬p.Hollow := by
  refine ⟨fun real hollow => ?_, fun filled rect mem => ?_⟩
  · have first := real p.surface.bounds (hollow.lists.1 ▸ List.mem_singleton_self _)
    exact Bool.false_ne_true (first.1.symm.trans hollow.bounds)
  · rw [damageList_eq_work filled] at mem
    have inside := reachable.realDamage.work rect mem
    exact ⟨Rect.isEmpty_of_containsRect inside, inside⟩

end Painter

end TiledView
