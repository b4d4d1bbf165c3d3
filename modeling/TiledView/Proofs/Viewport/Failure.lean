import TiledView.Proofs.Viewport

/-!
# What a refused operation leaves behind

The host tells a viewport of a new place, a new zoom or a new scroll target, and every one of these
may be refused.  A host that tries again later has to find the viewport it had before.

* `Viewport.perform`, `Viewport.run` — an operation and a run of them, with their answers.
* `Viewport.unchanged_of_failed_iff` — a refused operation leaves every field of the viewport as it
  was, for all arguments, but one: where the scroll offset cannot follow a new zoom, because the
  quotient of the two zooms or a product with it is not finite, the zoom is in force although the
  operation is refused.
* `Viewport.run_served` — a run without such a zoom goes as if nothing had ever been refused.

The exception is a slip.  A place and a scroll target are checked before the first field is written,
a zoom is written before the arithmetic that may fail; and a host that asks for that zoom again is
told that there is nothing to do, so it never learns that the scale has changed.
-/

namespace TiledView

namespace Viewport

variable {v : Viewport} {documentSize : Size .twips} {error : ViewportError}

/-! ## Operations -/

/-- What the host may ask of a viewport, with all of its arguments. -/
inductive Operation where
  | setViewRect (cssRect : Rect .css) (deviceScale : Float)
  | setZoom (zoom : Float) (documentSize : Size .twips)
  | scrollTo (requested : Point .css Float) (documentSize : Size .twips)

/-- What an operation tells when it is not refused. -/
inductive Effect where
  | geometry (change : ViewportChange)
  | scrolled (shifts : List AxisShift)
  deriving DecidableEq

/-- The answer to an operation and the viewport after it. -/
def perform (v : Viewport) : Operation → Except ViewportError Effect × Viewport
  | .setViewRect cssRect deviceScale =>
    (v.setViewRect cssRect deviceScale).map (Except.map .geometry) id
  | .setZoom zoom documentSize => (v.setZoom zoom documentSize).map (Except.map .geometry) id
  | .scrollTo requested documentSize =>
    (v.scrollTo requested documentSize).map (Except.map .scrolled) id

/-- The answers to operations in turn, and the viewport after the last. -/
def run (v : Viewport) : List Operation → List (Except ViewportError Effect) × Viewport
  | [] => ([], v)
  | operation :: later =>
    let rest := (v.perform operation).2.run later
    ((v.perform operation).1 :: rest.1, rest.2)

/-- The operations of a run that are not refused. -/
def served (v : Viewport) : List Operation → List Operation
  | [] => []
  | operation :: later =>
    let rest := (v.perform operation).2.served later
    if (v.perform operation).1.isOk then operation :: rest else rest

/-- A new zoom that the scroll offset could not follow. -/
def Operation.Overruns (operation : Operation) (error : ViewportError) : Prop :=
  error = .nonFiniteValue ∧ ∃ zoom documentSize, operation = .setZoom zoom documentSize

/-- The scroll offset follows every new zoom of a run. -/
def Follows (v : Viewport) : List Operation → Prop
  | [] => True
  | operation :: later =>
    (∀ error, (v.perform operation).1 = .error error → ¬operation.Overruns error) ∧
      (v.perform operation).2.Follows later

/-! ## One refused operation -/

lemma setViewRect_of_failed {cssRect : Rect .css} {deviceScale : Float}
    (failed : (v.setViewRect cssRect deviceScale).1 = .error error) :
    (v.setViewRect cssRect deviceScale).2 = v := by
  simp only [setViewRect] at failed ⊢
  split_ifs at failed ⊢ with refused
  rfl

lemma scrollTo_of_failed {requested : Point .css Float}
    (failed : (v.scrollTo requested documentSize).1 = .error error) :
    (v.scrollTo requested documentSize).2 = v := by
  obtain ⟨_, same⟩ | ⟨_, _, done⟩ := scrollTo_eq v requested documentSize
  · rw [same]
  · rw [done] at failed
    cases failed

/-- A zoom is refused for its value, and then nothing happens, or for a number on the way to the new
scroll offset, and then it is in force. -/
lemma setZoom_of_failed {zoom : Float} (failed : (v.setZoom zoom documentSize).1 = .error error) :
    error = .invalidZoom ∧ (v.setZoom zoom documentSize).2 = v ∨
      error = .nonFiniteValue ∧ isPositiveFinite zoom = true ∧ (zoom == v.zoom) = false ∧
        (v.setZoom zoom documentSize).2 = { v with zoom } := by
  rw [setZoom] at failed ⊢
  split_ifs at failed ⊢ with refused known
  · exact .inl ⟨(Except.error.inj failed).symm, rfl⟩
  · cases followed : zoomedScroll v.scroll v.zoom zoom with
    | error _ =>
        rw [followed] at failed
        have overrun := zoomedScroll_error followed
        cases failed
        exact .inr ⟨overrun, by simpa using refused, by simpa using known, rfl⟩
    | ok _ =>
        rw [followed] at failed
        cases failed

/-- A finite number equals itself. -/
lemma beq_self_of_isFinite {x : Float} (finite : x.isFinite = true) : (x == x) = true := by
  refine Float.beq_self_iff.2 fun isNaN => ?_
  rw [isNaN] at finite
  exact absurd finite (by decide +kernel)

/-- A zoom in force is answered as known. -/
lemma setZoom_known {zoom : Float} (positive : isPositiveFinite zoom = true) :
    setZoom { v with zoom } zoom documentSize = (.ok .unchanged, { v with zoom }) := by
  rw [setZoom, if_neg (by simpa using positive),
    if_pos (beq_self_of_isFinite (isFinite_of_isPositiveFinite positive))]

lemma failed_of_map {α : Type} {answer : Except ViewportError α} {effect : α → Effect}
    (failed : answer.map effect = .error error) : answer = .error error := by
  cases answer with
  | error _ => exact congrArg _ (Except.error.inj failed)
  | ok _ => cases failed

/-- **A refused operation changes nothing**, unless it is a new zoom that the scroll offset cannot
follow.  Such a zoom is in force, and asking for it again is answered as if there were nothing to
do. -/
theorem unchanged_of_failed_iff {operation : Operation}
    (failed : (v.perform operation).1 = .error error) :
    ((v.perform operation).2 = v ↔ ¬operation.Overruns error) ∧
      ∀ zoom documentSize, operation = .setZoom zoom documentSize → error = .nonFiniteValue →
        (v.perform operation).2 = { v with zoom } ∧
          perform { v with zoom } operation = (.ok (.geometry .unchanged), { v with zoom }) := by
  cases operation with
  | setViewRect cssRect deviceScale =>
      have same := setViewRect_of_failed (failed_of_map failed)
      refine ⟨iff_of_true same ?_, nofun⟩
      rintro ⟨-, _, _, ⟨⟩⟩
  | scrollTo requested size =>
      have same := scrollTo_of_failed (failed_of_map failed)
      refine ⟨iff_of_true same ?_, nofun⟩
      rintro ⟨-, _, _, ⟨⟩⟩
  | setZoom zoom size =>
      obtain ⟨refused, same⟩ | ⟨overrun, positive, new, after⟩ :=
        setZoom_of_failed (failed_of_map failed)
      · refine ⟨iff_of_true same fun overrun => ?_, fun _ _ _ overrun => ?_⟩
        · exact absurd (refused.symm.trans overrun.1) (by decide)
        · exact absurd (refused.symm.trans overrun) (by decide)
      · refine ⟨iff_of_false (fun same => ?_) fun kept => kept ⟨overrun, zoom, size, rfl⟩, ?_⟩
        · -- the old zoom would be the new one, and a finite number equals itself
          have old : zoom = v.zoom := congrArg Viewport.zoom (after.symm.trans same)
          rw [← old, beq_self_of_isFinite (isFinite_of_isPositiveFinite positive)] at new
          cases new
        · rintro _ _ ⟨⟩ -
          exact ⟨after, by simp only [perform, setZoom_known positive]; rfl⟩

/-! ## A run -/

/-- **What was refused might as well not have been asked**, in a run whose scroll offset follows
every new zoom: the other operations are answered as they would be without it, and the viewport ends
the same. -/
theorem run_served (operations : List Operation) (v : Viewport) (follows : v.Follows operations) :
    v.run (v.served operations) =
      ((v.run operations).1.filter Except.isOk, (v.run operations).2) := by
  induction operations generalizing v with
  | nil => rfl
  | cons operation later ih =>
      have rest := ih _ follows.2
      cases answer : (v.perform operation).1 with
      | error error =>
          have same := (unchanged_of_failed_iff answer).1.2 (follows.1 error answer)
          simp only [served, run, answer, Except.isOk, Except.toBool, same] at rest ⊢
          exact rest
      | ok effect =>
          simp only [served, run, answer, Except.isOk, Except.toBool, if_true] at rest ⊢
          rw [rest]
          rfl

/-! ## An example -/

/-- A host that shows a letter zooms out until nothing is left to see, and then in as far as it
goes. -/
theorem unchanged_of_failed_iff_letter :
    let letter : Size .twips := ⟨12240, 31680⟩
    let tiny := (initial.setZoom 1e-300 letter).2
    (tiny.perform (.setZoom 1e300 letter)).1 = .error .nonFiniteValue ∧
      (tiny.perform (.setZoom 1e300 letter)).2 = { tiny with zoom := 1e300 } := by
  intro letter tiny
  have failed : (tiny.perform (.setZoom 1e300 letter)).1 = .error .nonFiniteValue := by
    decide +kernel
  exact ⟨failed, ((unchanged_of_failed_iff failed).2 _ _ rfl rfl).1⟩

/-- The quotient of the two zooms is beyond the largest double.  The zoom is refused, and it is not
the one before. -/
theorem zoom_in_force_letter :
    let letter : Size .twips := ⟨12240, 31680⟩
    let tiny := (initial.setZoom 1e-300 letter).2
    (tiny.perform (.setZoom 1e300 letter)).1 = .error .nonFiniteValue ∧
      (tiny.perform (.setZoom 1e300 letter)).2 ≠ tiny := by
  intro letter tiny
  refine ⟨by decide +kernel, fun same => ?_⟩
  have other : ((tiny.perform (.setZoom 1e300 letter)).2.zoom == tiny.zoom) = false := by
    decide +kernel
  rw [same, show (tiny.zoom == tiny.zoom) = true by decide +kernel] at other
  cases other

end Viewport

end TiledView
