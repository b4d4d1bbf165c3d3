/-!
# Sets of tiles

A `TileSet` says which of a number of tiles are in it, with one bit per tile and a running count of
its members, so that it can be found full without looking at every tile.  Every update tells whether
it changed anything.  `TileSet.contains` is the view through which the updates are read.
-/

namespace TiledView

/-- Some of the tiles with an index below the number of bits. -/
structure TileSet where
  bits : Array Bool
  /-- Number of members. -/
  card : Nat
  deriving DecidableEq, Repr

namespace TileSet

/-- None of `count` tiles. -/
def noneOf (count : Nat) : TileSet := ⟨.replicate count false, 0⟩

/-- Number of tiles that may be members. -/
def capacity (s : TileSet) : Nat := s.bits.size

def isFull (s : TileSet) : Bool := s.card == s.bits.size

/-- Whether tile `index` is a member.  A tile that does not exist is not. -/
def contains (s : TileSet) (index : Nat) : Bool := s.bits[index]? == some true

/-- Adds tile `index`, and tells whether that changed the set. -/
def insert (s : TileSet) (index : Nat) : Bool × TileSet :=
  if s.bits[index]? = some false then
    (true, ⟨s.bits.setIfInBounds index true, s.card + 1⟩)
  else
    (false, s)

/-- Takes tile `index` out, and tells whether that changed the set. -/
def erase (s : TileSet) (index : Nat) : Bool × TileSet :=
  if s.bits[index]? = some true then
    (true, ⟨s.bits.setIfInBounds index false, s.card - 1⟩)
  else
    (false, s)

def clear (s : TileSet) : TileSet := noneOf s.capacity

/-- The members, in ascending order. -/
def toList (s : TileSet) : List Nat := (List.range s.capacity).filter s.contains

/-! ## Membership after an update -/

theorem contains_noneOf (count index : Nat) : (noneOf count).contains index = false := by
  simp only [contains, noneOf, Array.getElem?_replicate]
  split <;> rfl

theorem contains_clear (s : TileSet) (index : Nat) : s.clear.contains index = false :=
  contains_noneOf _ _

theorem contains_insert (s : TileSet) (index other : Nat) :
    (s.insert index).2.contains other =
      (s.contains other || (other == index && decide (index < s.capacity))) := by
  simp only [insert, contains, capacity]
  by_cases same : other = index
  · subst same
    rcases held : s.bits[other]? with _ | bit
    · have outside : ¬ other < s.bits.size := by simpa using held
      simp [outside]
    · obtain ⟨inside, value⟩ := Array.getElem?_eq_some_iff.1 held
      cases bit <;> simp [inside, value]
  · split <;> simp [same, Ne.symm same]

theorem contains_erase (s : TileSet) (index other : Nat) :
    (s.erase index).2.contains other = (s.contains other && other != index) := by
  simp only [erase, contains]
  by_cases same : other = index
  · subst same
    split
    · next held =>
      obtain ⟨inside, -⟩ := Array.getElem?_eq_some_iff.1 held
      simp [inside]
    · next unheld => simpa using unheld
  · split <;> simp [same, Ne.symm same]

end TileSet

end TiledView
