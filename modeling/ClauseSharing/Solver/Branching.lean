import ClauseSharing.Config

/-! # What decisions are based on

The part of a solver that an import keeps informed of the distances of clauses: a window of the
latest distances, the sum of all of them with each one capped, and the weight of the next bump of an
atom. -/

namespace ClauseSharing

/-- What a solver keeps in order to choose decisions. -/
structure Branching where
  /-- Whether decisions follow the activity of atoms. -/
  adaptive : Bool := true
  /-- Conflicts met. -/
  conflicts : Nat := 0
  /-- Clauses whose distance was recorded. -/
  recorded : Nat := 0
  /-- The latest distances, the oldest first. -/
  window : List Nat := []
  /-- The sum of all distances, each as far as it counts. -/
  distanceSum : Nat := 0
  /-- The weight of the next bump of an atom. -/
  atomBump : Float
  /-- The greatest weight of a bump. -/
  greatestBump : Float
  /-- The share of its activity that an atom loses with each conflict. -/
  atomDecay : Float

namespace Branching

/-- How many distances the window holds. -/
def windowLength : Nat := 50

/-- How much of one distance counts in the sum. -/
def distanceCap : Nat := 50

/-- Nothing recorded yet. -/
def starting (settings : ActivitySettings) : Branching where
  atomBump := settings.atomBump.value
  greatestBump := settings.atomBump.greatest
  atomDecay := settings.atomDecay.value

/-- Notes the distance of a clause, which pushes the oldest out of a full window. -/
def record (branching : Branching) (distance : Nat) : Branching :=
  let kept :=
    if branching.window.length = windowLength then branching.window.drop 1 else branching.window
  { branching with
    recorded := branching.recorded + 1
    window := kept ++ [distance]
    distanceSum := branching.distanceSum + min distance distanceCap }

/-- Raises the weight of later bumps. No activities of atoms are kept here, so a weight past the
greatest starts again at one. -/
def decayAtoms (branching : Branching) : Branching :=
  let raised := branching.atomBump * (1.0 / (1.0 - branching.atomDecay))
  { branching with atomBump := if branching.greatestBump < raised then 1.0 else raised }

end Branching

end ClauseSharing
