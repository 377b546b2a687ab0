import ClauseSharing.Clause
import ClauseSharing.Config
import ClauseSharing.Tier

/-! # Learnt clauses

Learnt clauses are stored under keys. A key is a word of 32 bits, so it is not used again before as
many clauses were stored as there are keys (`keyCount`), and then names an old clause in place of
the new one. A live clause is in the list of its tier once it has been put in one, and on the watch
lists of the negations of its first two literals once it is attached. The activity of a clause rises
with each bump. Instead of lowering all activities, decay raises the weight of later bumps, and all
of them are scaled down together when one would pass the greatest activity. -/

namespace ClauseSharing

/-- The name of a learnt clause. -/
@[ext]
structure LearntKey where
  /-- The place of the clause among all that were ever stored. -/
  index : Nat
deriving DecidableEq

/-- The text of a key. -/
def LearntKey.name (key : LearntKey) : String := s!"Learnt({key.index})"

/-- A learnt clause and what decides whether it is kept. -/
structure LearntClause where
  literals : Clause
  /-- Its literal block distance. -/
  distance : Nat
  tier : Tier := .active
  /-- The number of conflicts when it was last touched. -/
  touched : Nat := 0
  activity : Float := 0.0
  /-- Whether it takes part in propagation. -/
  attached : Bool := false

/-- The keys of the clauses of each tier, in the order in which they were put there. -/
@[ext]
structure TierLists where
  core : List LearntKey := []
  second : List LearntKey := []
  active : List LearntKey := []
deriving DecidableEq

namespace TierLists

/-- The keys in a tier. -/
def get (lists : TierLists) : Tier → List LearntKey
  | .core => lists.core
  | .second => lists.second
  | .active => lists.active

/-- The lists with other keys in one tier. -/
def set (lists : TierLists) (tier : Tier) (keys : List LearntKey) : TierLists :=
  match tier with
  | .core => { lists with core := keys }
  | .second => { lists with second := keys }
  | .active => { lists with active := keys }

/-- Takes a key out of a tier. -/
def remove (lists : TierLists) (tier : Tier) (key : LearntKey) : TierLists :=
  lists.set tier ((lists.get tier).filter (· ≠ key))

/-- Puts a key at the end of a tier. -/
def append (lists : TierLists) (tier : Tier) (key : LearntKey) : TierLists :=
  lists.set tier (lists.get tier ++ [key])

end TierLists

/-- The learnt clauses of a solver. -/
structure LearntBase where
  /-- Every clause that was ever stored, in order of keys, unless it has been removed. -/
  clauses : Array (Option LearntClause) := #[]
  /-- The keys in each tier. -/
  tiers : TierLists := {}
  /-- The keys of the clauses that watch a literal, in the order in which they were attached. -/
  watches : Std.ExtTreeMap Literal (List LearntKey) := ∅
  /-- The weight of the next bump. -/
  bump : Float
  /-- The greatest activity. -/
  greatestActivity : Float
  /-- The share of its activity that a clause loses with each conflict. -/
  decay : Float
  /-- No activity is above this one. -/
  highest : Float := 0.0

namespace LearntBase

/-- No clauses. -/
def starting (settings : ActivitySettings) : LearntBase where
  bump := settings.clauseBump.value
  greatestActivity := settings.clauseBump.greatest
  decay := settings.clauseDecay.value

/-- The clause under a key, unless it has been removed or never was. -/
def find? (base : LearntBase) (key : LearntKey) : Option LearntClause :=
  (base.clauses[key.index]?).join

/-- How many keys there are. -/
def keyCount : Nat := 4294967296

/-- The key of the next clause that is stored. -/
def nextKey (base : LearntBase) : LearntKey := ⟨base.clauses.size % keyCount⟩

/-- As long as keys are left, a clause gets one of its own. -/
theorem nextKey_of_lt {base : LearntBase} (left : base.clauses.size < keyCount) :
    base.nextKey = ⟨base.clauses.size⟩ := by
  rw [nextKey, Nat.mod_eq_of_lt left]

/-- Whether the key has ever been given to a clause. -/
def hasMade (base : LearntBase) (key : LearntKey) : Bool :=
  key.index < min base.clauses.size keyCount

/-- The keys in a tier, in the order in which they were put there. -/
def tierKeys (base : LearntBase) (tier : Tier) : List LearntKey := base.tiers.get tier

/-- The keys of the clauses that wait for a literal to hold. -/
def watchers (base : LearntBase) (literal : Literal) : List LearntKey :=
  base.watches.getD literal []

/-- Stores a clause under the next key, in no tier's list. -/
def allocate (base : LearntBase) (literals : Clause) (distance : Nat) : LearntKey × LearntBase :=
  (base.nextKey, { base with clauses := base.clauses.push (some { literals, distance }) })

/-- The base with another clause under a key. -/
def store (base : LearntBase) (key : LearntKey) (learnt : Option LearntClause) : LearntBase :=
  { base with clauses := base.clauses.setIfInBounds key.index learnt }

/-- Puts a live clause at the end of a tier. -/
def markTier (base : LearntBase) (key : LearntKey) (tier : Tier) : LearntBase :=
  match base.find? key with
  | none => base
  | some learnt =>
    { base.store key (some { learnt with tier }) with
      tiers := (base.tiers.remove learnt.tier key).append tier key }

/-- Stores a clause in the last tier. -/
def learn (base : LearntBase) (literals : Clause) (distance : Nat) : LearntKey × LearntBase :=
  let (key, base) := base.allocate literals distance
  (key, base.markTier key .active)

/-- Notes when a live clause was last touched. -/
def setTouched (base : LearntBase) (key : LearntKey) (conflicts : Nat) : LearntBase :=
  match base.find? key with
  | none => base
  | some learnt => base.store key (some { learnt with touched := conflicts })

/-- The literals that a clause watches: the negations of its first two. -/
def watched (literals : Clause) : List Literal :=
  (literals.take 2).map Literal.negate

/-- Puts a key at the end of the watch list of a literal. -/
def addWatch (key : LearntKey) (watches : Std.ExtTreeMap Literal (List LearntKey))
    (literal : Literal) : Std.ExtTreeMap Literal (List LearntKey) :=
  watches.insert literal (watches.getD literal [] ++ [key])

/-- Takes a key out of the watch list of a literal. -/
def dropWatch (key : LearntKey) (watches : Std.ExtTreeMap Literal (List LearntKey))
    (literal : Literal) : Std.ExtTreeMap Literal (List LearntKey) :=
  watches.insert literal ((watches.getD literal []).filter (· ≠ key))

/-- Attaches a live clause, once. -/
def attach (base : LearntBase) (key : LearntKey) : LearntBase :=
  match base.find? key with
  | none => base
  | some learnt =>
    if learnt.attached then base
    else
      { base.store key (some { learnt with attached := true }) with
        watches := (watched learnt.literals).foldl (addWatch key) base.watches }

/-- Removes a clause from the base, from its tier and from its watch lists, and returns it. -/
def remove (base : LearntBase) (key : LearntKey) : Option LearntClause × LearntBase :=
  match base.find? key with
  | none => (none, base)
  | some learnt =>
    (some learnt, { base.store key none with
      tiers := base.tiers.remove learnt.tier key
      watches :=
        if learnt.attached then (watched learnt.literals).foldl (dropWatch key) base.watches
        else base.watches })

/-- The greater of two activities, or the other where one is no number. -/
def greater (left right : Float) : Float :=
  if left < right ∨ left.isNaN then right else left

/-- Scales every activity and the weight of bumps, so that the greatest of them becomes one. -/
def rescale (base : LearntBase) : LearntBase :=
  let factor := 1.0 / greater base.highest base.bump
  { base with
    clauses := base.clauses.map fun slot =>
      slot.map fun learnt => { learnt with activity := learnt.activity * factor }
    highest := base.highest * factor
    bump := base.bump * factor }

/-- Raises the activity of a live clause, after scaling everything down if the highest activity
would otherwise pass the greatest. -/
def bumpClause (base : LearntBase) (key : LearntKey) : LearntBase :=
  let base := if base.greatestActivity < base.highest + base.bump then base.rescale else base
  match base.find? key with
  | none => base
  | some learnt =>
    let activity := learnt.activity + base.bump
    { base.store key (some { learnt with activity }) with
      highest := greater base.highest activity }

/-- Raises the weight of later bumps, in place of lowering every activity. -/
def decayClauses (base : LearntBase) : LearntBase :=
  let raised := { base with bump := base.bump * (1.0 / (1.0 - base.decay)) }
  if raised.greatestActivity < raised.bump then raised.rescale else raised

end LearntBase

end ClauseSharing
