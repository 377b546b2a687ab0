/-! # Tiers

The tier of a learnt clause decides how long a solver keeps it. -/

namespace ClauseSharing

/-- How long a learnt clause is kept. -/
inductive Tier where
  /-- Kept for good. -/
  | core
  /-- Kept while it is touched now and then. -/
  | second
  /-- Kept while it is among the most active clauses. -/
  | active
deriving DecidableEq

namespace Tier

/-- The word for a tier in reports. -/
def name : Tier → String
  | core => "core"
  | second => "tier2"
  | active => "local"

/-- The tiers, from the longest kept to the first dropped. -/
def all : List Tier := [core, second, active]

end Tier

end ClauseSharing
