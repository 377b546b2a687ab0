import ClauseSharing.Setting

/-! # Configuration

What one instance is told before it starts: where the shared store is and which names it uses
there, how it publishes, how it ranks the clauses that it imports, and how its solver weighs
clauses and atoms. -/

namespace ClauseSharing

/-- Where the store is found, and the names used within it. -/
structure StoreSettings where
  /-- The machine of the store. -/
  host : String := "127.0.0.1"
  /-- The port of the store. -/
  port : PortNumber := ⟨6379, by decide, by decide⟩
  /-- The number of the database within the store. -/
  database : Long := ⟨0, by decide, by decide⟩
  /-- What comes before the identifier in the key of a published record. Instances that write to
  one store need different ones. -/
  stem : String := "from_minisat"
  /-- The list that the instance imports from. -/
  inbox : String := "to_minisat"
deriving DecidableEq

namespace StoreSettings

/-- Where the store is: its machine, its port, and its database as a path. -/
def place (settings : StoreSettings) : String :=
  s!"{settings.host}:{settings.port.toText}/{settings.database.toText}"

/-- The address of the store. -/
def url (settings : StoreSettings) : String := "redis://" ++ settings.place

/-- The key under which the record with the given identifier is published. -/
def recordKey (settings : StoreSettings) (identifier : Nat) : String :=
  settings.stem ++ ":" ++ toString identifier

end StoreSettings

/-- How records are published. -/
structure PublishSettings where
  /-- The greatest number of writes that wait for their replies at one time. -/
  batchWidth : Setting Size :=
    ⟨"batch_width", ⟨1, by decide, by decide⟩, ⟨65536, by decide, by decide⟩,
      ⟨1024, by decide, by decide⟩⟩
  /-- Clauses of more literals are not published. -/
  maxLength : Setting Size :=
    ⟨"max_clause_length", ⟨2, by decide, by decide⟩, ⟨18446744073709551615, by decide, by decide⟩,
      ⟨30, by decide, by decide⟩⟩
deriving DecidableEq

/-- How imported clauses are ranked. -/
structure TierSettings where
  /-- The greatest distance of a core clause. -/
  coreCut : Setting Byte :=
    ⟨"core_lbd_cut", ⟨0, by decide, by decide⟩, ⟨255, by decide, by decide⟩,
      ⟨3, by decide, by decide⟩⟩
  /-- The greatest distance of a clause of the second tier. -/
  secondCut : Setting Byte :=
    ⟨"tier2_lbd_cut", ⟨0, by decide, by decide⟩, ⟨255, by decide, by decide⟩,
      ⟨6, by decide, by decide⟩⟩
  /-- The greatest distance at which copies are counted. -/
  copyCut : Setting Byte :=
    ⟨"max_lbd_dup", ⟨0, by decide, by decide⟩, ⟨255, by decide, by decide⟩,
      ⟨14, by decide, by decide⟩⟩
  /-- The number of copies that lifts a clause to the second tier. One more lifts it to the core. -/
  minCopies : Setting Word :=
    ⟨"min_learnt_copies", ⟨1, by decide, by decide⟩, ⟨4294967294, by decide, by decide⟩,
      ⟨2, by decide, by decide⟩⟩
deriving DecidableEq

namespace TierSettings

/-- The number of copies that lifts a clause to the core, one more than lifts it to the second tier.
It has thirty-two bits, so past the greatest number comes zero. -/
def coreCopies (tiers : TierSettings) : Nat :=
  (tiers.minCopies.value.toNat + 1) % 4294967296

end TierSettings

/-- How a solver weighs the activity of clauses and atoms. -/
structure ActivitySettings where
  /-- The weight of the next bump of a clause, and the greatest activity. -/
  clauseBump : Setting Float :=
    ⟨"clause_bump", Binary64.greatestFinite true, Binary64.ofRatio false (Nat.pow 2 512) 1, 1.0⟩
  /-- The share of its activity that a clause loses with each conflict. -/
  clauseDecay : Setting Float := ⟨"clause_decay", 0.0, 0.999, 0.05⟩
  /-- The weight of the next bump of an atom, and the greatest one. -/
  atomBump : Setting Float :=
    ⟨"atom_bump", Binary64.greatestFinite true, Binary64.ofRatio false (Nat.pow 2 512) 1, 1.0⟩
  /-- The share of its activity that an atom loses with each conflict. -/
  atomDecay : Setting Float := ⟨"atom_decay", 0.0, 0.999, 0.05⟩

/-- All that an instance is told. -/
structure Config where
  store : StoreSettings := {}
  publishing : PublishSettings := {}
  tiers : TierSettings := {}
  activity : ActivitySettings := {}

namespace Config

/-- The greatest number of writes in one batch. -/
def batchWidth (config : Config) : Nat := config.publishing.batchWidth.value.toNat

/-- The greatest number of literals of a published clause. -/
def maxLength (config : Config) : Nat := config.publishing.maxLength.value.toNat

end Config

end ClauseSharing
