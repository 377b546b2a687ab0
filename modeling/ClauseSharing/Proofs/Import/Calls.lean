import ClauseSharing.Observation.Logged
import ClauseSharing.Proofs.Import.Placement
import ClauseSharing.Proofs.View

/-! # The calls of an import

What an import asks of a host is laid down for one clause (`ImportProgress.asking`), for clauses
that are taken in one after the other (`ImportProgress.askingAll`) and for the end of the import
(`Ending.closing`). Each call is made in the world that the calls before it leave, whatever the host
makes of them. An import stops in the same place in a world and in a log of it
(`ImportProgress.Stops.seen`), so the log shows just these calls, and the import leaves what they
make of the world (`Peer.integrateAll_grown`). -/

namespace ClauseSharing

namespace Call

variable {ω κ : Type} [Host ω κ]

/-- What a call makes of the host of a world. -/
def change : Call κ → ω → ω
  | assign literal => Host.assign literal
  | setUnsatisfiable => Host.setUnsatisfiable
  | allocate literals distance => fun world => (Host.allocate literals distance world).2
  | markTier key tier => Host.markTier key tier
  | setTouched key conflicts => Host.setTouched key conflicts
  | bumpClause key => Host.bumpClause key
  | attach key => Host.attach key
  | decayClauses => Host.decayClauses
  | noteCopy key => fun world => (Host.noteCopy key world).2
  | recordDistance distance => Host.recordDistance distance
  | decayAtoms => Host.decayAtoms
  | connect | release | writeBatch _ | listLength _ | popBatch _ _ | push _ _ | flush => id

/-- What calls make of a world one after the other. -/
def after (calls : List (Call κ)) (world : ω) : ω :=
  calls.foldl (fun world call => call.change world) world

theorem after_append (front rest : List (Call κ)) (world : ω) :
    after (front ++ rest) world = after rest (after front world) := List.foldl_append

end Call

namespace Logged

variable {ω κ α : Type} [Host ω κ]

/-- Whether these calls lead from one log to another one, and from the world of the one to that of
the other. -/
structure Grown (before after : Logged κ ω) (calls : List (Call κ)) : Prop where
  listed : after.calls = before.calls ++ calls.toArray
  reached : after.world = Call.after calls before.world

namespace Grown

variable {first second third : Logged κ ω}

theorem refl (logged : Logged κ ω) : Grown logged logged [] := ⟨Array.append_empty.symm, rfl⟩

theorem trans {front rest : List (Call κ)} (one : Grown first second front)
    (two : Grown second third rest) : Grown first third (front ++ rest) where
  listed := by
    rw [two.listed, one.listed, Array.append_assoc]
    exact congrArg (first.calls ++ ·) (List.append_toArray ..)
  reached := by rw [two.reached, one.reached, Call.after_append]

theorem act (call : Call κ) (logged : Logged κ ω) :
    Grown logged (Logged.act call call.change logged) [call] :=
  ⟨Array.push_eq_append, rfl⟩

theorem ask (call : Call κ) {command : ω → α × ω}
    (changes : ∀ world, (command world).2 = call.change world) (logged : Logged κ ω) :
    Grown logged (Logged.ask call command logged).2 [call] :=
  ⟨Array.push_eq_append, changes logged.world⟩

/-- A call that is made on a condition. -/
theorem guarded {condition : Prop} [Decidable condition] {next : Logged κ ω} {calls : List (Call κ)}
    (grown : Grown first next calls) :
    Grown first (if condition then next else first) (if condition then calls else []) := by
  split
  · exact grown
  · exact .refl first

end Grown

omit [Host ω κ] in
/-- The log is beside the store. -/
theorem respects_store [Store ω] : Store.Respects (world : Logged κ ω → ω) :=
  ⟨fun _ => rfl, fun _ => rfl, fun _ _ => rfl, fun _ _ => rfl, fun _ _ _ => rfl, fun _ _ _ => rfl,
    fun _ => rfl⟩

/-- The log is beside the host. -/
theorem respects_host : Host.Respects (world : Logged κ ω → ω) :=
  ⟨fun _ => rfl, fun _ _ => rfl, fun _ _ => rfl, fun _ => rfl, fun _ _ _ => rfl, fun _ _ _ => rfl,
    fun _ _ _ => rfl, fun _ _ => rfl, fun _ _ => rfl, fun _ => rfl, fun _ _ => rfl, fun _ => rfl,
    fun _ _ => rfl, fun _ => rfl, fun _ => rfl⟩

end Logged

namespace ImportProgress

variable {ω κ : Type} [Host ω κ] {settings : TierSettings}

section

/-- An adaptive host is told a distance. -/
def telling (distance : Nat) (world : ω) : List (Call κ) :=
  if Host.isAdaptive world then [.recordDistance distance] else []

/-- A copy is noted of a clause whose copies are counted. -/
def noting (settings : TierSettings) (clause : Clause) : List (Call κ) :=
  if Counts settings clause then [.noteCopy (.ofClause clause)] else []

/-- A clause of the second tier is touched, and one of the last tier gains activity. -/
def entering (key : κ) (tier : Tier) (world : ω) : List (Call κ) :=
  match tier with
  | .core => []
  | .second => [.setTouched key (Host.conflicts world)]
  | .active => [.bumpClause key]

/-- The activities of the atoms decay in an adaptive host. -/
def fading (world : ω) : List (Call κ) := if Host.isAdaptive world then [.decayAtoms] else []

/-- The tier of a clause that has just been stored. -/
def tierOf (settings : TierSettings) (clause : Clause) (world : ω) : Tier :=
  .classify settings clause.distance (noteCopy settings clause world).1

/-- All that is asked for a clause when it has been stored under a key: a copy may be noted, and the
clause is put in its tier, attached, and followed by the decay of activities. -/
def serving (settings : TierSettings) (clause : Clause) (key : κ) (world : ω) : List (Call κ) :=
  let tier := tierOf settings clause world
  let marked := noting settings clause ++ [.markTier key tier]
  let attached := marked ++ entering key tier (Call.after marked world) ++ [.attach key]
  attached ++ fading (Call.after attached world) ++ [.decayClauses]

/-- All that is asked for a clause that is taken in. -/
def asking (settings : TierSettings) (clause : Clause) (world : ω) : List (Call κ) :=
  let told := telling clause.distance world
  let reached := Call.after told world
  match clause with
  | [] => told
  | [literal] => told ++ if Host.value? literal.atom reached = none then [.assign literal] else []
  | clause =>
    let (key, stored) := Host.allocate clause clause.distance reached
    told ++ .allocate clause clause.distance :: serving settings clause key stored

theorem asking_of_plural (settings : TierSettings) {clause : Clause} (plural : 2 ≤ clause.length)
    (world : ω) :
    let reached := Call.after (telling clause.distance world) world
    let stored := Host.allocate clause clause.distance reached
    asking settings clause world = telling clause.distance world ++
      .allocate clause clause.distance :: serving settings clause stored.1 stored.2 := by
  match clause, plural with
  | first :: second :: rest, _ => rfl

/-- All that is asked for clauses that are taken in one after the other. -/
def askingAll (settings : TierSettings) : List Clause → ω → List (Call κ)
  | [], _ => []
  | clause :: clauses, world =>
    let asked := asking settings clause world
    asked ++ askingAll settings clauses (Call.after asked world)

end

end ImportProgress

/-- What is asked at the end of an import: a host is told the distance of an empty clause, or that
of a unit against its values, and then that it has no model. -/
def Ending.closing {ω κ : Type} [Host ω κ] (world : ω) : Ending → List (Call κ)
  | .stopped (.importing .emptyRecord) => ImportProgress.telling 0 world
  | .complete | .stopped _ => []
  | .contradicted _ => ImportProgress.telling 1 world ++ [.setUnsatisfiable]

namespace ImportProgress

/-- All that an import asks of a host. -/
def course {ω κ : Type} [Host ω κ] (settings : TierSettings)
    (clauses : List Clause) (ending : Ending) (world : ω) : List (Call κ) :=
  let asked := askingAll settings clauses world
  asked ++ ending.closing (Call.after asked world)

variable {ω ο κ : Type} [Host ω κ] [Host ο κ] {settings : TierSettings}

section

variable {view : ω → ο} (respects : Host.Respects view)

include respects

theorem effect_view (clause : Clause) (world : ω) :
    effect settings clause (view world) = view (effect settings clause world) := by
  have seen := integrate_view respects settings ⟨{}, {}, world⟩ clause
  exact congrArg (fun result => result.2.world) seen

theorem worldAfter_view (clauses : List Clause) (world : ω) :
    worldAfter settings clauses (view world) = view (worldAfter settings clauses world) := by
  induction clauses generalizing world with
  | nil => rfl
  | cons clause clauses ih =>
    change worldAfter settings clauses (effect settings clause (view world)) = _
    rw [effect_view respects]
    exact ih _

theorem opposes_view {world : ω} {clause : Clause} :
    Opposes (view world) clause ↔ Opposes world clause := by
  rw [Opposes, Opposes, recordDistance_view respects]
  simp only [respects.value]

theorem offends_view {world : ω} {record : String} (offends : Offends (view world) record) :
    Offends world record := by
  cases offends with
  | unreadable failed => exact .unreadable failed
  | empty none => exact .empty none
  | opposed read against => exact .opposed read ((opposes_view respects).mp against)

theorem Admits.seen {world : ω} {records : List String} {clauses : List Clause}
    (admits : Admits settings world records clauses) :
    Admits settings (view world) records clauses := by
  induction admits with
  | none => exact .none
  | more read unoffending _ ih =>
    refine .more read (fun offends => unoffending (offends_view respects offends)) ?_
    rwa [effect_view respects]

theorem Ends.seen {world last : ω} {records : List String} {ending : Ending}
    (ends : Ends world records ending last) : Ends (view world) records ending (view last) := by
  cases ends with
  | complete => exact .complete
  | unreadable failed => exact .unreadable failed
  | empty none =>
    rw [apply_ite view, ← respects.recordDistance, ← respects.isAdaptive]
    exact .empty none
  | opposed read against =>
    rw [← respects.setUnsatisfiable, apply_ite view, ← respects.recordDistance,
      ← respects.isAdaptive]
    exact .opposed read ((opposes_view respects).mpr against)

/-- An import stops in the same place in a world and where that is seen. -/
theorem Stops.seen {world last : ω} {records earlier later : List String} {clauses : List Clause}
    {ending : Ending} (stops : Stops settings world records earlier clauses later ending last) :
    Stops settings (view world) records earlier clauses later ending (view last) where
  split := stops.split
  admits := stops.admits.seen respects
  ends := by
    rw [worldAfter_view respects]
    exact stops.ends.seen respects

end

section

open Logged (Grown)

variable (logged : Logged κ ω)

theorem grown_recordDistance (clause : Clause) :
    Grown logged (recordDistance clause logged) (telling clause.distance logged.world) :=
  (Grown.act (.recordDistance clause.distance) logged).guarded

theorem grown_noteCopy (settings : TierSettings) (clause : Clause) :
    Grown logged (noteCopy settings clause logged).2 (noting settings clause) := by
  rw [noteCopy, noting]
  split
  · exact .ask (.noteCopy (.ofClause clause)) (fun _ => rfl) logged
  · exact .refl logged

theorem grown_enterTier (key : κ) (tier : Tier) :
    Grown logged (enterTier key tier logged) (entering key tier logged.world) := by
  cases tier with
  | core => exact .refl logged
  | second => exact .act (.setTouched key (Host.conflicts logged.world)) logged
  | active => exact .act (.bumpClause key) logged

theorem grown_fading :
    Grown logged (if Host.isAdaptive logged then Host.decayAtoms logged else logged)
      (fading logged.world) :=
  (Grown.act .decayAtoms logged).guarded

/-- What follows when a clause has been stored is what is asked for it then. -/
theorem grown_serving (settings : TierSettings) (clause : Clause) (key : κ) :
    let noted := noteCopy settings clause logged
    let tier := tierOf settings clause logged.world
    Grown logged (settle key (enterTier key tier (Host.markTier key tier noted.2)))
      (serving settings clause key logged.world) := by
  intro noted tier
  have marked := (grown_noteCopy logged settings clause).trans (.act (.markTier key tier) noted.2)
  have entered := grown_enterTier (Host.markTier key tier noted.2) key tier
  rw [show (Host.markTier key tier noted.2).world = _ from marked.reached] at entered
  have attached := (marked.trans entered).trans (.act (.attach key) _)
  have faded := grown_fading (Host.attach key (enterTier key tier (Host.markTier key tier noted.2)))
  rw [show (Host.attach key (enterTier key tier (Host.markTier key tier noted.2))).world = _ from
    attached.reached] at faded
  exact (attached.trans faded).trans (.act .decayClauses _)

/-- A clause that is taken in is asked for as it should be. -/
theorem grown_effect {clause : Clause} (nonempty : clause ≠ [])
    (unopposed : ¬Opposes logged clause) :
    Grown logged (effect settings clause logged) (asking settings clause logged.world) := by
  have told := grown_recordDistance logged clause
  match clause, nonempty with
  | [literal], _ =>
    have seen : Host.value? literal.atom (recordDistance [literal] logged) =
        Host.value? literal.atom
        (Call.after (telling (Clause.distance [literal]) logged.world) logged.world) :=
      congrArg (Host.value? literal.atom) told.reached
    rw [opposes_singleton] at unopposed
    simp only [effect, integrate, integrateUnit, act, asking]
    rw [← seen]
    cases held : Host.value? literal.atom (recordDistance [literal] logged) with
    | none => exact told.trans (.act (.assign literal) _)
    | some value =>
      have same : value = literal.positive := by
        apply Decidable.byContradiction
        intro differs
        exact unopposed (by rw [held, Bool.eq_not_of_ne differs])
      simp only [if_pos same]
      exact told.trans (.refl _)
  | first :: second :: rest, _ =>
    let clause := first :: second :: rest
    let reached := recordDistance clause logged
    let stored := Host.allocate clause (Clause.distance clause) reached
    have allocated :=
      told.trans (.ask (.allocate clause (Clause.distance clause)) (fun _ => rfl) reached)
    have served := grown_serving stored.2 settings clause stored.1
    have asked : asking settings clause logged.world =
        telling (Clause.distance clause) logged.world ++
        [.allocate clause (Clause.distance clause)] ++
          serving settings clause stored.1 stored.2.world := by
      rw [asking_of_plural settings (Nat.le_add_left ..), ← told.reached, List.append_assoc]
      rfl
    have announced : (noteCopy settings clause stored.2).1 =
        (noteCopy settings clause stored.2.world).1 :=
      (congrArg Prod.fst (noteCopy_view Logged.respects_host settings clause stored.2)).symm
    have left : effect settings clause logged = _ :=
      world_integrateClause settings ⟨{}, {}, reached⟩ clause
    rw [asked, left]
    dsimp only
    rw [announced]
    exact allocated.trans served

theorem grown_worldAfter {records : List String} {clauses : List Clause} {logged : Logged κ ω}
    (admits : Admits settings logged records clauses) :
    Grown logged (worldAfter settings clauses logged)
      (askingAll settings clauses logged.world) := by
  induction admits with
  | none => exact .refl _
  | @more logged record records clause clauses read unoffending _ ih =>
    have nonempty : clause ≠ [] := by
      rintro rfl
      exact unoffending (.empty read)
    have unopposed : ¬Opposes logged clause := fun against => unoffending (.opposed read against)
    have first : Grown logged (effect settings clause logged) _ :=
      grown_effect logged nonempty unopposed
    rw [first.reached] at ih
    exact first.trans ih

theorem grown_ends {records : List String} {ending : Ending} {logged last : Logged κ ω}
    (ends : Ends logged records ending last) : Grown logged last (ending.closing logged.world) := by
  cases ends with
  | complete => exact .refl _
  | unreadable _ => exact .refl _
  | empty _ => exact grown_recordDistance logged []
  | @opposed record later literal _ _ =>
    exact (grown_recordDistance logged [literal]).trans (.act .setUnsatisfiable _)

end

end ImportProgress

open ImportProgress in
/-- **A log shows what an import asks for**, and the import leaves what that makes of the world. -/
theorem Peer.integrateAll_grown {ω κ : Type} [Host ω κ] (peer : Peer κ) (records : List String)
    (logged : Logged κ ω) :
    ∃ earlier clauses later ending last,
      Stops peer.config.tiers logged.world records earlier clauses later ending last ∧
      (peer.integrateAll records logged).2.2.world = last ∧
      Logged.Grown logged (peer.integrateAll records logged).2.2
        (course peer.config.tiers clauses ending logged.world) := by
  obtain ⟨earlier, clauses, later, ending, last, stops⟩ :=
    exists_stops peer.config.tiers records logged
  have left : (peer.integrateAll records logged).2.2 = last :=
    congrArg (·.2.2) (peer.integrateAll_of_stops stops)
  have asked := grown_worldAfter stops.admits
  have ended := grown_ends stops.ends
  rw [asked.reached] at ended
  refine ⟨earlier, clauses, later, ending, last.world, stops.seen Logged.respects_host, ?_, ?_⟩
  · rw [left]
  · rw [left]
    exact asked.trans ended

end ClauseSharing
