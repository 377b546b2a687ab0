import ClauseSharing.CommandLine.Run

/-! # What a computation that prints comes to

A computation that prints adds its lines to those that have been printed before, whatever these are,
and its outcome does not depend on them (`CommandLine.Prints`). A command line that is admitted
comes to what its command comes to, behind the lines that tell of its settings and of its store
(`CommandLine.Admitted`), and no setting is outside its bounds then
(`CommandLine.Yields.revise`). -/

namespace ClauseSharing

/-- Whether the value at hand is one that a request could have given. -/
def Setting.Within {α : Type} [LE α] (setting : Setting α) : Prop :=
  setting.least ≤ setting.value ∧ setting.value ≤ setting.greatest

namespace CommandLine

variable {ε α β : Type}

/-- The outcome of a computation that starts behind these lines, and all lines then. -/
def behind (earlier : List String) (computation : Printing ε α) : Except ε α × List String :=
  Id.run (StateT.run (ExceptT.run computation) earlier)

section

variable {computation : Printing ε α} {next : α → Printing ε β} {earlier lines : List String}

theorem behind_bind_of_ok {value : α} (first : behind earlier computation = (.ok value, lines)) :
    behind earlier (computation >>= next) = behind lines (next value) := by
  rw [behind] at first
  rw [behind, ExceptT.run_bind, StateT.run_bind, Id.run_bind, first]
  rfl

theorem behind_bind_of_error {reason : ε}
    (first : behind earlier computation = (.error reason, lines)) :
    behind earlier (computation >>= next) = (.error reason, lines) := by
  rw [behind] at first
  rw [behind, ExceptT.run_bind, StateT.run_bind, Id.run_bind, first]
  rfl

end

/-- The computation comes to this outcome and prints these lines, whatever has been printed
before. -/
def Prints (computation : Printing ε α) (outcome : Except ε α) (lines : List String) : Prop :=
  ∀ earlier, behind earlier computation = (outcome, earlier ++ lines)

namespace Prints

variable {computation : Printing ε α} {next : α → Printing ε β} {lines more : List String}

theorem printed {outcome : Except ε α} (prints : Prints computation outcome lines) :
    CommandLine.printed computation = (outcome, lines) :=
  prints []

theorem pure (value : α) : Prints (Pure.pure value : Printing ε α) (.ok value) [] := by
  intro earlier
  rw [List.append_nil]
  rfl

theorem throw (reason : ε) :
    Prints (MonadExcept.throw reason : Printing ε α) (.error reason) [] := by
  intro earlier
  rw [List.append_nil]
  rfl

theorem say (line : String) : Prints (CommandLine.say line : Printing ε Unit) (.ok ()) [line] :=
  fun _ => rfl

theorem bind {value : α} {outcome : Except ε β} (first : Prints computation (.ok value) lines)
    (second : Prints (next value) outcome more) :
    Prints (computation >>= next) outcome (lines ++ more) := by
  intro earlier
  rw [behind_bind_of_ok (first earlier), second, List.append_assoc]

end Prints

/-- Whatever value the computation yields has a property. -/
def Yields (holds : α → Prop) (computation : Printing ε α) : Prop :=
  ∀ earlier value, (behind earlier computation).1 = .ok value → holds value

namespace Yields

variable {holds : α → Prop} {other : β → Prop} {computation : Printing ε α}
  {next : α → Printing ε β}

theorem pure {value : α} (held : holds value) : Yields holds (Pure.pure value : Printing ε α) := by
  intro earlier yielded same
  cases same
  exact held

theorem throw (reason : ε) : Yields holds (MonadExcept.throw reason : Printing ε α) := by
  intro earlier yielded same
  cases same

theorem anything (computation : Printing ε α) : Yields (fun _ => True) computation :=
  fun _ _ _ => trivial

theorem bind (first : Yields holds computation)
    (second : ∀ value, holds value → Yields other (next value)) :
    Yields other (computation >>= next) := by
  intro earlier yielded same
  cases reached : behind earlier computation with
  | mk outcome lines =>
    cases outcome with
    | error reason =>
      rw [behind_bind_of_error reached] at same
      cases same
    | ok value =>
      rw [behind_bind_of_ok reached] at same
      exact second value (first earlier value (congrArg Prod.fst reached)) lines yielded same

/-- **A request leaves a setting within its bounds**, and the bounds as they are. -/
theorem revise {low high : Int} {setting : Setting (Ranged low high)} (within : setting.Within)
    (request : Option String) :
    Yields (fun revised => revised.Within ∧ revised.least = setting.least ∧
      revised.greatest = setting.greatest) (CommandLine.revise setting request) := by
  unfold CommandLine.revise
  cases request with
  | none => exact .pure ⟨within, rfl, rfl⟩
  | some text =>
    dsimp only
    cases assigned : setting.assignText text with
    | error reason => exact .bind (.anything _) fun _ _ => .throw reason
    | ok revised =>
      refine .bind (.anything _) fun _ _ => .pure ?_
      unfold Setting.assignText Setting.assign at assigned
      split at assigned
      · split at assigned
        · rename_i accepted
          cases assigned
          exact ⟨accepted, rfl, rfl⟩
        · cases assigned
      · cases assigned

end Yields

/-- A configuration that is accepted has batches of one write at least, and clauses of two literals
are short enough to be published. -/
theorem yields_publishing (invocation : Invocation) :
    Yields (fun config : Config => 1 ≤ config.batchWidth ∧ 2 ≤ config.maxLength)
      (configure invocation) := by
  unfold configure
  refine .bind (.revise ⟨by decide, by decide⟩ _) fun batchWidth width => ?_
  refine .bind (.revise ⟨by decide, by decide⟩ _) fun maxLength length => ?_
  iterate 4 refine .bind (.anything _) fun _ _ => ?_
  obtain ⟨⟨wide, -⟩, least, -⟩ := width
  rw [least] at wide
  obtain ⟨⟨long, -⟩, least, -⟩ := length
  rw [least] at long
  exact .pure ⟨Int.toNat_le_toNat wide, Int.toNat_le_toNat long⟩

/-- The words make up an invocation that asks for a configuration with an address of a store, and
these lines tell of its settings. -/
structure Admitted (words : List String) (invocation : Invocation) (config : Config)
    (lines : List String) : Prop where
  parsed : parse words = .ok invocation
  configured : printed (configure invocation) = (.ok config, lines)
  addressed : Redis.checkAddress config.store = .ok ()

/-- The line that tells of the store. -/
def storeLine (config : Config) : String := "c Store at " ++ config.store.url

/-- The line that tells of a fault, with the class of it. -/
def faultLine (fault : Fault) : String :=
  s!"c Exchange error: {fault.describe} ({fault.faultClass.name})"

namespace Admitted

variable {ω : Type} [Store ω] {words : List String} {invocation : Invocation} {config : Config}
  {lines more : List String} {world next : ω} (admitted : Admitted words invocation config lines)

include admitted

theorem run_of_done (done : runCommand config invocation world = (.ok (), more, next)) :
    run words world = (⟨0, lines ++ [storeLine config] ++ more⟩, next) := by
  rw [run, admitted.parsed]
  dsimp only
  rw [runInvocation, admitted.configured]
  dsimp only
  rw [admitted.addressed, done]
  rfl

theorem run_of_failed {fault : Fault}
    (failed : runCommand config invocation world = (.error fault, more, next)) :
    run words world = (⟨3, lines ++ [storeLine config] ++ more ++ [faultLine fault]⟩, next) := by
  rw [run, admitted.parsed]
  dsimp only
  rw [runInvocation, admitted.configured]
  dsimp only
  rw [admitted.addressed, failed]
  rfl

theorem publishing_bounds : 0 < config.batchWidth ∧ 2 ≤ config.maxLength :=
  yields_publishing invocation [] config (congrArg Prod.fst admitted.configured)

end Admitted

/-- A command line leaves the world as it is, or as some command leaves it. -/
theorem snd_run_cases {ω : Type} [Store ω] (words : List String) (world : ω) :
    (run words world).2 = world ∨
      ∃ config invocation, (run words world).2 = (runCommand config invocation world).2.2 := by
  unfold run
  cases parse words with
  | error stop => cases stop <;> exact .inl rfl
  | ok invocation =>
    unfold runInvocation
    dsimp only
    generalize printed (configure invocation) = answer
    obtain ⟨outcome, lines⟩ := answer
    cases outcome with
    | error reason => exact .inl rfl
    | ok config =>
      dsimp only
      cases Redis.checkAddress config.store with
      | error reason => exact .inl rfl
      | ok _ =>
        refine .inr ⟨config, invocation, ?_⟩
        dsimp only
        generalize runCommand config invocation world = answer
        obtain ⟨outcome, more, next⟩ := answer
        cases outcome <;> rfl

end CommandLine

end ClauseSharing
