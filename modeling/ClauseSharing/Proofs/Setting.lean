import ClauseSharing.Config
import ClauseSharing.Proofs.Text.Decimal
import Mathlib.Data.List.Induction

/-! # What a bounded setting does with its requests

A request asks a setting of integers for one value or, being a text that denotes no number of the
range, for none (`SettingRequest.AsksFor`). Granted is what lies within the bounds, and it changes
the value alone; any other request is refused, and changes nothing (`Setting.perform_cases`). So the
value at the end of any row of requests is the last one that was granted
(`Setting.follow_cases`). -/

namespace ClauseSharing

/-- What may be asked of a setting. -/
inductive SettingRequest (α : Type) where
  /-- That it take a value. -/
  | assign (value : α)
  /-- That it take the value that a text writes. -/
  | assignText (text : String)

namespace Setting

section Requests

variable {α : Type} [LE α] [DecidableLE α] [FromText α]

/-- What becomes of a request: the setting that it is changed to, or why it is refused. -/
def answer (setting : Setting α) : SettingRequest α → Except SettingError (Setting α)
  | .assign value => setting.assign value
  | .assignText text => setting.assignText text

/-- The setting behind a request. It stays where it was if the request is refused. -/
def perform (setting : Setting α) (request : SettingRequest α) : Setting α :=
  match setting.answer request with
  | .ok changed => changed
  | .error _ => setting

/-- The setting behind one request after another. -/
def follow (setting : Setting α) (requests : List (SettingRequest α)) : Setting α :=
  requests.foldl perform setting

theorem follow_append (setting : Setting α) (front back : List (SettingRequest α)) :
    setting.follow (front ++ back) = (setting.follow front).follow back := List.foldl_append

theorem follow_concat (setting : Setting α) (front : List (SettingRequest α))
    (last : SettingRequest α) :
    setting.follow (front ++ [last]) = (setting.follow front).perform last :=
  setting.follow_append front [last]

end Requests

variable {low high : Int}

/-- Whether a value lies within the bounds of a setting, both included. -/
def Admits (setting : Setting (Ranged low high)) (value : Ranged low high) : Prop :=
  setting.least.val ≤ value.val ∧ value.val ≤ setting.greatest.val

end Setting

variable {low high : Int}

/-- Whether a request asks for a value. -/
def SettingRequest.AsksFor : SettingRequest (Ranged low high) → Ranged low high → Prop
  | assign value, asked => value = asked
  | assignText text, asked => Ranged.Denotes text asked

/-- No number of a range is denoted by a text just if the text writes no integer, or one outside the
range, or has a minus sign that does not belong to the range. -/
theorem Ranged.not_denotes_iff {text : String} :
    (∀ number : Ranged low high, ¬Denotes text number) ↔
      (∀ int, SignedDecimal.Writes text.toList int → int < low ∨ high < int) ∨
        0 ≤ low ∧ text.toList.head? = some '-' := by
  constructor
  · intro nothing
    by_cases sign : 0 ≤ low ∧ text.toList.head? = some '-'
    · exact .inr sign
    · refine .inl fun int writes => Decidable.byContradiction fun inside => ?_
      have within : low ≤ int ∧ int ≤ high := by omega
      exact nothing ⟨int, within.1, within.2⟩
        ⟨writes, fun minus => Int.not_le.mp fun least => sign ⟨least, minus⟩⟩
  · rintro (outside | signed) number ⟨writes, sign⟩
    · have beyond := outside number.val writes
      have least := number.low_le
      have greatest := number.le_high
      omega
    · exact absurd (sign signed.2) (Int.not_lt.mpr signed.1)

namespace Setting

/-- Whether a setting grants a value to a request, which is what the request asks for within the
bounds. -/
structure Grants (setting : Setting (Ranged low high)) (request : SettingRequest (Ranged low high))
    (value : Ranged low high) : Prop where
  asks : request.AsksFor value
  admits : setting.Admits value

/-- Whether a setting grants nothing to a request. -/
def Refuses (setting : Setting (Ranged low high))
    (request : SettingRequest (Ranged low high)) : Prop :=
  ∀ value, ¬setting.Grants request value

variable {setting : Setting (Ranged low high)} {request : SettingRequest (Ranged low high)}
  {value : Ranged low high} {text : String}

theorem assign_of_admits (admits : setting.Admits value) :
    setting.assign value = .ok { setting with value } := if_pos admits

theorem assign_of_not_admits (outside : ¬setting.Admits value) :
    setting.assign value = .error (.outOfBounds setting.name) := if_neg outside

theorem assignText_of_denotes (denotes : Ranged.Denotes text value) :
    setting.assignText text = setting.assign value := by
  have read : FromText.ofText? text = some value := Ranged.ofText?_eq_some_iff_denotes.mpr denotes
  rw [assignText, read]

theorem assignText_of_not_denotes
    (nothing : ∀ number : Ranged low high, ¬Ranged.Denotes text number) :
    setting.assignText text = .error (.unreadable setting.name) := by
  have unread : (FromText.ofText? text : Option (Ranged low high)) = none :=
    Option.eq_none_iff_forall_ne_some.mpr fun number read =>
      nothing number (Ranged.ofText?_eq_some_iff_denotes.mp read)
  rw [assignText, unread]

/-- A text denotes a number within the bounds, or one outside them, or none. -/
theorem assignText_cases (setting : Setting (Ranged low high)) (text : String) :
    (∃ number, Ranged.Denotes text number ∧ setting.Admits number ∧
      setting.assignText text = .ok { setting with value := number }) ∨
    (∃ number, Ranged.Denotes text number ∧ ¬setting.Admits number ∧
      setting.assignText text = .error (.outOfBounds setting.name)) ∨
    ((∀ number : Ranged low high, ¬Ranged.Denotes text number) ∧
      setting.assignText text = .error (.unreadable setting.name)) := by
  by_cases readable : ∃ number : Ranged low high, Ranged.Denotes text number
  · obtain ⟨number, denotes⟩ := readable
    have answered : setting.assignText text = setting.assign number := assignText_of_denotes denotes
    by_cases admits : setting.Admits number
    · exact .inl ⟨number, denotes, admits, answered.trans (assign_of_admits admits)⟩
    · exact .inr (.inl ⟨number, denotes, admits, answered.trans (assign_of_not_admits admits)⟩)
  · have nothing := not_exists.mp readable
    exact .inr (.inr ⟨nothing, assignText_of_not_denotes nothing⟩)

theorem answer_of_grants (grants : setting.Grants request value) :
    setting.answer request = .ok { setting with value } := by
  cases request with
  | assign asked =>
    cases grants.asks
    exact assign_of_admits grants.admits
  | assignText text =>
    exact (assignText_of_denotes grants.asks).trans (assign_of_admits grants.admits)

theorem answer_of_refuses (refuses : setting.Refuses request) :
    ∃ reason, setting.answer request = .error reason := by
  cases request with
  | assign asked => exact ⟨_, assign_of_not_admits fun admits => refuses asked ⟨rfl, admits⟩⟩
  | assignText text =>
    rcases setting.assignText_cases text with
      ⟨number, denotes, admits, _⟩ | ⟨_, _, _, error⟩ | ⟨_, error⟩
    · exact absurd ⟨denotes, admits⟩ (refuses number)
    · exact ⟨_, error⟩
    · exact ⟨_, error⟩

/-- **One request.** What it asks for within the bounds is granted, and becomes the value. Otherwise
it is refused, and the setting stays as it is. -/
theorem perform_cases (setting : Setting (Ranged low high))
    (request : SettingRequest (Ranged low high)) :
    (∃ value, setting.Grants request value ∧ setting.answer request = .ok { setting with value } ∧
      setting.perform request = { setting with value }) ∨
    (setting.Refuses request ∧ (∃ reason, setting.answer request = .error reason) ∧
      setting.perform request = setting) := by
  by_cases granted : ∃ value, setting.Grants request value
  · obtain ⟨value, grants⟩ := granted
    have answered := answer_of_grants grants
    exact .inl ⟨value, grants, answered, by rw [perform, answered]⟩
  · have refuses := not_exists.mp granted
    obtain ⟨reason, answered⟩ := answer_of_refuses refuses
    exact .inr ⟨refuses, ⟨reason, answered⟩, by rw [perform, answered]⟩

/-- Requests change neither the name of a setting nor its bounds. -/
theorem exists_follow_eq (setting : Setting (Ranged low high))
    (requests : List (SettingRequest (Ranged low high))) :
    ∃ value, setting.follow requests = { setting with value } := by
  induction requests generalizing setting with
  | nil => exact ⟨setting.value, rfl⟩
  | cons request requests ih =>
    obtain ⟨last, ends⟩ := ih (setting.perform request)
    have step : setting.follow (request :: requests) = (setting.perform request).follow requests :=
      rfl
    rcases setting.perform_cases request with ⟨value, _, _, changed⟩ | ⟨_, _, kept⟩
    · exact ⟨last, by rw [step, ends, changed]⟩
    · exact ⟨last, by rw [step, ends, kept]⟩

/-- **A row of requests.** If all are refused the setting is the one of the start. Otherwise it has
the value of the last one that is granted. -/
theorem follow_cases (setting : Setting (Ranged low high))
    (requests : List (SettingRequest (Ranged low high))) :
    ((∀ request ∈ requests, setting.Refuses request) ∧ setting.follow requests = setting) ∨
    ∃ front request back value, requests = front ++ request :: back ∧ setting.Grants request value ∧
      (∀ later ∈ back, setting.Refuses later) ∧ setting.follow requests =
        { setting with value } := by
  -- The induction is on the last request, as it is the one that decides.
  induction requests using List.reverseRecOn with
  | nil => exact .inl ⟨List.forall_mem_nil _, rfl⟩
  | append_singleton front last ih =>
    -- The bounds are those of the start, however far the setting has come.
    obtain ⟨reached, same⟩ := setting.exists_follow_eq front
    rw [follow_concat]
    rcases (setting.follow front).perform_cases last with
      ⟨value, grants, _, changed⟩ | ⟨refuses, _, kept⟩
    · rw [same] at grants changed
      exact .inr ⟨front, last, [], value, rfl, ⟨grants.asks, grants.admits⟩, List.forall_mem_nil _,
        by rw [same, changed]⟩
    · have refused : setting.Refuses last := fun value grants =>
        refuses value ⟨grants.asks, by rw [same]; exact grants.admits⟩
      rw [kept]
      rcases ih with ⟨all, start⟩ | ⟨before, request, back, value, split, grants, all, ends⟩
      · exact .inl ⟨List.forall_mem_append.mpr ⟨all, List.forall_mem_singleton.mpr refused⟩, start⟩
      · refine .inr ⟨before, request, back ++ [last], value, ?_, grants,
          List.forall_mem_append.mpr ⟨all, List.forall_mem_singleton.mpr refused⟩, ends⟩
        rw [split, List.append_assoc, List.cons_append]

/-- A value within the bounds stays within them. -/
theorem admits_follow (setting : Setting (Ranged low high))
    (requests : List (SettingRequest (Ranged low high))) (within : setting.Admits setting.value) :
    (setting.follow requests).Admits (setting.follow requests).value := by
  rcases setting.follow_cases requests with ⟨_, same⟩ | ⟨_, _, _, value, _, grants, _, same⟩
  · rw [same]
    exact within
  · rw [same]
    exact grants.admits

/-- A text is accepted just if it denotes a number within the bounds, which becomes the value. -/
theorem assignText_eq_ok_iff {changed : Setting (Ranged low high)} :
    setting.assignText text = .ok changed ↔
      ∃ number, Ranged.Denotes text number ∧ setting.Admits number ∧
        changed = { setting with value := number } := by
  constructor
  · intro accepted
    rcases setting.assignText_cases text with
      ⟨number, denotes, admits, ok⟩ | ⟨_, _, _, error⟩ | ⟨_, error⟩
    · rw [ok] at accepted
      exact ⟨number, denotes, admits, (Except.ok.inj accepted).symm⟩
    · rw [error] at accepted
      cases accepted
    · rw [error] at accepted
      cases accepted
  · rintro ⟨number, denotes, admits, rfl⟩
    exact (assignText_of_denotes denotes).trans (assign_of_admits admits)

/-- A text is refused as out of bounds just if it denotes a number of the range outside the bounds,
and as unreadable just if it denotes none. -/
theorem assignText_eq_error_iff {reason : SettingError} :
    setting.assignText text = .error reason ↔
      (reason = .outOfBounds setting.name ∧ ∃ number, Ranged.Denotes text number ∧
        ¬setting.Admits number) ∨
        (reason = .unreadable setting.name ∧ ∀ number : Ranged low high,
          ¬Ranged.Denotes text number) := by
  constructor
  · intro refused
    rcases setting.assignText_cases text with
      ⟨_, _, _, ok⟩ | ⟨number, denotes, outside, error⟩ | ⟨nothing, error⟩
    · rw [ok] at refused
      cases refused
    · rw [error] at refused
      exact .inl ⟨(Except.error.inj refused).symm, number, denotes, outside⟩
    · rw [error] at refused
      exact .inr ⟨(Except.error.inj refused).symm, nothing⟩
  · rintro (⟨rfl, number, denotes, outside⟩ | ⟨rfl, nothing⟩)
    · exact (assignText_of_denotes denotes).trans (assign_of_not_admits outside)
    · exact assignText_of_not_denotes nothing

end Setting

/-- What denotes a number is one word, and more than a sign. -/
theorem Ranged.Denotes.solid {text : String} {number : Ranged low high}
    (denotes : Denotes text number) :
    Text.Solid text.toList ∧ text ≠ "+" ∧ text ≠ "-" := by
  obtain ⟨plus, minus⟩ := denotes.writes.ne_sign
  exact ⟨denotes.writes.solid, fun same => plus (congrArg String.toList same),
    fun same => minus (congrArg String.toList same)⟩

/-- **A bounded setting takes what lies within its bounds, and nothing else.** Each request is
granted what it asks for, if that lies within the bounds, or is refused and changes nothing. A text
is accepted just if it denotes a number of the range that lies within the bounds, refused as out of
bounds just if it denotes one that does not, and as unreadable just if it denotes none. Such are the
empty text, a lone sign, every text with a blank in it, those with a minus sign where no number is
negative, and those of integers outside the range. Behind any row of requests the setting has its
name and bounds as before. A value that was within them at any point still is, and it is the one
that was granted last, or the one of the start where every request was refused. -/
theorem Setting.takes_exactly_its_bounds (setting : Setting (Ranged low high)) :
    (∀ request,
      (∃ value, setting.Grants request value ∧ setting.answer request = .ok { setting with value } ∧
        setting.perform request = { setting with value }) ∨
      (setting.Refuses request ∧ (∃ reason, setting.answer request = .error reason) ∧
        setting.perform request = setting)) ∧
    (∀ value reason, setting.assign value = .error reason ↔
      reason = .outOfBounds setting.name ∧ ¬setting.Admits value) ∧
    (∀ text changed, setting.assignText text = .ok changed ↔
      ∃ number, Ranged.Denotes text number ∧ setting.Admits number ∧
        changed = { setting with value := number }) ∧
    (∀ text, setting.assignText text = .error (.outOfBounds setting.name) ↔
      ∃ number, Ranged.Denotes text number ∧ ¬setting.Admits number) ∧
    (∀ text, setting.assignText text = .error (.unreadable setting.name) ↔
      ∀ number : Ranged low high, ¬Ranged.Denotes text number) ∧
    (∀ text, (∀ number : Ranged low high, ¬Ranged.Denotes text number) ↔
      (∀ int, SignedDecimal.Writes text.toList int → int < low ∨ high < int) ∨
        0 ≤ low ∧ text.toList.head? = some '-') ∧
    (∀ text, (text = "" ∨ text = "+" ∨ text = "-" ∨ ∃ char ∈ text.toList,
      Text.isBlank char = true) →
      setting.assignText text = .error (.unreadable setting.name)) ∧
    (∀ requests, (setting.follow requests).name = setting.name ∧
      (setting.follow requests).least = setting.least ∧
      (setting.follow requests).greatest = setting.greatest) ∧
    (∀ front back, setting.Admits (setting.follow front).value →
      setting.Admits (setting.follow (front ++ back)).value) ∧
    (∀ requests,
      ((∀ request ∈ requests, setting.Refuses request) ∧ setting.follow requests = setting) ∨
      ∃ front request back value, requests = front ++ request :: back ∧
        setting.Grants request value ∧
        (∀ later ∈ back, setting.Refuses later) ∧ setting.follow requests =
          { setting with value }) := by
  refine ⟨setting.perform_cases, fun value reason => ?assign, fun _ _ => assignText_eq_ok_iff,
    fun _ => ?outside, fun _ => ?unreadable, fun _ => Ranged.not_denotes_iff, fun text odd => ?odd,
    fun requests => ?frame, fun front back within => ?within, setting.follow_cases⟩
  case assign =>
    by_cases admits : setting.Admits value
    · simp only [assign_of_admits admits, reduceCtorEq, admits, not_true_eq_false, and_false]
    · simp only [assign_of_not_admits admits, Except.error.injEq, eq_comm,
        admits, not_false_eq_true, and_true]
  case outside =>
    simp only [assignText_eq_error_iff, true_and, reduceCtorEq, false_and, or_false]
  case unreadable =>
    simp only [assignText_eq_error_iff, true_and, reduceCtorEq, false_and, false_or]
  case odd =>
    refine assignText_of_not_denotes fun number denotes => ?_
    obtain ⟨solid, plus, minus⟩ := denotes.solid
    rcases odd with rfl | rfl | rfl | ⟨char, inside, blank⟩
    · exact solid.ne_nil rfl
    · exact plus rfl
    · exact minus rfl
    · exact absurd ((solid.visible char inside).symm.trans blank) Bool.false_ne_true
  case frame =>
    obtain ⟨value, same⟩ := setting.exists_follow_eq requests
    rw [same]
    exact ⟨rfl, rfl, rfl⟩
  case within =>
    obtain ⟨value, same⟩ := setting.exists_follow_eq front
    rw [same] at within
    obtain ⟨last, ends⟩ := setting.exists_follow_eq (front ++ back)
    have kept := admits_follow (setting.follow front) back (by rw [same]; exact within)
    rw [← follow_append, ends] at kept
    rw [ends]
    exact kept

example :
    ({} : TierSettings).minCopies.assignText "4294967295" = .error
      (.outOfBounds "min_learnt_copies") ∧
    ({} : TierSettings).minCopies.assignText "4294967296" = .error
      (.unreadable "min_learnt_copies") ∧
    ({} : TierSettings).minCopies.assignText "-0" = .error (.unreadable "min_learnt_copies") := by
  decide

end ClauseSharing
