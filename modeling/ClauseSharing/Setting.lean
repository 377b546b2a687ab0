import ClauseSharing.Number.Binary64
import ClauseSharing.Number.Ranged

/-! # Bounded settings

A setting has a value and the bounds within which a request may change it. A request outside the
bounds, or one that cannot be read, leaves the setting as it is. -/

namespace ClauseSharing

/-- Types whose values have a text. -/
class FromText (α : Type) where
  /-- The value that a text writes. -/
  ofText? : String → Option α

instance (low high : Int) : FromText (Ranged low high) := ⟨Ranged.ofText?⟩

instance : FromText Float := ⟨Binary64.ofText?⟩

/-- Why a setting refuses a request. -/
inductive SettingError where
  /-- The value lies outside the bounds of the named setting. -/
  | outOfBounds (name : String)
  /-- The text writes no value that the named setting could have. -/
  | unreadable (name : String)
deriving DecidableEq

/-- A value that may be changed within bounds. -/
structure Setting (α : Type) where
  /-- The name under which the setting is known. -/
  name : String
  /-- The least value that is accepted. -/
  least : α
  /-- The greatest value that is accepted. -/
  greatest : α
  /-- The value at hand. -/
  value : α
deriving DecidableEq

namespace Setting

variable {α : Type} [LE α] [DecidableLE α]

/-- Gives the setting a value within its bounds. -/
def assign (setting : Setting α) (value : α) : Except SettingError (Setting α) :=
  if setting.least ≤ value ∧ value ≤ setting.greatest then .ok { setting with value }
  else .error (.outOfBounds setting.name)

/-- Gives the setting the value that a text writes. -/
def assignText [FromText α] (setting : Setting α) (text : String) :
    Except SettingError (Setting α) :=
  match FromText.ofText? text with
  | some value => setting.assign value
  | none => .error (.unreadable setting.name)

end Setting

end ClauseSharing
