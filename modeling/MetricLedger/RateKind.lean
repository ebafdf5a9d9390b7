/-!
# The two rates of a staked token
-/

namespace MetricLedger

inductive RateKind where
  | redemption
  | purchase
deriving DecidableEq, Repr, Inhabited

namespace RateKind

/-- The name of the rate in stored records, in answers and as a type of metrics. -/
def label : RateKind → String
  | redemption => "redemption_rate"
  | purchase => "purchase_rate"

def ofLabel? (label : String) : Option RateKind :=
  if label = redemption.label then some redemption
  else if label = purchase.label then some purchase
  else none

theorem ofLabel?_label (kind : RateKind) : ofLabel? kind.label = some kind := by
  cases kind <;> decide

theorem label_injective {kind kind' : RateKind} (h : kind.label = kind'.label) : kind = kind' := by
  have := ofLabel?_label kind
  rw [h, ofLabel?_label] at this
  exact (Option.some.inj this).symm

end RateKind

end MetricLedger
