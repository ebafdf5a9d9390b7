import MetricLedger.Metric

/-!
# Acknowledgments

What a write is answered with: names and values in order.
-/

namespace MetricLedger

open Json (Value)

structure Acknowledgment where
  attributes : List (String × Value)
deriving DecidableEq, Repr, Inhabited

namespace Acknowledgment

/-- What stands for something that is not there. -/
def absent : String := "None"

def get? (a : Acknowledgment) (name : String) : Option Value := a.attributes.lookup name

def toObject (a : Acknowledgment) : Value := .object a.attributes

def ofTexts (attributes : List (String × String)) : Acknowledgment :=
  ⟨attributes.map fun (name, text) => (name, .text text)⟩

/-- The encoded attributes, if this is a text with anything in it. -/
def attributesText (payload? : Option Payload) : String :=
  match payload?.map Payload.text with
  | none | some "" => absent
  | some text => text

def posted (m : Metric) : Acknowledgment where
  attributes := [
    ("action", .text "post_metric"),
    ("metric_key", m.key),
    ("metric_value", m.value),
    ("metric_type", .text m.type.label),
    ("metric_update_time", .text (Integer.text m.updateTime)),
    ("metric_block_height", .text (Integer.text m.blockHeight)),
    ("metric_attributes", .text (attributesText m.attributes))]

def instantiated (admin : String) (channel : Option String) : Acknowledgment :=
  ofTexts [
    ("action", "instantiate"),
    ("admin_address", admin),
    ("transfer_channel_id", channel.getD absent)]

def migrated (previous running : String) : Acknowledgment :=
  ofTexts [("action", "migrate"), ("from_version", previous), ("to_version", running)]

end Acknowledgment

end MetricLedger
