import SplitTest.Eligibility
import SplitTest.Selector

/-!
# Device placements

Where a device lands in each enabled device experiment, as the hook before the
session would have it.
-/

namespace SplitTest.Report

open SplitTest.Text

/-- Where a device lands in one experiment. -/
structure Placement where
  /-- Shortname of the experiment. -/
  experiment : String
  /-- Its offset. -/
  numericOffset : Nat
  /-- The bucket under the offset. -/
  bucket : Nat
  /-- The condset the bucket falls on. -/
  condset : Option String
deriving DecidableEq, Repr

/-- Where a device lands. -/
structure BucketReport where
  /-- The fingerprint of the device. -/
  fingerprint : Device.Fingerprint
  /-- The bucket before any offset. -/
  baseBucket : Nat
  /-- The placements in stored order. -/
  placements : List Placement
deriving DecidableEq, Repr

/-- Where a device of a requester lands in one experiment. -/
def place (f : Device.Fingerprint) (r : Requester) (e : Entry) : Placement :=
  let s := Selector.ofDevice f e.experiment.numericOffset
  { experiment := e.shortname
    numericOffset := e.experiment.numericOffset
    bucket := s.point
    condset := (s.select Condition.weight (e.eligible r)).map Condition.condset }

/-- The placements of a guest's device in a dataset. -/
def bucket (set : Dataset) (address userAgent : String) : BucketReport :=
  let f := Device.Fingerprint.compute address userAgent
  let r : Requester := ⟨some address, some userAgent, none, false⟩
  ⟨f, f.baseBucket, (set.activeIn .device).map (place f r)⟩

/-- A line of the report. -/
def Placement.display (p : Placement) : String :=
  "  " ++ padRight 20 p.experiment ++ " offset " ++ padLeft 2 (ofNat p.numericOffset)
    ++ " bucket " ++ padLeft 2 (ofNat p.bucket) ++ " -> " ++ p.condset.getD "(none)" ++ "\n"

/-- The text of the report. -/
def BucketReport.display (r : BucketReport) : String :=
  "fingerprint " ++ r.fingerprint.hex ++ "\n" ++ "base bucket " ++ ofNat r.baseBucket ++ "\n"
    ++ String.join (r.placements.map Placement.display)

end SplitTest.Report
