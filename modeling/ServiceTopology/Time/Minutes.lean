import ServiceTopology.Time.Bucket

/-!
# Minutes of a window

Count the whole minutes between two second buckets. When the moment of a registration is known, a window
that starts earlier is cut to start there, so that the minutes before it do not count. The result is at
least one minute, also for windows that end before they start.
-/

namespace ServiceTopology

/-- Whole minutes from one moment to another, at least one. -/
def minutesFrom (start finish : Moment) : Int :=
  max (((finish.seconds : Int) - start.seconds).fdiv 60) 1

/-- Minutes of a window of second buckets, cut at an optional registration bucket. -/
def minutesOfWindow (registration : Option Int) (start finish : Int) : Except Bucket.Error Int := do
  let opens ← Bucket.parse start .second
  let closes ← Bucket.parse finish .second
  match registration with
  | none => return minutesFrom opens closes
  | some bucket =>
    let registered ← Bucket.parse bucket .second
    return minutesFrom (opens.later registered) closes

end ServiceTopology
