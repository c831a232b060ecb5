/-!
# Quality scores

Two integer percentages of an application's traffic. Divisions round towards minus infinity, and traffic
without calls scores 100.

The counts are arbitrary integers: a score is a percentage only for counts that make sense together.
-/

namespace ServiceTopology.Score

/-- Percentage of successful calls. -/
def sla (errorCalls calls : Int) : Int :=
  if calls ≤ 0 then 100 else ((calls - errorCalls) * 100).fdiv calls

/-- Percentage of satisfied requests, a tolerating one counting half. -/
def apdex (satisfied tolerating frustrated : Int) : Int :=
  let total := satisfied + tolerating + frustrated
  if total ≤ 0 then 100 else (satisfied * 100 + tolerating * 50).fdiv total

end ServiceTopology.Score
