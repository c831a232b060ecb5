/-!
# Granularities

The five granularities at which time is packed into digits. Each has a name, a number of digits and a
pattern that messages quote.
-/

namespace ServiceTopology

/-- Granularity of a time bucket. -/
inductive Step where
  | month
  | day
  | hour
  | minute
  | second
  deriving DecidableEq

namespace Step

/-- Every granularity, from the coarsest to the finest. -/
def all : List Step := [month, day, hour, minute, second]

/-- Name of a granularity. -/
def name : Step → String
  | month => "month"
  | day => "day"
  | hour => "hour"
  | minute => "minute"
  | second => "second"

/-- Find a granularity by its name. -/
def ofName? (text : String) : Option Step := all.find? (·.name == text)

/-- Number of digits of a bucket. -/
def digits : Step → Nat
  | month => 6
  | day => 8
  | hour => 10
  | minute => 12
  | second => 14

/-- Pattern of a bucket, as quoted in messages. -/
def pattern : Step → String
  | month => "%Y%m"
  | day => "%Y%m%d"
  | hour => "%Y%m%d%H"
  | minute => "%Y%m%d%H%M"
  | second => "%Y%m%d%H%M%S"

end Step

end ServiceTopology
