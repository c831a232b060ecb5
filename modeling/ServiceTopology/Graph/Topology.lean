import ServiceTopology.Schema.Decode

/-!
# Topologies

The graph that a dashboard shows: nodes for instrumented applications, for endpoints that are only
conjectured from calls to them, and for the users; and calls between nodes. A topology can be written as
JSON and read from it.

Only application nodes carry metrics. Nothing here forces ids to be distinct or calls to lead to nodes.
-/

namespace ServiceTopology

open Schema

/-- Metrics of an application node. -/
structure NodeMetrics where
  sla : Int
  cpm : Int
  averageResponseTime : Rat
  apdex : Int
  alarm : Bool
  servers : Int
  serverAlarms : Int
  serviceAlarms : Int
  deriving DecidableEq

/-- What a node stands for. -/
inductive NodeKind where
  | application (metrics : NodeMetrics)
  | conjectural
  | user
  deriving DecidableEq

/-- Tag of a kind of node. -/
def NodeKind.tag : NodeKind → String
  | application _ => "application"
  | conjectural => "conjectural"
  | user => "user"

/-- A node of the graph. -/
structure Node where
  id : Int
  name : WideText
  type : WideText
  kind : NodeKind
  deriving DecidableEq

/-- A call between two applications. -/
structure Call where
  source : Int
  sourceName : WideText
  target : Int
  targetName : WideText
  callType : WideText
  cpm : Int
  averageResponseTime : Rat
  alert : Bool
  deriving DecidableEq

/-- Nodes and calls of one window. -/
structure Topology where
  nodes : List Node
  calls : List Call
  deriving DecidableEq

/-- Write a ratio in lowest terms, a whole one as an integer. -/
def ratioText (q : Rat) : String :=
  if q.den = 1 then Text.decimal q.num
  else String.ofList (Text.intDigits q.num ++ '/' :: Text.natDigits q.den)

namespace NodeMetrics

/-- Write the metrics of a node. -/
def members (metrics : NodeMetrics) : Json.Members :=
  [("sla", .int metrics.sla), ("cpm", .int metrics.cpm),
    ("avg_response_time", .str (ratioText metrics.averageResponseTime)),
    ("apdex", .int metrics.apdex), ("alarm", .bool metrics.alarm),
    ("num_of_server", .int metrics.servers), ("num_of_server_alarm", .int metrics.serverAlarms),
    ("num_of_service_alarm", .int metrics.serviceAlarms)]

/-- Read the metrics of a node. -/
def ofMembers (members : Json.Members) : Checked NodeMetrics :=
  NodeMetrics.mk <$> optional members "sla" 0 integer
    <*> optional members "cpm" 0 integer
    <*> optional members "avg_response_time" 0 ratio
    <*> optional members "apdex" 0 integer
    <*> optional members "alarm" false boolean
    <*> optional members "num_of_server" 0 integer
    <*> optional members "num_of_server_alarm" 0 integer
    <*> optional members "num_of_service_alarm" 0 integer

end NodeMetrics

namespace Node

/-- Write a node, its tag first. -/
def toJson (node : Node) : Json :=
  let head : Json.Members :=
    [("kind", .str node.kind.tag), ("id", .int node.id), ("name", .str node.name), ("type", .str node.type)]
  match node.kind with
  | .application metrics => .obj (head ++ metrics.members)
  | .conjectural => .obj head
  | .user => .obj head

/-- Read the members of a node of a known kind, whose own data are read last. -/
def ofMembers (members : Json.Members) (kind : Checked NodeKind) : Checked Node :=
  Node.mk <$> required members "id" integer
    <*> required members "name" string
    <*> required members "type" string
    <*> kind

/-- Read a node by its tag; issues inside it lie under the tag. -/
def ofTagged (members : Json.Members) : Json → Checked Node
  | .str (.plain "application") =>
    (ofMembers members (.application <$> NodeMetrics.ofMembers members)).under (.name "application")
  | .str (.plain "conjectural") => (ofMembers members (pure .conjectural)).under (.name "conjectural")
  | .str (.plain "user") => (ofMembers members (pure .user)).under (.name "user")
  | _ => .reject .tagUnknown

/-- Read a node. -/
def ofJson : Decoder Node
  | .obj members =>
    match members.lookup (WideText.plain "kind") with
    | some tag => ofTagged members tag
    | none => .reject .tagMissing
  | _ => .reject .notTagged

end Node

namespace Call

/-- Write a call. -/
def toJson (call : Call) : Json :=
  .obj [("source", .int call.source), ("source_name", .str call.sourceName),
    ("target", .int call.target), ("target_name", .str call.targetName),
    ("call_type", .str call.callType), ("cpm", .int call.cpm),
    ("avg_response_time", .str (ratioText call.averageResponseTime)), ("alert", .bool call.alert)]

/-- Read a call. -/
def ofJson : Decoder Call :=
  record fun members =>
    Call.mk <$> required members "source" integer
      <*> required members "source_name" string
      <*> required members "target" integer
      <*> required members "target_name" string
      <*> required members "call_type" string
      <*> optional members "cpm" 0 integer
      <*> optional members "avg_response_time" 0 ratio
      <*> optional members "alert" false boolean

end Call

namespace Topology

/-- The topology without nodes and calls. -/
def empty : Topology := ⟨[], []⟩

/-- Write a topology. -/
def toJson (topology : Topology) : Json :=
  .obj [("nodes", .arr (topology.nodes.map Node.toJson)),
    ("calls", .arr (topology.calls.map Call.toJson))]

/-- Read a topology. -/
def ofJson : Decoder Topology :=
  record fun members =>
    Topology.mk <$> optional members "nodes" [] (list Node.ofJson)
      <*> optional members "calls" [] (list Call.ofJson)

/-- Ids of the nodes, each once, in the order of their first node. -/
def nodeIds (topology : Topology) : List Int := (topology.nodes.map (·.id)).eraseDups

/-- Find the first node with an id. -/
def getNode? (topology : Topology) (id : Int) : Option Node :=
  topology.nodes.find? (·.id == id)

end Topology

end ServiceTopology
