import ServiceTopology.Proofs.Graph.NodeIdentity

/-!
# The node of the users

When a built topology shows the users, and that it shows them at most once. A kept callee row that comes
from the users is necessary and in general not sufficient: the id that is reserved for the users is an id
like any other, and a metric row or an earlier mention by a caller row gives it a node of another kind.
-/

namespace ServiceTopology

namespace Measurements

/-- No kept caller row mentions an id exactly when it is the source of none, and when it also is not the
target of one as that of a registered address without an alias. -/
theorem find?_callerMentions_eq_none (rows : Measurements) (settings : Settings)
    (services : Services) (id : Int) :
    ((rows.keptCallers settings).flatMap (rows.callerMentions services)).find? (·.id == id) = none ↔
      ∀ row ∈ rows.keptCallers settings, row.source ≠ id ∧
        ¬(row.target = id ∧ services.isAddress id = true ∧ rows.hasAlias id = false) := by
  rw [List.find?_eq_none]
  constructor
  · intro hnone row hrow
    rw [← not_or, ← rows.mem_ids_callerMentions services row id]
    intro hid
    obtain ⟨mention, hmention, rfl⟩ := List.mem_map.mp hid
    exact hnone mention (List.mem_flatMap.mpr ⟨row, hrow, hmention⟩) (beq_self_eq_true mention.id)
  · intro hrows mention hmention hid
    obtain ⟨row, hrow, hmention⟩ := List.mem_flatMap.mp hmention
    have hunmentioned := hrows row hrow
    rw [← not_or, ← rows.mem_ids_callerMentions services row id] at hunmentioned
    exact hunmentioned (List.mem_map.mpr ⟨mention, hmention, by simpa using hid⟩)

/-- Caller rows never mention the source of a callee row as such. -/
theorem callerMentions_ne_calleeSource (rows : Measurements) (services : Services)
    (row : ReferenceRow) (id target : Int) :
    Mention.calleeSource id target ∉ rows.callerMentions services row := by
  unfold callerMentions
  split
  · simp
  · simp

/-- An id is first mentioned by a callee row exactly when one comes from it and no caller row mentions
it. -/
theorem exists_find?_calleeSource (rows : Measurements) (settings : Settings) (services : Services)
    (id : Int) :
    (∃ target, (rows.mentions settings services).find? (·.id == id) =
        some (.calleeSource id target)) ↔
      (∃ row ∈ rows.keptCallees settings services, row.source = id) ∧
        ∀ row ∈ rows.keptCallers settings, row.source ≠ id ∧
          ¬(row.target = id ∧ services.isAddress id = true ∧ rows.hasAlias id = false) := by
  rw [mentions, List.find?_append, ← rows.find?_callerMentions_eq_none settings services id]
  cases hcaller : ((rows.keptCallers settings).flatMap (rows.callerMentions services)).find?
      (·.id == id) with
  | some mention =>
    obtain ⟨row, -, hmention⟩ := List.mem_flatMap.mp (List.mem_of_find?_eq_some hcaller)
    refine iff_of_false ?_ (by simp)
    rintro ⟨target, hfirst⟩
    rw [Option.some_or, Option.some.injEq] at hfirst
    exact rows.callerMentions_ne_calleeSource services row id target (hfirst ▸ hmention)
  | none =>
    rw [Option.none_or, List.find?_map, and_iff_left rfl]
    constructor
    · rintro ⟨target, hfirst⟩
      obtain ⟨row, hrow, -⟩ := Option.map_eq_some_iff.mp hfirst
      exact ⟨row, List.mem_of_find?_eq_some hrow, by simpa [Mention.id] using List.find?_some hrow⟩
    · rintro ⟨row, hrow, hsource⟩
      have hsome : ((rows.keptCallees settings services).find?
          fun row => (Mention.calleeSource row.source row.target).id == id).isSome := by
        rw [List.find?_isSome]
        exact ⟨row, hrow, by simpa [Mention.id] using hsource⟩
      obtain ⟨first, hfirst⟩ := Option.isSome_iff_exists.mp hsome
      have hid : first.source = id := by simpa [Mention.id] using List.find?_some hfirst
      refine ⟨first.target, ?_⟩
      rw [← hid] at hfirst ⊢
      exact Option.map_eq_some_iff.mpr ⟨first, hfirst, rfl⟩

end Measurements

/-- The node of a mention shows the users exactly when their id is mentioned as a callee source. -/
theorem Measurements.mentionedNode_kind_eq_user (rows : Measurements) (settings : Settings) (services : Services)
    (mention : Mention) :
    (rows.mentionedNode settings services mention).kind = .user ↔
      ∃ target, mention = .calleeSource settings.noneApplicationId target := by
  cases mention with
  | callerTarget id => simp [mentionedNode]
  | callerSource id => simp [mentionedNode]
  | calleeSource id target =>
    by_cases husers : id = settings.noneApplicationId
    · rw [husers, mentionedNode_users]
      exact iff_of_true rfl ⟨target, rfl⟩
    · rw [rows.mentionedNode_calleeSource settings services husers]
      simp [husers]

section Build

variable (settings : Settings) (services : Services) (rows : Measurements)
  (hkeyed : services.Keyed)

include hkeyed

/-- A node of a build shows the users exactly when it is that of a first mention of their id by a callee
row. -/
theorem mem_nodes_user (node : Node) :
    (node ∈ (buildTopology settings services rows).value.nodes ∧ node.kind = .user) ↔
      ∃ target, .calleeSource settings.noneApplicationId target ∈
          rows.firstMentions settings services ∧
        node = rows.mentionedNode settings services (.calleeSource settings.noneApplicationId target) := by
  rw [nodes_buildTopology settings services rows hkeyed, List.mem_append, List.mem_map, List.mem_map]
  constructor
  · rintro ⟨⟨row, -, rfl⟩ | ⟨mention, hmention, rfl⟩, hkind⟩
    · obtain ⟨metrics, hnode⟩ := value_metricNode settings services rows hkeyed row
      simp [hnode] at hkind
    · obtain ⟨target, rfl⟩ := (rows.mentionedNode_kind_eq_user _ _ mention).mp hkind
      exact ⟨target, hmention, rfl⟩
  · rintro ⟨target, hmention, rfl⟩
    exact ⟨Or.inr ⟨_, hmention, rfl⟩,
      (rows.mentionedNode_kind_eq_user _ _ _).mpr ⟨target, rfl⟩⟩

/-- A build shows the users at most once. -/
theorem countP_user_le_one :
    (buildTopology settings services rows).value.nodes.countP (·.kind = .user) ≤ 1 := by
  let nodes := (buildTopology settings services rows).value.nodes
  have huser {node : Node} (hnode : node ∈ nodes) (hkind : node.kind = .user) :
      node.id = settings.noneApplicationId ∧
        settings.noneApplicationId ∉ rows.metrics.map (·.id) := by
    obtain ⟨target, hfirst, rfl⟩ :=
      (mem_nodes_user settings services rows hkeyed node).mp ⟨hnode, hkind⟩
    exact ⟨rows.mentionedNode_id _ _ _, ((rows.mem_firstMentions _ _ _).mp hfirst).1⟩
  by_cases hmetric : settings.noneApplicationId ∈ rows.metrics.map (·.id)
  · have hnone : nodes.countP (·.kind = .user) = 0 := by
      rw [List.countP_eq_zero]
      intro node hnode hkind
      exact (huser hnode (by simpa using hkind)).2 hmetric
    exact Nat.le_trans (Nat.le_of_eq hnone) (Nat.zero_le 1)
  · have hcount : (nodes.map (·.id)).count settings.noneApplicationId ≤ 1 := by
      rw [count_ids_buildTopology settings services rows hkeyed, List.count_eq_zero_of_not_mem hmetric,
        if_neg (Nat.lt_irrefl 0)]
      split <;> simp
    refine Nat.le_trans ?_ hcount
    rw [List.count, List.countP_map]
    refine List.countP_mono_left fun node hnode hkind => ?_
    simpa using (huser hnode (by simpa using hkind)).1

end Build

/-- A build shows the users exactly when a kept callee row comes from them and their id has no metric row
and is not mentioned by a kept caller row. It shows them at most once. -/
theorem users_shown_iff_first_mentioned (settings : Settings) (services : Services)
    (rows : Measurements) (hkeyed : services.Keyed) :
    let users := settings.noneApplicationId
    let topology := (buildTopology settings services rows).value
    ((∃ node ∈ topology.nodes, node.kind = .user) ↔
        (∃ row ∈ rows.keptCallees settings services, row.source = users) ∧
          users ∉ rows.metrics.map (·.id) ∧
          ∀ row ∈ rows.keptCallers settings, row.source ≠ users ∧
            ¬(row.target = users ∧ services.isAddress users = true ∧
              rows.hasAlias users = false)) ∧
      topology.nodes.countP (·.kind = .user) ≤ 1 := by
  intro users topology
  refine ⟨?_, countP_user_le_one settings services rows hkeyed⟩
  have hfirst : (∃ node ∈ topology.nodes, node.kind = .user) ↔
      users ∉ rows.metrics.map (·.id) ∧ ∃ target,
        (rows.mentions settings services).find? (·.id == users) =
          some (.calleeSource users target) := by
    simp only [topology, mem_nodes_user settings services rows hkeyed, Measurements.mem_firstMentions]
    constructor
    · rintro ⟨node, target, hmention, -⟩
      exact ⟨hmention.1, target, hmention.2⟩
    · rintro ⟨hmetric, target, hmention⟩
      exact ⟨_, target, ⟨hmetric, hmention⟩, rfl⟩
  rw [hfirst, rows.exists_find?_calleeSource settings services users]
  exact and_left_comm

/-- Stores that know one application and nothing else. -/
def Stores.ordersOnly : Stores where
  registry := .ofList [⟨2, "orders", false, none⟩]
  catalog := ⟨.empty, .empty, .empty⟩
  fleet := ⟨[]⟩
  archive := ⟨[], []⟩

/-- Two reports of calls by the users, next to caller rows. -/
def Measurements.userReports (callers : List ReferenceRow) : Measurements where
  window := ⟨.minute, 201801301200, 201801301210, 20180130120000, 20180130121000⟩
  components := []
  mappings := []
  metrics := []
  callers
  callees := [⟨1, 2, 20, 0, 500, 0⟩, ⟨1, 2, 10, 0, 100, 0⟩]

/-- Reports of the users alone show them, and only once. -/
theorem users_shown_of_reports :
    Stores.ordersOnly.services.Keyed ∧
      let topology := (buildTopology .standard Stores.ordersOnly.services (.userReports [])).value
      (∃ node ∈ topology.nodes, node.kind = .user) ∧ topology.nodes.countP (·.kind = .user) ≤ 1 := by
  have hkeyed := Stores.ordersOnly.keyed_services
  have hshown := users_shown_iff_first_mentioned .standard Stores.ordersOnly.services (.userReports [])
    hkeyed
  exact ⟨hkeyed, hshown.1.mpr (by decide +kernel), hshown.2⟩

/-- A caller row that comes from the users makes them an application, and no later report shows them. -/
theorem users_not_shown_after_caller :
    ¬ ∀ (settings : Settings) (stores : Stores) (rows : Measurements),
      (∃ node ∈ (buildTopology settings stores.services rows).value.nodes, node.kind = .user) ↔
        ∃ row ∈ rows.keptCallees settings stores.services, row.source = settings.noneApplicationId := by
  intro h
  have hreported : ∃ row ∈ (Measurements.userReports [⟨1, 2, 20, 0, 500, 0⟩]).keptCallees .standard
      Stores.ordersOnly.services, row.source = Settings.standard.noneApplicationId := by
    decide +kernel
  obtain ⟨node, hnode, hkind⟩ := (h _ _ _).mpr hreported
  have happlications : ∀ node ∈ (buildTopology .standard Stores.ordersOnly.services
      (.userReports [⟨1, 2, 20, 0, 500, 0⟩])).value.nodes, node.kind ≠ .user := by
    decide +kernel
  exact happlications node hnode hkind

end ServiceTopology
