import Mathlib.Data.Finset.Card
import ServiceTopology.Proofs.Bindings
import ServiceTopology.Proofs.Store.AlarmSelection
import ServiceTopology.Session

/-!
# Replies in the light of a session's history

Stores in the middle of a session hold what they were filled with at first and what the updates so far have given
them, and nothing else. So every reply can be told from the contents at the start and the updates before its request:
of several applications with one id the last one is found, server instances and alarms are seen in the order in which
they came, and a scope fails from the first update that says so.

Requests other than updates leave no trace in the stores, whether they fail or not.
-/

namespace ServiceTopology

/-! ## Registered applications -/

namespace Registry

/-- Applications are registered from left to right. -/
theorem ofList_append_singleton (earlier : List Application) (application : Application) :
    ofList (earlier ++ [application]) = (ofList earlier).register application := by
  rw [ofList, List.foldl_append]
  rfl

/-- Of the applications with one id, the last one is found. -/
theorem find?_ofList (applications : List Application) (id : Int) :
    (ofList applications).find? id = (applications.filter fun application => application.id = id).getLast? := by
  induction applications using List.reverseRecOn with
  | nil => rfl
  | append_singleton earlier application ih =>
    rw [ofList_append_singleton, find?_register, ih, List.filter_append]
    by_cases h : application.id = id
    · rw [if_pos h.symm, List.filter_singleton, decide_eq_true h, List.getLast?_append]
      rfl
    · rw [if_neg (Ne.symm h), List.filter_singleton, decide_eq_false h]
      exact congrArg List.getLast? (List.append_nil _).symm

/-- The keys of registered applications are distinct, and they are the ids of the applications. -/
theorem keys_ofList (applications : List Application) :
    (ofList applications).applications.keys.Nodup ∧
      ∀ id, id ∈ (ofList applications).applications.keys ↔ id ∈ applications.map (·.id) := by
  induction applications using List.reverseRecOn with
  | nil => exact ⟨List.nodup_nil, fun id => Iff.rfl⟩
  | append_singleton earlier application ih =>
    rw [ofList_append_singleton]
    refine ⟨Table.nodup_keys_insert ih.1 application.id application, fun id => ?_⟩
    rw [register, Table.mem_keys_insert, ih.2, List.map_append, List.mem_append, List.map_singleton,
      List.mem_singleton, or_comm]

/-- Each id counts once. -/
theorem size_ofList (applications : List Application) :
    (ofList applications).size = (applications.map (·.id)).toFinset.card := by
  obtain ⟨hdistinct, hids⟩ := keys_ofList applications
  have hkeys : (ofList applications).applications.keys.toFinset = (applications.map (·.id)).toFinset := by
    ext id
    rw [List.mem_toFinset, List.mem_toFinset, hids]
  rw [← hkeys, List.toFinset_card_of_nodup hdistinct, Table.keys, List.length_map]
  rfl

end Registry

/-! ## Contents after updates -/

namespace StoreRequest

/-- Application that a request registers. -/
def application? : StoreRequest → Option Application
  | register application => some application
  | _ => none

/-- Server instance that a request adds. -/
def server? : StoreRequest → Option ServerInstance
  | addServer server => some server
  | _ => none

/-- Alarm that a request adds. -/
def alarm? : StoreRequest → Option AlarmItem
  | addAlarm item => some item
  | _ => none

/-- Scope that a request lets fail. -/
def failing? : StoreRequest → Option AlarmScope
  | failScope scope => some scope
  | _ => none

/-- Test whether a request is an update. -/
def isUpdate (request : StoreRequest) : Bool :=
  request.application?.isSome || request.server?.isSome || request.alarm?.isSome || request.failing?.isSome

end StoreRequest

namespace Contents

/-- Contents to which the updates among some requests have been added; the latest failing scope comes first. -/
def after (contents : Contents) (requests : List StoreRequest) : Contents where
  applications := contents.applications ++ requests.filterMap (·.application?)
  catalog := contents.catalog
  servers := contents.servers ++ requests.filterMap (·.server?)
  alarms := contents.alarms ++ requests.filterMap (·.alarm?)
  failing := (requests.filterMap (·.failing?)).reverse ++ contents.failing

/-- No updates add nothing. -/
@[simp] theorem after_nil (contents : Contents) : contents.after [] = contents := by
  simp [after]

/-- Updates are added one part after another. -/
theorem after_append (contents : Contents) (earlier later : List StoreRequest) :
    contents.after (earlier ++ later) = (contents.after earlier).after later := by
  simp [after]

/-- The updates up to a position are those up to an earlier one and those between the two. -/
theorem after_take (contents : Contents) (requests : List StoreRequest) {i j : Nat} (h : i ≤ j) :
    contents.after (requests.take j) = (contents.after (requests.take i)).after ((requests.take j).drop i) := by
  rw [← after_append]
  conv_lhs => rw [← List.take_append_drop i (requests.take j), List.take_take, Nat.min_eq_left h]

/-- A scope fails when it failed before or an update lets it fail. -/
theorem mem_failing_after {contents : Contents} {requests : List StoreRequest} {scope : AlarmScope} :
    scope ∈ (contents.after requests).failing ↔
      .failScope scope ∈ requests ∨ scope ∈ contents.failing := by
  have hfailing (request : StoreRequest) : request.failing? = some scope ↔ request = .failScope scope := by
    cases request <;> simp [StoreRequest.failing?]
  simp only [after, List.mem_append, List.mem_reverse, List.mem_filterMap, hfailing, exists_eq_right]

/-- A request that is no update adds nothing. -/
theorem after_of_read {request : StoreRequest} (h : request.isUpdate = false) (contents : Contents) :
    contents.after [request] = contents := by
  simp only [StoreRequest.isUpdate, Bool.or_eq_false_iff, Option.isSome_eq_false_iff, Option.isNone_iff_eq_none] at h
  obtain ⟨⟨⟨happlication, hserver⟩, halarm⟩, hfailing⟩ := h
  simp [after, happlication, hserver, halarm, hfailing]

end Contents

/-! ## Stores during a session -/

namespace Deployment

variable (deployment : Deployment)

/-- A request that is no update leaves the stores as they are. -/
theorem stores_perform_of_read {request : StoreRequest} (h : request.isUpdate = false) (stores : Stores) :
    (deployment.perform stores request).value.2 = stores := by
  cases request with
  | register _ | addServer _ | addAlarm _ | failScope _ => cases h
  | _ => rfl

/-- A request leaves stores that hold what it adds, if anything. -/
theorem stores_perform (contents : Contents) (request : StoreRequest) :
    (deployment.perform contents.stores request).value.2 = (contents.after [request]).stores := by
  cases hupdate : request.isUpdate with
  | false => rw [deployment.stores_perform_of_read hupdate, Contents.after_of_read hupdate]
  | true =>
    cases request with
    | register _ | addServer _ | addAlarm _ | failScope _ =>
      simp [perform, Contents.stores, Contents.after, StoreRequest.application?, StoreRequest.server?,
        StoreRequest.alarm?, StoreRequest.failing?, Registry.ofList_append_singleton, Fleet.add, AlarmArchive.add,
        AlarmArchive.failScope]
    | _ => cases hupdate

/-- After a session, the stores hold what they held at first and what the updates have added. -/
theorem stores_performAll (contents : Contents) (requests : List StoreRequest) :
    (deployment.performAll contents.stores requests).value.2 = (contents.after requests).stores := by
  induction requests generalizing contents with
  | nil => rw [Contents.after_nil]; rfl
  | cons request rest ih =>
    have hstep := deployment.stores_perform contents request
    have hafter : contents.after (request :: rest) = (contents.after [request]).after rest :=
      contents.after_append [request] rest
    calc (deployment.performAll contents.stores (request :: rest)).value.2
        = (deployment.performAll (deployment.perform contents.stores request).value.2 rest).value.2 := rfl
      _ = ((contents.after [request]).after rest).stores := by rw [hstep, ih]
      _ = (contents.after (request :: rest)).stores := by rw [hafter]

/-- Each request is answered from what was held at first and what the updates before it have added. -/
theorem replies_performAll (contents : Contents) {requests : List StoreRequest} {i : Nat} {request : StoreRequest}
    (h : requests[i]? = some request) :
    (deployment.performAll contents.stores requests).value.1[i]? =
      some (deployment.perform (contents.after (requests.take i)).stores request).value.1 := by
  induction requests generalizing contents i with
  | nil => cases h
  | cons first rest ih =>
    have hsplit : (deployment.performAll contents.stores (first :: rest)).value.1 =
        (deployment.perform contents.stores first).value.1 ::
          (deployment.performAll (contents.after [first]).stores rest).value.1 := by
      rw [← deployment.stores_perform contents first]
      rfl
    cases i with
    | zero =>
      cases h
      rw [hsplit, List.take_zero, Contents.after_nil]
      rfl
    | succ i =>
      have hafter : contents.after ((first :: rest).take (i + 1)) = (contents.after [first]).after (rest.take i) :=
        contents.after_append [first] (rest.take i)
      rw [hsplit, hafter, List.getElem?_cons_succ]
      exact ih (contents.after [first]) h

/-! ## Replies to alarm queries -/

section

variable (contents : Contents) (scope : AlarmScope) (q : AlarmQuery)

/-- A query of a failing scope fails in any window; of other queries, those with a malformed bucket are refused and
the others get a page of the alarms that they select. -/
theorem reply_queryAlarms :
    let reply := (deployment.perform contents.stores (.queryAlarms scope q)).value.1
    (scope ∈ contents.failing ∧ reply = .alarms (.error (.scopeFails scope))) ∨
      (scope ∉ contents.failing ∧ ¬q.WellFormed ∧ ∃ error, reply = .alarms (.error (.badBucket error))) ∨
      (scope ∉ contents.failing ∧ q.WellFormed ∧ reply = .alarms (.ok (contents.stores.archive.page scope q))) := by
  by_cases hscope : scope ∈ contents.failing
  · exact .inl ⟨hscope, congrArg StoreReply.alarms (AlarmArchive.value_query_of_failing hscope)⟩
  by_cases hq : q.WellFormed
  · exact .inr (.inr ⟨hscope, hq, congrArg StoreReply.alarms (AlarmArchive.value_query_of_wellFormed hscope hq)⟩)
  · have hrefused : ∃ error, (contents.stores.archive.query scope q).value = .error (.badBucket error) :=
      AlarmArchive.value_query_of_malformed hscope hq
    obtain ⟨error, herror⟩ := hrefused
    exact .inr (.inl ⟨hscope, hq, error, congrArg StoreReply.alarms herror⟩)

/-- A query fails with its scope exactly when the scope fails. -/
theorem reply_eq_scopeFails_iff :
    (deployment.perform contents.stores (.queryAlarms scope q)).value.1 = .alarms (.error (.scopeFails scope)) ↔
      scope ∈ contents.failing := by
  obtain ⟨hscope, h⟩ | ⟨hscope, -, error, h⟩ | ⟨hscope, -, h⟩ := deployment.reply_queryAlarms contents scope q <;>
    simp [h, hscope]

/-- A query is refused exactly when its scope does not fail and one of its buckets is malformed. -/
theorem reply_eq_badBucket_iff :
    (∃ error, (deployment.perform contents.stores (.queryAlarms scope q)).value.1 =
        .alarms (.error (.badBucket error))) ↔ scope ∉ contents.failing ∧ ¬q.WellFormed := by
  obtain ⟨hscope, h⟩ | ⟨hscope, hq, error, h⟩ | ⟨hscope, hq, h⟩ := deployment.reply_queryAlarms contents scope q <;>
    simp [*]

/-- A query gets a page exactly when its scope does not fail and its buckets are well formed. -/
theorem reply_eq_page_iff (page : AlarmPage) :
    (deployment.perform contents.stores (.queryAlarms scope q)).value.1 = .alarms (.ok page) ↔
      scope ∉ contents.failing ∧ q.WellFormed ∧ contents.stores.archive.page scope q = page := by
  obtain ⟨hscope, h⟩ | ⟨hscope, hq, error, h⟩ | ⟨hscope, hq, h⟩ := deployment.reply_queryAlarms contents scope q <;>
    simp [*]

end

end Deployment

/-- Updates take no selected alarm away. -/
theorem Contents.total_page_le_after (contents : Contents) (requests : List StoreRequest) (scope : AlarmScope)
    (q : AlarmQuery) :
    (contents.stores.archive.page scope q).total ≤ ((contents.after requests).stores.archive.page scope q).total :=
  ((List.sublist_append_left contents.alarms _).filter _).length_le

/-! ## Whole sessions -/

namespace Deployment

variable (deployment : Deployment) {contents : Contents} {requests : List StoreRequest} {i j : Nat}
  {scope : AlarmScope} {q later : AlarmQuery}

/-- When a query that got a page is repeated, it is told no smaller number, unless its scope was made to fail. -/
theorem reply_of_repeated {page : AlarmPage} (h : i ≤ j) (hi : requests[i]? = some (.queryAlarms scope q))
    (hj : requests[j]? = some (.queryAlarms scope q))
    (hpage : (deployment.performAll contents.stores requests).value.1[i]? = some (.alarms (.ok page))) :
    if .failScope scope ∈ (requests.take j).drop i then
      (deployment.performAll contents.stores requests).value.1[j]? = some (.alarms (.error (.scopeFails scope)))
    else ∃ more, (deployment.performAll contents.stores requests).value.1[j]? = some (.alarms (.ok more)) ∧
      page.total ≤ more.total := by
  rw [deployment.replies_performAll contents hi, Option.some_inj, deployment.reply_eq_page_iff] at hpage
  obtain ⟨hscope, hq, rfl⟩ := hpage
  rw [deployment.replies_performAll contents hj, contents.after_take requests h]
  have hfailing : scope ∈ ((contents.after (requests.take i)).after ((requests.take j).drop i)).failing ↔
      .failScope scope ∈ (requests.take j).drop i := by
    rw [Contents.mem_failing_after, or_iff_left hscope]
  split
  case isTrue hfailed =>
    rw [Option.some_inj, deployment.reply_eq_scopeFails_iff, hfailing]
    exact hfailed
  case isFalse hfailed =>
    refine ⟨_, ?_, Contents.total_page_le_after _ ((requests.take j).drop i) scope q⟩
    rw [Option.some_inj, deployment.reply_eq_page_iff, hfailing]
    exact ⟨hfailed, hq, rfl⟩

/-- A scope that failed once fails in every later query. -/
theorem reply_of_failed (h : i ≤ j) (hi : requests[i]? = some (.queryAlarms scope q))
    (hj : requests[j]? = some (.queryAlarms scope later))
    (hfailed : (deployment.performAll contents.stores requests).value.1[i]? =
      some (.alarms (.error (.scopeFails scope)))) :
    (deployment.performAll contents.stores requests).value.1[j]? = some (.alarms (.error (.scopeFails scope))) := by
  rw [deployment.replies_performAll contents hi, Option.some_inj, deployment.reply_eq_scopeFails_iff] at hfailed
  rw [deployment.replies_performAll contents hj, contents.after_take requests h, Option.some_inj,
    deployment.reply_eq_scopeFails_iff, Contents.mem_failing_after]
  exact .inr hfailed

/-- A request that is no update leaves the stores of a session as they are. -/
theorem stores_take_succ_of_read {request : StoreRequest} (hi : requests[i]? = some request)
    (hread : request.isUpdate = false) :
    (deployment.performAll contents.stores (requests.take (i + 1))).value.2 =
      (deployment.performAll contents.stores (requests.take i)).value.2 := by
  have hnext : requests.take (i + 1) = requests.take i ++ [request] := by
    rw [List.take_add_one, hi]
    rfl
  rw [deployment.stores_performAll, deployment.stores_performAll, hnext, Contents.after_append,
    Contents.after_of_read hread]

end Deployment

/-- A session whose stores are filled with some contents answers each request from those contents and the updates
before it.

A search for an application finds the last one with the id, and the number of applications is that of their distinct
ids. Server instances are seen in the order in which they came. An alarm query fails exactly when its scope failed at
first or an update before it said so; otherwise it is refused exactly when one of its buckets is malformed, and else
gives a page of the alarms that it selects, in the order in which they came, with their number. So the number that a
repeated query is told never goes down until its scope is made to fail, and from then on every query of the scope
fails. A request that is no update leaves the stores as they are. -/
theorem Deployment.replies_of_history (deployment : Deployment) (contents : Contents)
    (requests : List StoreRequest) :
    let replies := (deployment.performAll contents.stores requests).value.1
    let storesAt (i : Nat) := (deployment.performAll contents.stores (requests.take i)).value.2
    let known (i : Nat) := contents.after (requests.take i)
    let fails (i : Nat) (scope : AlarmScope) := .failScope scope ∈ requests.take i ∨ scope ∈ contents.failing
    (∀ (i : Nat) (id : Int), requests[i]? = some (.findApplication id) →
      replies[i]? = some (.application ((known i).applications.filter fun held => held.id = id).getLast?) ∧
      ∀ application, replies[i]? = some (.application (some application)) → application.id = id) ∧
    (∀ i : Nat, requests[i]? = some .countApplications →
      replies[i]? = some (.count ((known i).applications.map (·.id)).toFinset.card)) ∧
    (∀ (i : Nat) (applicationId start finish : Int), requests[i]? = some (.findServers applicationId start finish) →
      replies[i]? = some (.servers ((known i).servers.filter fun server =>
        server.applicationId = applicationId ∧ server.registration ≤ finish ∧ start ≤ server.heartbeat))) ∧
    (∀ (i : Nat) (scope : AlarmScope) (q : AlarmQuery), requests[i]? = some (.queryAlarms scope q) →
      (replies[i]? = some (.alarms (.error (.scopeFails scope))) ↔ fails i scope) ∧
      ((∃ error, replies[i]? = some (.alarms (.error (.badBucket error)))) ↔ ¬fails i scope ∧ ¬q.WellFormed) ∧
      (¬fails i scope → q.WellFormed →
        let matched := (known i).alarms.filter (q.selects scope)
        replies[i]? = some (.alarms (.ok ⟨slice matched q.offset (q.offset + q.limit), matched.length⟩)))) ∧
    (∀ (i j : Nat) (scope : AlarmScope) (q : AlarmQuery) (page : AlarmPage), i ≤ j →
      requests[i]? = some (.queryAlarms scope q) → requests[j]? = some (.queryAlarms scope q) →
      replies[i]? = some (.alarms (.ok page)) →
        if .failScope scope ∈ (requests.take j).drop i then
          replies[j]? = some (.alarms (.error (.scopeFails scope)))
        else ∃ more, replies[j]? = some (.alarms (.ok more)) ∧ page.total ≤ more.total) ∧
    (∀ (i j : Nat) (scope : AlarmScope) (q later : AlarmQuery), i ≤ j →
      requests[i]? = some (.queryAlarms scope q) → requests[j]? = some (.queryAlarms scope later) →
      replies[i]? = some (.alarms (.error (.scopeFails scope))) →
        replies[j]? = some (.alarms (.error (.scopeFails scope)))) ∧
    ∀ (i : Nat) (request : StoreRequest), requests[i]? = some request → request.isUpdate = false →
      storesAt (i + 1) = storesAt i := by
  intro replies storesAt known fails
  have hreply {i : Nat} {request : StoreRequest} (h : requests[i]? = some request) :
      replies[i]? = some (deployment.perform (known i).stores request).value.1 :=
    deployment.replies_performAll contents h
  have hfails (i : Nat) (scope : AlarmScope) : scope ∈ (known i).failing ↔ fails i scope :=
    Contents.mem_failing_after
  refine ⟨fun i id hi => ⟨?_, fun application hfound => ?_⟩, fun i hi => ?_,
    fun i applicationId start finish hi => ?_, fun i scope q hi => ⟨?_, ?_, fun hscope hq => ?_⟩,
    fun i j scope q page hij hi hj hpage => deployment.reply_of_repeated hij hi hj hpage,
    fun i j scope q later hij hi hj hfailed => deployment.reply_of_failed hij hi hj hfailed,
    fun i request hi hread => deployment.stores_take_succ_of_read hi hread⟩
  · rw [hreply hi]
    exact congrArg (fun found => some (StoreReply.application found)) (Registry.find?_ofList _ id)
  · rw [hreply hi] at hfound
    exact Registry.find?_id _ (StoreReply.application.inj (Option.some_inj.mp hfound))
  · rw [hreply hi]
    exact congrArg (fun number => some (StoreReply.count number)) (Registry.size_ofList _)
  · rw [hreply hi]
    exact congrArg (fun alive => some (StoreReply.servers alive)) (Fleet.aliveIn_eq _ _ _ _)
  · rw [hreply hi, Option.some_inj, deployment.reply_eq_scopeFails_iff, hfails]
  · simp only [hreply hi, Option.some_inj, deployment.reply_eq_badBucket_iff, hfails]
  · rw [hreply hi, Option.some_inj, deployment.reply_eq_page_iff, hfails]
    exact ⟨hscope, hq, rfl⟩

/-- An application that is registered again replaces the one with its id. -/
example (deployment : Deployment) (catalog : Catalog) :
    let old : Application := ⟨2, "old", false, none⟩
    let new : Application := ⟨2, "new", false, none⟩
    (deployment.performAll (Contents.stores ⟨[], catalog, [], [], []⟩)
        [.register old, .register new, .countApplications, .findApplication 2]).value.1 =
      [.registered old, .registered new, .count 1, .application (some new)] := by
  rfl

end ServiceTopology
