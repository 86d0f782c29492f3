import Periscope.Inspection.Inspector

/-!
# The queries of an inspector

A request for objects is refused before anything is asked of the source, or it sends one query. Both requests
take the same steps with checks, a query and an answer of their own, and a query is sent behind all checks.
-/

namespace Periscope

/-- What a computation gives in a session, and the session that it leaves behind. -/
def Inspection.outcome {α : Type} (x : Inspection α) (session : Session) : Except InspectError α × Session :=
  (ExceptT.run x).run session

namespace Inspector

open Inspection

/-- A text that is one segment of a path and no step in it. -/
def SingleSegment (s : String) : Prop := s ≠ "" ∧ s ≠ "." ∧ s ≠ ".." ∧ '/' ∉ s.toList

/-- A request for the objects of a type. -/
inductive Request where
  | list (ns selector : Option String)
  | get (name : String) (ns : Option String)

namespace Request

/-- The namespace of a request, which may be empty. -/
def ns : Request → Option String
  | .list ns _ | .get _ ns => ns

/-- Carries out a request. -/
def perform (i : Inspector) (id : Identifier) : Request → Inspection Json
  | .list ns selector => i.list id ns selector
  | .get name ns => i.get id name ns

/-! ## Refusals -/

/-- The error about a name that is not a single segment: that of the object comes before that of the namespace. -/
inductive Misnamed : Request → InspectError → Prop where
  | name {name ns} (bad : ¬ SingleSegment name) : Misnamed (.get name ns) (.invalidName .objectName name)
  | ns {request ns} (named : ∀ name ns, request = .get name ns → SingleSegment name)
      (given : request.ns = some ns) (nonempty : ns ≠ "") (bad : ¬ SingleSegment ns) :
      Misnamed request (.invalidName .namespaceName ns)

/-- The error by which a request is refused, given what its identifier denotes. -/
inductive Refused (denoted : Except InspectError ResolvedResource) (request : Request) : InspectError → Prop where
  | misnamed {e} (h : request.Misnamed e) : Refused denoted request e
  | unresolved {e} (named : ∀ e, ¬ request.Misnamed e) (h : denoted = .error e) : Refused denoted request e
  | clusterScoped {resource ns} (named : ∀ e, ¬ request.Misnamed e) (h : denoted = .ok resource)
      (wide : resource.namespaced = false) (given : request.ns = some ns) (nonempty : ns ≠ "") :
      Refused denoted request (.clusterScoped resource.type)
  | namespaceRequired {resource name ns} (named : ∀ e, ¬ request.Misnamed e) (h : denoted = .ok resource)
      (namespaced : resource.namespaced = true) (own : request = .get name ns) (missing : ∀ s ∈ ns, s = "") :
      Refused denoted request (.namespaceRequired resource.type name)

/-- The query asks for what the request says, and keeps to the scope of the type. -/
structure Asks (request : Request) (resource : ResolvedResource) (q : ResourceQuery) : Prop where
  type : q.resource = resource
  name : ∀ s, q.name? = some s ↔ ∃ ns, request = .get s ns
  ns : ∀ s, q.ns? = some s ↔ request.ns = some s ∧ s ≠ ""
  selector : ∀ s, q.selector? = some s ↔ (∃ ns, request = .list ns (some s)) ∧ s ≠ ""
  clusterScoped : resource.namespaced = false → q.ns? = none
  namespaced : resource.namespaced = true → q.name? ≠ none → q.ns? ≠ none
  segments : ∀ s, q.name? = some s ∨ q.ns? = some s → SingleSegment s

/-! ## Steps -/

/-- Checks the names in a request. -/
def checkNames : Request → Except InspectError Unit
  | .list ns _ => checkNamespace ns
  | .get name ns => do
    checkName .objectName name
    checkNamespace ns

/-- Checks that a request fits the scope of a type. -/
def checkScope (resource : ResolvedResource) : Request → Except InspectError Unit
  | .list ns _ => Inspector.checkScope resource ns
  | .get name ns => do
    Inspector.checkScope resource ns
    checkNamespaced resource name ns

/-- The query for the objects of a type. -/
def query (resource : ResolvedResource) : Request → ResourceQuery
  | .list ns selector => ((ResourceQuery.all resource).inNamespace ns).selecting selector
  | .get name ns => ((ResourceQuery.all resource).inNamespace ns).named name

/-- What is shown of a response. -/
def answer (i : Inspector) (resource : ResolvedResource) (response : Json) : Request → Json
  | .list .. => i.present resource (itemsOf response)
  | .get .. => i.present resource (.arr [response])

end Request

/-- The type that an identifier denotes for the current snapshot of a cache. -/
def denoted (fetcher : Cache.Fetcher) (cache : Cache.State) (id : Identifier) :
    Except InspectError ResolvedResource :=
  match (cache.current fetcher).2 with
  | .error e => .error (.discovery e)
  | .ok p => (p.snapshot.discovery.resolveBestEffort id).mapError .resolve

/-- The session once the cache has been asked for its snapshot. -/
def asked (i : Inspector) (session : Session) : Session :=
  { session with cache := (session.cache.current i.fetcher).1 }

section

variable {i : Inspector} {id : Identifier} {request : Request} {session : Session} {resource : ResolvedResource}
  {e : InspectError}

theorem isSegment_iff {s : String} : isSegment s ↔ SingleSegment s := by
  simp [isSegment, SingleSegment, and_assoc]

/-! ## Outcomes -/

section

variable {α β : Type} {x : Inspection α} {a : α} {after : Session}

theorem outcome_bind_ok (h : x.outcome session = (.ok a, after)) (f : α → Inspection β) :
    (x >>= f).outcome session = (f a).outcome after := by
  have run : (x >>= f).outcome session = ExceptT.bindCont f (x.outcome session).1 (x.outcome session).2 := rfl
  rw [run, h]
  rfl

theorem outcome_bind_error (h : x.outcome session = (.error e, after)) (f : α → Inspection β) :
    (x >>= f).outcome session = (.error e, after) := by
  have run : (x >>= f).outcome session = ExceptT.bindCont f (x.outcome session).1 (x.outcome session).2 := rfl
  rw [run, h]
  rfl

@[simp] theorem outcome_ofExcept (x : Except InspectError α) : outcome (ofExcept x) session = (x, session) := by
  cases x <;> rfl

theorem ofExcept_bind (x : Except InspectError α) (f : α → Except InspectError β) :
    (ofExcept (x >>= f) : Inspection β) = ofExcept x >>= fun a => ofExcept (f a) := by
  cases x <;> rfl

theorem outcome_send (q : ResourceQuery) :
    (i.send q).outcome session = (i.source q, { session with sent := session.sent ++ [q] }) :=
  outcome_ofExcept (i.source q)

theorem outcome_snapshot :
    i.snapshot.outcome session =
      (((session.cache.current i.fetcher).2.mapError .discovery).map fun p => p.snapshot,
        i.asked session) := by
  have read : (MonadState.get : Inspection Session).outcome session = (.ok session, session) := rfl
  refine (outcome_bind_ok read _).trans ?_
  unfold asked
  obtain ⟨cache, result⟩ := session.cache.current i.fetcher
  cases result <;> rfl

theorem outcome_resolve :
    (i.resolve id false).outcome session =
      (denoted i.fetcher session.cache id, i.asked session) := by
  unfold denoted
  cases found : (session.cache.current i.fetcher).2 with
  | error e =>
    have lost : i.snapshot.outcome session = (.error (.discovery e), i.asked session) := by
      rw [outcome_snapshot, found]; rfl
    exact outcome_bind_error lost _
  | ok p =>
    have given : i.snapshot.outcome session = (.ok p.snapshot, i.asked session) := by
      rw [outcome_snapshot, found]; rfl
    refine (outcome_bind_ok given _).trans ?_
    simp only [Bool.false_eq_true, ↓reduceIte]
    cases p.snapshot.discovery.resolveBestEffort id <;> rfl

theorem perform_eq :
    request.perform i id = do
      ofExcept request.checkNames
      let resource ← i.resolve id false
      ofExcept (request.checkScope resource)
      let response ← i.send (request.query resource)
      return request.answer i resource response := by
  cases request with
  | list => rfl
  | get name ns =>
    simp only [Request.perform, Inspector.get, Request.checkNames, Request.checkScope, ofExcept_bind, bind_assoc]
    rfl

end

/-! ## Checks -/

theorem ite_error_eq_error_iff {c : Prop} [Decidable c] {refusal : InspectError} :
    (if c then .error refusal else .ok () : Except InspectError Unit) = .error e ↔ c ∧ e = refusal := by
  split
  · next hc => exact ⟨fun h => ⟨hc, (Except.error.inj h).symm⟩, fun h => congrArg Except.error h.2.symm⟩
  · next hc => exact ⟨nofun, fun h => absurd h.1 hc⟩

theorem bind_eq_error_iff {x : Except InspectError Unit} {f : Unit → Except InspectError Unit} :
    (x >>= f) = .error e ↔ x = .error e ∨ x = .ok () ∧ f () = .error e := by
  cases x <;> simp [bind, Except.bind]

theorem checkName_eq_error_iff {role : NameRole} {s : String} :
    checkName role s = .error e ↔ ¬ SingleSegment s ∧ e = .invalidName role s := by
  rw [← isSegment_iff, ← ite_error_eq_error_iff, checkName, ite_not]

theorem checkNamespace_eq_error_iff {ns : Option String} :
    checkNamespace ns = .error e ↔
      ∃ s, ns = some s ∧ s ≠ "" ∧ ¬ SingleSegment s ∧ e = .invalidName .namespaceName s := by
  cases ns with
  | none => simp [checkNamespace]
  | some s =>
    by_cases h : s = ""
    · simp [checkNamespace, h, Option.filter_some]
    · simp [checkNamespace, h, Option.filter_some, checkName_eq_error_iff]

theorem checkScope_eq_error_iff {ns : Option String} :
    checkScope resource ns = .error e ↔
      (∃ s, ns = some s ∧ s ≠ "") ∧ resource.namespaced = false ∧ e = .clusterScoped resource.type := by
  rw [checkScope, ite_error_eq_error_iff]
  cases ns <;> simp [and_assoc]

theorem checkNamespaced_eq_error_iff {name : String} {ns : Option String} :
    checkNamespaced resource name ns = .error e ↔
      resource.namespaced = true ∧ (∀ s ∈ ns, s = "") ∧ e = .namespaceRequired resource.type name := by
  rw [checkNamespaced, ite_error_eq_error_iff]
  cases ns <;> simp [and_assoc]

theorem checkName_eq_ok_iff {role : NameRole} {s : String} : checkName role s = .ok () ↔ SingleSegment s := by
  rw [← isSegment_iff, checkName]
  split <;> simp [*]

theorem checkNames_eq_error_iff : request.checkNames = .error e ↔ request.Misnamed e := by
  constructor
  · cases request with
    | list ns selector =>
      intro h
      obtain ⟨s, given, nonempty, bad, rfl⟩ := checkNamespace_eq_error_iff.1 h
      exact .ns nofun given nonempty bad
    | get name ns =>
      intro h
      rcases bind_eq_error_iff.1 h with h | ⟨good, h⟩
      · obtain ⟨bad, rfl⟩ := checkName_eq_error_iff.1 h
        exact .name bad
      · obtain ⟨s, given, nonempty, bad, rfl⟩ := checkNamespace_eq_error_iff.1 h
        refine .ns (fun name ns own => ?_) given nonempty bad
        cases own
        exact checkName_eq_ok_iff.1 good
  · rintro (bad | ⟨named, given, nonempty, bad⟩)
    · exact bind_eq_error_iff.2 (.inl (checkName_eq_error_iff.2 ⟨bad, rfl⟩))
    · have h := checkNamespace_eq_error_iff.2 ⟨_, given, nonempty, bad, rfl⟩
      cases request with
      | list => exact h
      | get name ns => exact bind_eq_error_iff.2 (.inr ⟨checkName_eq_ok_iff.2 (named name ns rfl), h⟩)

theorem checkNames_eq_ok_iff : request.checkNames = .ok () ↔ ∀ e, ¬ request.Misnamed e := by
  simp only [← checkNames_eq_error_iff]
  cases request.checkNames <;> simp

theorem refused_iff {found : Except InspectError ResolvedResource} :
    request.Refused found e ↔
      request.checkNames = .error e ∨ request.checkNames = .ok () ∧
        (found = .error e ∨ ∃ resource, found = .ok resource ∧ request.checkScope resource = .error e) := by
  rw [checkNames_eq_error_iff, checkNames_eq_ok_iff]
  constructor
  · rintro (h | ⟨named, h⟩ | ⟨named, h, wide, given, nonempty⟩ | ⟨named, h, namespaced, rfl, missing⟩)
    · exact .inl h
    · exact .inr ⟨named, .inl h⟩
    · refine .inr ⟨named, .inr ⟨_, h, ?_⟩⟩
      have refusal := checkScope_eq_error_iff.2 ⟨⟨_, given, nonempty⟩, wide, rfl⟩
      cases request with
      | list => exact refusal
      | get => exact bind_eq_error_iff.2 (.inl refusal)
    · refine .inr ⟨named, .inr ⟨_, h, bind_eq_error_iff.2 (.inr ⟨?_, ?_⟩)⟩⟩
      · simp [checkScope, namespaced]
      · exact checkNamespaced_eq_error_iff.2 ⟨namespaced, missing, rfl⟩
  · rintro (h | ⟨named, h | ⟨resource, h, scope⟩⟩)
    · exact .misnamed h
    · exact .unresolved named h
    · cases request with
      | list ns selector =>
        obtain ⟨⟨s, given, nonempty⟩, wide, rfl⟩ := checkScope_eq_error_iff.1 scope
        exact .clusterScoped named h wide given nonempty
      | get name ns =>
        rcases bind_eq_error_iff.1 scope with scope | ⟨-, scope⟩
        · obtain ⟨⟨s, given, nonempty⟩, wide, rfl⟩ := checkScope_eq_error_iff.1 scope
          exact .clusterScoped named h wide given nonempty
        · obtain ⟨namespaced, missing, rfl⟩ := checkNamespaced_eq_error_iff.1 scope
          exact .namespaceRequired named h namespaced rfl missing

/-! ## Queries -/

theorem filter_isEmpty_eq_some_iff {text : Option String} {s : String} :
    (text.filter fun s => !s.isEmpty) = some s ↔ text = some s ∧ s ≠ "" := by
  simp [Option.filter_eq_some_iff]

theorem query_ns? {s : String} : (request.query resource).ns? = some s ↔ request.ns = some s ∧ s ≠ "" := by
  cases request <;> exact filter_isEmpty_eq_some_iff

theorem query_name? {s : String} : (request.query resource).name? = some s ↔ ∃ ns, request = .get s ns := by
  cases request <;> simp [Request.query, ResourceQuery.all, ResourceQuery.inNamespace, ResourceQuery.selecting,
    ResourceQuery.named, eq_comm]

theorem query_selector? {s : String} :
    (request.query resource).selector? = some s ↔ (∃ ns, request = .list ns (some s)) ∧ s ≠ "" := by
  cases request with
  | list ns selector => exact filter_isEmpty_eq_some_iff.trans (by simp)
  | get => simp [Request.query, ResourceQuery.all, ResourceQuery.inNamespace, ResourceQuery.named]

/-- The names in a request that is not misnamed. -/
theorem singleSegment_of_query {s : String} (named : ∀ e, ¬ request.Misnamed e)
    (h : (request.query resource).name? = some s ∨ (request.query resource).ns? = some s) : SingleSegment s := by
  have own (name : String) (ns : Option String) (get : request = .get name ns) : SingleSegment name :=
    Classical.byContradiction fun bad => named _ (get ▸ Request.Misnamed.name bad)
  rcases h with h | h
  · obtain ⟨ns, get⟩ := query_name?.1 h
    exact own s ns get
  · obtain ⟨given, nonempty⟩ := query_ns?.1 h
    exact Classical.byContradiction fun bad => named _ (.ns own given nonempty bad)

/-- The query of a request that is not refused. -/
theorem asks_query {found : Except InspectError ResolvedResource} (h : found = .ok resource)
    (free : ∀ e, ¬ request.Refused found e) : request.Asks resource (request.query resource) := by
  have named (e : InspectError) : ¬ request.Misnamed e := fun bad => free e (.misnamed bad)
  refine ⟨by cases request <;> rfl, fun _ => query_name?, fun _ => query_ns?, fun _ => query_selector?, ?_, ?_,
    fun _ => singleSegment_of_query named⟩
  · intro wide
    rw [Option.eq_none_iff_forall_ne_some]
    intro s hs
    obtain ⟨given, nonempty⟩ := query_ns?.1 hs
    exact free _ (.clusterScoped named h wide given nonempty)
  · intro namespaced own missing
    obtain ⟨name, hname⟩ := Option.ne_none_iff_exists'.1 own
    obtain ⟨ns, rfl⟩ := query_name?.1 hname
    refine free _ (.namespaceRequired named h namespaced rfl fun s given => ?_)
    refine Classical.byContradiction fun nonempty => ?_
    have kept : (Request.query resource (.get name ns)).ns? = some s := query_ns?.2 ⟨given, nonempty⟩
    cases missing.symm.trans kept

/-! ## Requests -/

theorem outcome_of_checkNames (h : request.checkNames = .error e) :
    (request.perform i id).outcome session = (.error e, session) := by
  rw [perform_eq]
  exact outcome_bind_error (by rw [outcome_ofExcept, h]) _

theorem outcome_of_unresolved (names : request.checkNames = .ok ())
    (found : denoted i.fetcher session.cache id = .error e) :
    (request.perform i id).outcome session = (.error e, i.asked session) := by
  rw [perform_eq]
  refine (outcome_bind_ok (by rw [outcome_ofExcept, names]) _).trans ?_
  exact outcome_bind_error (by rw [outcome_resolve, found]) _

/-- A request goes on with the type that its identifier denotes. -/
theorem outcome_of_denoted (names : request.checkNames = .ok ())
    (found : denoted i.fetcher session.cache id = .ok resource) :
    (request.perform i id).outcome session = outcome (do
      ofExcept (request.checkScope resource)
      let response ← i.send (request.query resource)
      return request.answer i resource response) (i.asked session) := by
  rw [perform_eq]
  refine (outcome_bind_ok (by rw [outcome_ofExcept, names]) _).trans ?_
  exact outcome_bind_ok (by rw [outcome_resolve, found]) _

theorem outcome_of_refused (h : request.Refused (denoted i.fetcher session.cache id) e) :
    ((request.perform i id).outcome session).1 = .error e ∧
      ((request.perform i id).outcome session).2.sent = session.sent := by
  rcases refused_iff.1 h with names | ⟨names, found | ⟨resource, found, scope⟩⟩
  · rw [outcome_of_checkNames names]
    exact ⟨rfl, rfl⟩
  · rw [outcome_of_unresolved names found]
    exact ⟨rfl, rfl⟩
  · rw [outcome_of_denoted names found, outcome_bind_error (by rw [outcome_ofExcept, scope])]
    exact ⟨rfl, rfl⟩

theorem sent_of_not_refused (free : ∀ e, ¬ request.Refused (denoted i.fetcher session.cache id) e) :
    ∃ resource, denoted i.fetcher session.cache id = .ok resource ∧
      ((request.perform i id).outcome session).2.sent = session.sent ++ [request.query resource] := by
  have names : request.checkNames = .ok () := checkNames_eq_ok_iff.2 fun e bad => free e (.misnamed bad)
  cases found : denoted i.fetcher session.cache id with
  | error e => exact absurd (refused_iff.2 (.inr ⟨names, .inl found⟩)) (free e)
  | ok resource =>
    cases scope : request.checkScope resource with
    | error e => exact absurd (refused_iff.2 (.inr ⟨names, .inr ⟨resource, found, scope⟩⟩)) (free e)
    | ok =>
      refine ⟨resource, rfl, ?_⟩
      rw [outcome_of_denoted names found, outcome_bind_ok (by rw [outcome_ofExcept, scope])]
      -- the query has been sent when the source answers it, whatever it answers
      cases answered : i.source (request.query resource) with
      | error e =>
        rw [outcome_bind_error (by rw [outcome_send, answered])]
        rfl
      | ok response =>
        rw [outcome_bind_ok (by rw [outcome_send, answered])]
        rfl

/-- A request for objects is refused or sends one query, whatever the source answers to it. It is refused exactly for
a name or a namespace that is no single segment, for a failure of discovery or of resolution, for a namespace where
the type has none, and for the lack of one where an object needs it. A refused request sends nothing, and one with a
bad name leaves discovery alone. The query is for the type that the identifier denotes, it keeps to the scope of that
type, and its names are single segments. -/
theorem one_query_unless_refused (i : Inspector) (id : Identifier) (request : Request) (session : Session) :
    (∃ e, request.Refused (denoted i.fetcher session.cache id) e ∧
        ((request.perform i id).outcome session).1 = .error e ∧
        ((request.perform i id).outcome session).2.sent = session.sent ∧
        (request.Misnamed e → ((request.perform i id).outcome session).2 = session)) ∨
      (∀ e, ¬ request.Refused (denoted i.fetcher session.cache id) e) ∧
        ∃ resource q, denoted i.fetcher session.cache id = .ok resource ∧ request.Asks resource q ∧
          ((request.perform i id).outcome session).2.sent = session.sent ++ [q] := by
  rcases Classical.em (∃ e, request.Refused (denoted i.fetcher session.cache id) e) with ⟨e, refused⟩ | free
  · obtain ⟨failed, silent⟩ := outcome_of_refused refused
    refine .inl ⟨e, refused, failed, silent, fun bad => ?_⟩
    rw [outcome_of_checkNames (checkNames_eq_error_iff.2 bad)]
  · have free (e : InspectError) : ¬ request.Refused (denoted i.fetcher session.cache id) e :=
      fun refused => free ⟨e, refused⟩
    obtain ⟨resource, found, sent⟩ := sent_of_not_refused free
    exact .inr ⟨free, resource, _, found, asks_query found free, sent⟩

end

end Inspector

end Periscope
