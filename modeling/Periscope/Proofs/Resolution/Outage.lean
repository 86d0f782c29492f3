import Periscope.Discovery.Snapshot
import Periscope.Resolution.BestEffort

/-!
# Resolution while discovery fails

Resolution passes over some errors of discovery and goes on to its next way. An outage is none of them: where
answers of discovery are lost, a resolution gives what it gave before or tells of an outage, and it tells of
none that discovery has not told of.
-/

namespace Periscope

namespace Discovery

/-- One of the answers of discovery is an outage with this reason. -/
inductive Reports (d : Discovery) (reason : String) : Prop where
  | resourceFor {p} (h : d.resourceFor p = .error (.unavailable reason))
  | kindFor {type} (h : d.kindFor type = .error (.unavailable reason))
  | restMapping {k version} (h : d.restMapping k version = .error (.unavailable reason))
  | preferred (h : d.preferred = .error (.unavailable reason))

/-- Some answers of the first are outages in the second, and all others are the same. -/
structure Degrades (d d' : Discovery) : Prop where
  resourceFor : ∀ p, d'.resourceFor p = d.resourceFor p ∨
    ∃ reason, d'.resourceFor p = .error (.unavailable reason)
  kindFor : ∀ type, d'.kindFor type = d.kindFor type ∨ ∃ reason, d'.kindFor type = .error (.unavailable reason)
  restMapping : ∀ k version, d'.restMapping k version = d.restMapping k version ∨
    ∃ reason, d'.restMapping k version = .error (.unavailable reason)
  preferred : d'.preferred = d.preferred ∨ ∃ reason, d'.preferred = .error (.unavailable reason)

theorem Degrades.refl (d : Discovery) : Degrades d d :=
  ⟨fun _ => .inl rfl, fun _ => .inl rfl, fun _ _ => .inl rfl, .inl rfl⟩

/-! ## Results in an outage -/

section

variable {ε α β : Type} {d : Discovery} {outage : String → ε} {x y : Except ε α}

/-- The second result is the first or an outage, and discovery has reported it if it is one. -/
structure Surfaces (d : Discovery) (outage : String → ε) (x y : Except ε α) : Prop where
  same : y = x ∨ ∃ reason, y = .error (outage reason)
  reported : ∀ reason, y = .error (outage reason) → d.Reports reason

theorem Surfaces.of_eq (reported : ∀ reason, x = .error (outage reason) → d.Reports reason) :
    Surfaces d outage x x :=
  ⟨.inl rfl, reported⟩

theorem Surfaces.ok (a : α) : Surfaces d outage (.ok a) (.ok a) := .of_eq nofun

theorem Surfaces.bind {f g : α → Except ε β} (h : Surfaces d outage x y)
    (hfg : ∀ a, Surfaces d outage (f a) (g a)) : Surfaces d outage (x >>= f) (y >>= g) := by
  obtain ⟨rfl | ⟨reason, rfl⟩, reported⟩ := h
  · cases y with
    | ok a => exact hfg a
    | error e =>
      exact .of_eq fun reason lost => reported reason (congrArg Except.error (Except.error.inj lost))
  · refine ⟨.inr ⟨reason, rfl⟩, fun reason' lost => ?_⟩
    exact reported reason' (congrArg Except.error (Except.error.inj lost))

/-- Nothing but an outage of discovery becomes one of the resolution. -/
theorem Surfaces.mapError {x y : Except DiscoveryError α} (h : Surfaces d .unavailable x y) :
    Surfaces d ResolveError.discoveryUnavailable (x.mapError ResolveError.ofDiscovery)
      (y.mapError ResolveError.ofDiscovery) := by
  obtain ⟨rfl | ⟨reason, rfl⟩, reported⟩ := h
  · refine .of_eq fun reason lost => ?_
    cases y with
    | ok a => cases lost
    | error e =>
      cases e <;> cases lost
      exact reported reason rfl
  · exact ⟨.inr ⟨reason, rfl⟩, fun reason' lost => by cases lost; exact reported reason rfl⟩

theorem Surfaces.cases (h : Surfaces d outage x y) :
    y = x ∨ ∃ reason, d.Reports reason ∧ y = .error (outage reason) :=
  h.same.imp_right fun ⟨reason, lost⟩ => ⟨reason, h.reported reason lost, lost⟩

end

end Discovery

/-! ## The ways of a resolution -/

namespace Discovery.Degrades

variable {d d' : Discovery}

theorem lookupByResource (h : Degrades d d') (p : PartialResource) :
    Surfaces d' .unavailable (d.lookupByResource p) (d'.lookupByResource p) := by
  unfold Discovery.lookupByResource
  refine Surfaces.bind ⟨h.resourceFor p, fun _ => .resourceFor⟩ fun type => ?_
  refine Surfaces.bind ⟨h.kindFor type, fun _ => .kindFor⟩ fun kind => ?_
  exact Surfaces.bind ⟨h.restMapping _ _, fun _ => .restMapping⟩ fun mapping => .ok mapping.resolved

theorem exists_lookupByKind_eq {id : Identifier} {kind : String} (h : id.kind? = some kind)
    (gv : Option GroupVersion) :
    ∃ k version, ∀ d : Discovery, d.lookupByKind id gv =
      ((d.restMapping k version).mapError ResolveError.ofDiscovery >>= fun m => .ok m.resolved) := by
  refine ⟨⟨(gv.map GroupVersion.group).getD (id.normalized.group?.getD ""), kind⟩, gv.map GroupVersion.version,
    fun d => ?_⟩
  cases gv <;>
    simp only [Discovery.lookupByKind, h, Option.map_none, Option.map_some, Option.getD_none, Option.getD_some] <;>
    generalize d.restMapping _ _ = found <;>
    cases found <;> rfl

theorem lookupByKind (h : Degrades d d') (id : Identifier) (gv : Option GroupVersion) :
    Surfaces d' .discoveryUnavailable (d.lookupByKind id gv) (d'.lookupByKind id gv) := by
  cases hkind : id.kind? with
  | none =>
    simp only [Discovery.lookupByKind, hkind]
    exact .of_eq fun _ lost => by cases lost
  | some kind =>
    obtain ⟨k, version, heq⟩ := exists_lookupByKind_eq hkind gv
    rw [heq, heq]
    exact (Surfaces.mapError ⟨h.restMapping _ _, fun _ => .restMapping⟩).bind fun m => .ok m.resolved

theorem explicitVersion_ne_unavailable (id : Identifier) (reason : String) :
    id.explicitVersion ≠ .error (.discoveryUnavailable reason) := by
  intro lost
  unfold Identifier.explicitVersion at lost
  split at lost
  · cases lost
  · split at lost <;> cases lost

theorem resolveExact (h : Degrades d d') (id : Identifier) :
    Surfaces d' .discoveryUnavailable (d.resolveExact id) (d'.resolveExact id) := by
  unfold Discovery.resolveExact
  refine Surfaces.bind (.of_eq fun reason lost => ?_) fun gv => ?_
  · exact absurd lost (explicitVersion_ne_unavailable id reason)
  cases id.resource? with
  | none => exact h.lookupByKind id gv
  | some resource =>
    have missed (e : DiscoveryError) (he : ∀ reason, e ≠ .unavailable reason) :
        Surfaces d' .discoveryUnavailable
          (if id.kind?.isNone then .error (.ofDiscovery e) else d.lookupByKind id gv)
          (if id.kind?.isNone then .error (.ofDiscovery e) else d'.lookupByKind id gv) := by
      split
      · refine .of_eq fun reason lost => ?_
        cases e <;> cases lost
        exact absurd rfl (he reason)
      · exact h.lookupByKind id gv
    obtain ⟨same | ⟨reason, lost⟩, reported⟩ := h.lookupByResource (id.lookup gv resource)
    · simp only [← same]
      cases found : d'.lookupByResource (id.lookup gv resource) with
      | ok resolved => exact .ok resolved
      | error e =>
        cases e with
        | unavailable reason => exact .of_eq fun _ h => by cases h; exact reported reason found
        | notFound what => exact missed _ nofun
        | ambiguous query candidates => exact missed _ nofun
    · simp only [lost]
      exact ⟨.inr ⟨reason, rfl⟩, fun _ h => by cases h; exact reported reason lost⟩

theorem scan_eq (id : Identifier) :
    d.scan id =
      if id.kind?.isNone && id.resource?.isNone then
        .error (.invalidInput "at least one of kind or resource must be specified")
      else d.preferred.mapError ResolveError.ofDiscovery >>= fun p => id.choose (id.candidates p.lists) := by
  unfold Discovery.scan
  cases d.preferred <;> rfl

theorem scan (h : Degrades d d') (id : Identifier) :
    Surfaces d' .discoveryUnavailable (d.scan id) (d'.scan id) := by
  rw [scan_eq, scan_eq]
  split
  · exact .of_eq fun _ lost => by cases lost
  · refine (Surfaces.mapError ⟨h.preferred, fun _ => .preferred⟩).bind fun p => .of_eq fun reason lost => ?_
    unfold Identifier.choose at lost
    split at lost <;> cases lost

theorem resolveBestEffort (h : Degrades d d') (id : Identifier) :
    Surfaces d' .discoveryUnavailable (d.resolveBestEffort id) (d'.resolveBestEffort id) := by
  unfold Discovery.resolveBestEffort
  generalize id.normalized = id
  dsimp only
  split
  · obtain ⟨same | ⟨reason, lost⟩, reported⟩ := h.resolveExact id
    · simp only [← same]
      cases found : d'.resolveExact id with
      | ok resolved => exact .ok resolved
      | error e =>
        dsimp only
        split
        · exact .of_eq fun reason lost => reported reason (by cases lost; exact found)
        · exact h.scan id
    · -- an outage of the exact look-ups is final, so nothing is scanned
      simp only [lost, Identifier.isFinal, ↓reduceIte]
      exact ⟨.inr ⟨reason, rfl⟩, fun _ h => by cases h; exact reported reason lost⟩
  · exact h.scan id

end Discovery.Degrades

/-- A snapshot answers every look-up, so it reports no outage. -/
theorem Snapshot.not_reports (s : Snapshot) (reason : String) : ¬ s.discovery.Reports reason := by
  rintro (h | h | h | h)
  · simp only [discovery, resourceFor] at h
    split at h <;> cases h
  · simp only [discovery, kindFor] at h
    split at h <;> cases h
  · simp only [discovery, restMapping] at h
    split at h <;> cases h
  · cases h

/-- Where some answers of discovery are replaced by outages, an exact or a best-effort resolution has the result
it had before, or fails with an outage that discovery has reported. A discovery without outages leads to no error
that is worth a retry. -/
theorem outage_stays_outage {d d' : Discovery} (h : d.Degrades d') (id : Identifier) :
    (d'.resolveExact id = d.resolveExact id ∨
        ∃ reason, d'.Reports reason ∧ d'.resolveExact id = .error (.discoveryUnavailable reason)) ∧
      (d'.resolveBestEffort id = d.resolveBestEffort id ∨
        ∃ reason, d'.Reports reason ∧ d'.resolveBestEffort id = .error (.discoveryUnavailable reason)) ∧
      ((∀ reason, ¬ d.Reports reason) →
        ∀ e, d.resolveExact id = .error e ∨ d.resolveBestEffort id = .error e →
          (∀ reason, e ≠ .discoveryUnavailable reason) ∧ e.isRetriable = false) := by
  refine ⟨(h.resolveExact id).cases, (h.resolveBestEffort id).cases, fun intact e failed => ?_⟩
  -- a discovery is a degraded one of itself
  have self := Discovery.Degrades.refl d
  have other (reason : String) : e ≠ .discoveryUnavailable reason := by
    rintro rfl
    rcases failed with failed | failed
    · exact intact reason ((self.resolveExact id).reported reason failed)
    · exact intact reason ((self.resolveBestEffort id).reported reason failed)
  refine ⟨other, ?_⟩
  cases e with
  | discoveryUnavailable reason => exact absurd rfl (other reason)
  | _ => rfl

/-- Widgets, and the kind of their objects. -/
def widgetLists : Snapshot :=
  ⟨[⟨"example.io/v1", [⟨"widgets", "widget", true, "Widget", [], []⟩]⟩], []⟩

/-- The widgets while no kind can be looked up. -/
def widgetsWithoutKinds : Discovery :=
  { widgetLists.discovery with kindFor := fun _ => .error (.unavailable "timeout") }

theorem outage_stays_outage_widgets :
    widgetLists.discovery.Degrades widgetsWithoutKinds ∧
      widgetLists.discovery.resolveExact ⟨none, some "Widget", some "widgets", some "example.io"⟩ =
        .ok ⟨⟨"example.io", "v1", "widgets"⟩, true⟩ ∧
      (∃ reason, widgetsWithoutKinds.Reports reason ∧
        widgetsWithoutKinds.resolveExact ⟨none, some "Widget", some "widgets", some "example.io"⟩ =
          .error (.discoveryUnavailable reason)) ∧
      (∀ reason, ¬ widgetLists.discovery.Reports reason) ∧
      ∃ e, widgetLists.discovery.resolveExact ⟨none, none, some "gadgets", none⟩ = .error e ∧
        e.isRetriable = false := by
  have degrades : widgetLists.discovery.Degrades widgetsWithoutKinds :=
    ⟨fun _ => .inl rfl, fun _ => .inr ⟨"timeout", rfl⟩, fun _ _ => .inl rfl, .inl rfl⟩
  have found : widgetLists.discovery.resolveExact ⟨none, some "Widget", some "widgets", some "example.io"⟩ =
      .ok ⟨⟨"example.io", "v1", "widgets"⟩, true⟩ := by rfl
  have lost := (outage_stays_outage degrades ⟨none, some "Widget", some "widgets", some "example.io"⟩).1
  have intact := widgetLists.not_reports
  have kept := (outage_stays_outage degrades ⟨none, none, some "gadgets", none⟩).2.2 intact
  have missed : ∃ e, widgetLists.discovery.resolveExact ⟨none, none, some "gadgets", none⟩ = .error e :=
    ⟨_, rfl⟩
  obtain ⟨e, missed⟩ := missed
  refine ⟨degrades, found, lost.resolve_left fun same => ?_, intact, e, missed, (kept e (.inl missed)).2⟩
  cases found.symm.trans same.symm

end Periscope
