import Periscope.Proofs.Resolution.Consistency

/-!
# Compound words

A resource word may carry its group behind a dot. Best effort makes no difference between such a compound and the word
with the group beside it, and neither does an exact resolution where no version is given. With a version best effort is
an exact resolution, which never looks at the preferred versions. Main result: `compound_resolves_apart`.
-/

namespace Periscope

open Text

variable {d : Discovery} {id id' : Identifier} {word group : String}

namespace Identifier

/-- The identifier with a word and a group in one text. -/
def compound (id : Identifier) (word group : String) : Identifier :=
  { id with resource := some (word ++ "." ++ group) }

/-- The identifier with a word and a group beside it. -/
def apart (id : Identifier) (word group : String) : Identifier :=
  { id with resource := some word, group := some group }

theorem compound_resource? (id : Identifier) (word group : String) :
    (id.compound word group).resource? = some (word ++ "." ++ group) := by
  simp [resource?, nonEmpty, compound, Option.filter]

theorem normalized_compound (hgroup : id.group? = none) (hword : '.' ∉ word.toList) :
    (id.compound word group).normalized = id.apart word group := by
  have hnone : (id.compound word group).group? = none := hgroup
  have hsplit : splitFirst? '.' (word ++ "." ++ group).toList = some (word.toList, group.toList) :=
    splitFirst?_eq_some.2 ⟨by simp, hword⟩
  simp only [normalized, hnone, compound_resource?, Option.bind_some, hsplit, String.ofList_toList]
  rfl

/-- There is nothing left to split. -/
theorem normalized_apart (hword : '.' ∉ word.toList) : (id.apart word group).normalized = id.apart word group := by
  refine normalized_of_no_dot fun w hw => ?_
  obtain rfl : word = w := Option.some.inj (resource_of_resource? hw)
  exact hword

theorem apart_resource? (hne : word ≠ "") : (id.apart word group).resource? = some word := by
  simp [resource?, nonEmpty, apart, Option.filter, hne]

/-- Without a version, exact resolution and best effort look for the same word. -/
theorem exactWord?_compound (hgroup : id.group? = none) (hword : '.' ∉ word.toList) (hne : word ≠ "")
    (hversion : id.apiVersion? = none) :
    (id.compound word group).exactWord? = (id.compound word group).bestEffortWord? := by
  have hnone : (id.compound word group).apiVersion? = none := hversion
  have hsplit : (id.compound word group).normalized.resource? = some word := by
    rw [normalized_compound hgroup hword, apart_resource? hne]
  simp [exactWord?, bestEffortWord?, compound_resource?, hnone, hsplit]

end Identifier

namespace Discovery

/-- Best effort looks at the split identifier alone. -/
theorem resolveBestEffort_congr (h : id.normalized = id'.normalized) :
    d.resolveBestEffort id = d.resolveBestEffort id' := by
  rw [resolveBestEffort, resolveBestEffort, h]

theorem isFinal_of_version (h : id.apiVersion?.isSome) (e : ResolveError) : id.isFinal e := by
  cases e <;> first | rfl | exact h

/-- With a version best effort is an exact resolution. -/
theorem resolveBestEffort_of_version (h : id.apiVersion?.isSome) :
    d.resolveBestEffort id = d.resolveExact id.normalized := by
  have hversion : id.normalized.apiVersion?.isSome := by simpa using h
  simp only [resolveBestEffort, hversion, Bool.true_or, ↓reduceIte, isFinal_of_version hversion]
  cases d.resolveExact id.normalized <;> rfl

theorem resolveBestEffort_compound (hgroup : id.group? = none) (hword : '.' ∉ word.toList) :
    d.resolveBestEffort (id.compound word group) = d.resolveBestEffort (id.apart word group) :=
  resolveBestEffort_congr ((id.normalized_compound hgroup hword).trans (id.normalized_apart hword).symm)

theorem resolveExact_compound (hgroup : id.group? = none) (hword : '.' ∉ word.toList) (hne : word ≠ "")
    (hversion : id.apiVersion? = none) :
    d.resolveExact (id.compound word group) = d.resolveExact (id.apart word group) := by
  rw [← resolveExact_normalized (Identifier.exactWord?_compound hgroup hword hne hversion),
    Identifier.normalized_compound hgroup hword]

end Discovery

/-- A compound of a word without a dot and a group resolves as the word and the group apart: with best effort always,
and exactly where no version is given. Splitting once is splitting for good. With a version best effort is the exact
resolution of the split identifier, whatever the preferred versions are. -/
theorem compound_resolves_apart (d : Discovery) :
    (∀ (id : Identifier) (word group : String), id.group? = none → '.' ∉ word.toList →
      d.resolveBestEffort (id.compound word group) = d.resolveBestEffort (id.apart word group) ∧
      (word ≠ "" → id.apiVersion? = none →
        d.resolveExact (id.compound word group) = d.resolveExact (id.apart word group))) ∧
    (∀ id : Identifier, id.normalized.normalized = id.normalized) ∧
    ∀ id : Identifier, id.apiVersion?.isSome →
      d.resolveBestEffort id = d.resolveExact id.normalized ∧
      ∀ preferred, { d with preferred }.resolveBestEffort id = d.resolveBestEffort id := by
  refine ⟨fun id word group hgroup hword => ⟨?_, fun hne hversion => ?_⟩, fun id => Identifier.normalized_normalized,
    fun id hversion => ⟨?_, fun preferred => ?_⟩⟩
  · exact Discovery.resolveBestEffort_compound hgroup hword
  · exact Discovery.resolveExact_compound hgroup hword hne hversion
  · exact Discovery.resolveBestEffort_of_version hversion
  · rw [Discovery.resolveBestEffort_of_version hversion, Discovery.resolveBestEffort_of_version hversion]
    rfl

/-- The kind is looked up in the group of the compound where its word misses. A type of another version than the given
one is not found, although a scan would find it. -/
theorem compound_resolves_apart_scale :
    (Identifier.group? ⟨none, some "Scale", none, some ""⟩ = none ∧ '.' ∉ "sizes".toList ∧
      appTypes.discovery.resolveBestEffort (Identifier.compound ⟨none, some "Scale", none, some ""⟩ "sizes" "apps") =
        appTypes.discovery.resolveBestEffort ⟨none, some "Scale", some "sizes", some "apps"⟩ ∧
      appTypes.discovery.resolveExact (Identifier.compound ⟨none, some "Scale", none, some ""⟩ "sizes" "apps") =
        appTypes.discovery.resolveExact ⟨none, some "Scale", some "sizes", some "apps"⟩ ∧
      appTypes.discovery.resolveExact ⟨none, some "Scale", some "sizes", some "apps"⟩ =
        .ok ⟨⟨"apps", "v1beta1", "scales"⟩, true⟩) ∧
    (Identifier.apiVersion? ⟨some "apps/v1beta1", none, some "deploy.apps", none⟩).isSome ∧
      appTypes.discovery.resolveBestEffort ⟨some "apps/v1beta1", none, some "deploy.apps", none⟩ =
        appTypes.discovery.resolveExact ⟨some "apps/v1beta1", none, some "deploy", some "apps"⟩ ∧
      appTypes.discovery.resolveBestEffort ⟨none, none, some "deploy.apps", none⟩ =
        .ok ⟨⟨"apps", "v1", "deployments"⟩, true⟩ := by
  obtain ⟨alike, -, versioned⟩ := compound_resolves_apart appTypes.discovery
  have ungrouped : Identifier.group? ⟨none, some "Scale", none, some ""⟩ = none := by rfl
  have version : (Identifier.apiVersion? ⟨some "apps/v1beta1", none, some "deploy.apps", none⟩).isSome := by rfl
  obtain ⟨best, exact'⟩ := alike _ "sizes" "apps" ungrouped (by decide)
  exact ⟨⟨ungrouped, by decide, best, exact' (by decide) (by rfl), by rfl⟩, version, (versioned _ version).1, by rfl⟩

end Periscope
