import Periscope.Json.Printer
import Periscope.Mcp.Call
import Periscope.Proofs.Redaction.Agreement

/-!
# Secrets do not show

What stands under the keys that a redactor hides, and the payloads of secrets, have no influence on what a call
of a tool answers. Main result: `callTool_noninterference`, over two servers whose sources give answers that are
alike but for that.
-/

namespace Periscope

open Json

namespace Inspector

variable {hidden : String → Prop} {v v' : Json} {r : Redactor}

/-! ## Responses -/

/-- Two payloads with the same entry keys, whatever the entries are. -/
def SameEntries (v v' : Json) : Prop :=
  ∃ members members', v = .obj members ∧ v' = .obj members' ∧
    members.map Prod.fst = members'.map Prod.fst

/-- The objects are alike but for hidden keys and for the entries of their payloads. -/
def SecretAgree (hidden : String → Prop) (v v' : Json) : Prop :=
  Agree hidden v v' ∨ ∃ members members', v = .obj members ∧ v' = .obj members' ∧
    Memberwise (fun key a a' => hidden key ∨ Agree hidden a a' ∨ key ∈ payloadFields ∧ SameEntries a a')
      members members'

/-- One object or a list of objects, alike but for hidden keys and for the entries of the payloads. -/
def SecretsAgree (hidden : String → Prop) (v v' : Json) : Prop :=
  SecretAgree hidden v v' ∨
    ∃ items items', v = .arr items ∧ v' = .arr items' ∧ List.Forall₂ (SecretAgree hidden) items items'

/-- Responses to a list of secrets, alike but for hidden keys and for the entries of the payloads, in their items or
in the response as a whole. -/
def SecretListAgree (hidden : String → Prop) (v v' : Json) : Prop :=
  SecretsAgree hidden v v' ∨ ∃ members members', v = .obj members ∧ v' = .obj members' ∧
    Memberwise (fun key a a' => hidden key ∨ Agree hidden a a' ∨ key = "items" ∧ SecretsAgree hidden a a')
      members members'

/-- The responses to a query are alike but for what has to stay secret. -/
def ResponsesAgree (hidden : String → Prop) (q : ResourceQuery) (v v' : Json) : Prop :=
  if holdsSecrets q.resource.type then
    if q.name?.isSome then SecretAgree hidden v v' else SecretListAgree hidden v v'
  else Agree hidden v v'

/-- The sources answer every query with the same error or with responses that are alike but for what has to stay
secret. -/
def SourcesAgree (hidden : String → Prop) (source source' : ObjectSource) : Prop :=
  ∀ q, (∃ e, source q = .error e ∧ source' q = .error e) ∨
    ∃ v v', source q = .ok v ∧ source' q = .ok v' ∧ ResponsesAgree hidden q v v'

/-! ## Masks -/

/-- A mask hides all that payloads with the same entries may differ in. -/
theorem maskPayload_eq_of_sameEntries (h : SameEntries v v') : maskPayload v = maskPayload v' := by
  obtain ⟨members, members', rfl, rfl, hkeys⟩ := h
  have hmask (ms : List (String × Json)) :
      maskPayload (.obj ms) = .obj ((ms.map Prod.fst).map fun key => (key, .str Redaction.marker)) := by
    rw [maskPayload, List.map_map]
    rfl
  rw [hmask, hmask, hkeys]

theorem agree_maskPayload (h : Agree hidden v v') : Agree hidden (maskPayload v) (maskPayload v') := by
  cases h with
  | same v => exact .same _
  | arr hitems => exact .arr hitems
  | obj hmembers =>
    rw [maskPayload_eq_of_sameEntries ⟨_, _, rfl, rfl, (agreeMembers_iff.1 hmembers).keys_eq⟩]
    exact .same _

/-- Behind its mask an object agrees with every object that has the same payload entries. -/
theorem agree_maskObject (h : SecretAgree hidden v v') : Agree hidden (maskObject v) (maskObject v') := by
  have hmembers : ∀ {members members'}, Memberwise (fun key a a' => hidden key ∨ Agree hidden a a' ∨
      key ∈ payloadFields ∧ SameEntries a a') members members' →
      Agree hidden (maskObject (.obj members)) (maskObject (.obj members')) := by
    intro members members' hms
    refine .obj (agreeMembers_iff.2 (hms.map
      (f := fun key a => if payloadFields.contains key then maskPayload a else a) fun key a a' ha => ?_))
    rcases ha with hkey | ha | ⟨hkey, hentries⟩
    · exact .inl hkey
    · right
      split
      · exact agree_maskPayload ha
      · exact ha
    · right
      rw [if_pos (List.contains_iff_mem.2 hkey), if_pos (List.contains_iff_mem.2 hkey),
        maskPayload_eq_of_sameEntries hentries]
      exact .same _
  rcases h with h | ⟨members, members', rfl, rfl, hms⟩
  · cases h with
    | same v => exact .same _
    | arr hitems => exact .arr hitems
    | obj hms => exact hmembers ((agreeMembers_iff.1 hms).mono fun _ _ _ _ ha => ha.imp_right .inl)
  · exact hmembers hms

theorem agree_maskPayloads (h : SecretsAgree hidden v v') : Agree hidden (maskPayloads v) (maskPayloads v') := by
  have hitems : ∀ {items items'}, List.Forall₂ (SecretAgree hidden) items items' →
      Agree hidden (maskPayloads (.arr items)) (maskPayloads (.arr items')) := by
    intro items items' h
    refine .arr (agreeItems_iff.2 ?_)
    rw [List.forall₂_map_left_iff, List.forall₂_map_right_iff]
    exact h.imp fun _ _ => agree_maskObject
  rcases h with (h | ⟨members, members', rfl, rfl, hms⟩) | ⟨items, items', rfl, rfl, h⟩
  · cases h with
    | same v => exact .same _
    | arr h => exact hitems ((agreeItems_iff.1 h).imp fun _ _ => .inl)
    | obj hms => exact agree_maskObject (.inl (.obj hms))
  · exact agree_maskObject (.inr ⟨_, _, rfl, rfl, hms⟩)
  · exact hitems h

/-! ## Items -/

/-- Objects that are related member by member have related items, or no items and are taken as a whole. -/
theorem itemsOf_memberwise {R : String → Json → Json → Prop} {members members' : List (String × Json)}
    (h : Memberwise R members members') :
    R "items" (itemsOf (.obj members)) (itemsOf (.obj members')) ∨
      "items" ∉ members.map Prod.fst ∧
        itemsOf (.obj members) = .obj members ∧ itemsOf (.obj members') = .obj members' := by
  rcases h.lookup "items" with ⟨hnone, hnone'⟩ | ⟨a, a', hsome, hsome', ha⟩
  · refine .inr ⟨?_, by simp [itemsOf, get?, hnone], by simp [itemsOf, get?, hnone']⟩
    rintro hmem
    obtain ⟨⟨key, a⟩, ha, rfl⟩ := List.mem_map.1 hmem
    simpa using List.lookup_eq_none_iff.1 hnone _ ha
  · exact .inl (by simpa [itemsOf, get?, hsome, hsome'] using ha)

/-- Alike responses have alike items, unless the items are hidden anyway. -/
theorem agree_itemsOf (h : Agree hidden v v') : hidden "items" ∨ Agree hidden (itemsOf v) (itemsOf v') := by
  cases h with
  | same v => exact .inr (.same _)
  | arr hitems => exact .inr (.arr hitems)
  | obj hmembers =>
    rcases itemsOf_memberwise (agreeMembers_iff.1 hmembers) with ha | ⟨-, hself, hself'⟩
    · exact ha
    · rw [hself, hself']
      exact .inr (.obj hmembers)

theorem secretsAgree_itemsOf (h : SecretListAgree hidden v v') :
    hidden "items" ∨ SecretsAgree hidden (itemsOf v) (itemsOf v') := by
  rcases h with ((h | ⟨members, members', rfl, rfl, hms⟩) | h) | ⟨members, members', rfl, rfl, hms⟩
  · exact (agree_itemsOf h).imp_right fun h => .inl (.inl h)
  · rcases itemsOf_memberwise hms with (ha | ha | ⟨hkey, -⟩) | ⟨-, hself, hself'⟩
    · exact .inl ha
    · exact .inr (.inl (.inl ha))
    · exact absurd hkey (by decide)
    · rw [hself, hself']
      exact .inr (.inl (.inr ⟨_, _, rfl, rfl, hms⟩))
  · obtain ⟨items, items', rfl, rfl, -⟩ := id h
    exact .inr (.inr h)
  · rcases itemsOf_memberwise hms with (ha | ha | ⟨-, ha⟩) | ⟨hno, hself, hself'⟩
    · exact .inl ha
    · exact .inr (.inl (.inl ha))
    · exact .inr ha
    · rw [hself, hself']
      refine .inr (.inl (.inl (.obj (agreeMembers_iff.2 (hms.mono fun key hkey _ _ ha => ?_)))))
      exact ha.imp_right (·.resolve_right fun h => hno (h.1 ▸ hkey))

/-! ## Answers -/

variable {i i' : Inspector} {resource : ResolvedResource} {items items' : Json}

/-- Answers are the same if what they show of the objects is alike, or if they hide the objects as a whole. -/
theorem present_congr (hr : i.redactor = i'.redactor)
    (h : i.redactor.Hides "items" ∨ Agree i.redactor.Hides
      (if holdsSecrets resource.type then maskPayloads items else items)
      (if holdsSecrets resource.type then maskPayloads items' else items')) :
    i.present resource items = i'.present resource items' := by
  have hobject : ∀ a b : Json, object [("resource", a), ("items", b)] = .obj [("items", b), ("resource", a)] := by
    intro a b
    have hlt : "items" < "resource" := by decide
    simp [object, sortMembers, insertMember, hlt]
  simp only [present, hobject, ← hr]
  apply Redactor.redactValue_eq_of_agree
  rcases h with h | h
  · exact .obj (.hide h (.cons (.same _) .nil))
  · exact .obj (.cons h (.cons (.same _) .nil))

theorem present_list (hr : i.redactor = i'.redactor) {q : ResourceQuery} (hq : q.name? = none)
    (h : ResponsesAgree i.redactor.Hides q v v') :
    i.present q.resource (itemsOf v) = i'.present q.resource (itemsOf v') := by
  apply present_congr hr
  by_cases hsecrets : holdsSecrets q.resource.type
  · simp only [ResponsesAgree, hsecrets, hq, Option.isSome_none, Bool.false_eq_true, ↓reduceIte] at h ⊢
    exact (secretsAgree_itemsOf h).imp_right agree_maskPayloads
  · simp only [ResponsesAgree, hsecrets, Bool.false_eq_true, ↓reduceIte] at h ⊢
    exact agree_itemsOf h

theorem present_get (hr : i.redactor = i'.redactor) {q : ResourceQuery} (hq : q.name?.isSome)
    (h : ResponsesAgree i.redactor.Hides q v v') :
    i.present q.resource (.arr [v]) = i'.present q.resource (.arr [v']) := by
  apply present_congr hr
  by_cases hsecrets : holdsSecrets q.resource.type
  · simp only [ResponsesAgree, hsecrets, hq, ↓reduceIte] at h ⊢
    exact .inr (agree_maskPayloads (.inr ⟨_, _, rfl, rfl, .cons h .nil⟩))
  · simp only [ResponsesAgree, hsecrets, Bool.false_eq_true, ↓reduceIte] at h ⊢
    exact .inr (.arr (.cons h .nil))

/-- What is made of a response is the same on both sides if it does not tell responses apart that agree. -/
theorem send_congr {q : ResourceQuery} (hsource : SourcesAgree hidden i.source i'.source) {f f' : Json → Json}
    (hf : ∀ v v', ResponsesAgree hidden q v v' → f v = f' v') :
    (do let v ← i.send q; return f v : Inspection Json) = do let v ← i'.send q; return f' v := by
  rcases hsource q with ⟨e, he, he'⟩ | ⟨v, v', hv, hv', h⟩
  · simp only [send, he, he']
    rfl
  · simp only [send, hv, hv']
    funext session
    have := hf v v' h
    show (Except.ok (f v), _) = (Except.ok (f' v'), _)
    rw [this]

end Inspector

namespace Mcp

open Inspector

variable {fetcher : Cache.Fetcher} {source source' : ObjectSource} {redactor : Redactor}

theorem snapshot_congr (source source' : ObjectSource) :
    (Inspector.mk fetcher source redactor).snapshot = (Inspector.mk fetcher source' redactor).snapshot := by
  simp only [Inspector.snapshot]

/-- Resolving asks nothing of the source. -/
theorem resolve_congr (source source' : ObjectSource) (id : Identifier) (exact : Bool) :
    (Inspector.mk fetcher source redactor).resolve id exact =
      (Inspector.mk fetcher source' redactor).resolve id exact := by
  simp only [Inspector.resolve, snapshot_congr source source']

theorem perform_congr (hsource : SourcesAgree redactor.Hides source source') (call : Call) :
    perform ⟨fetcher, source, redactor⟩ call = perform ⟨fetcher, source', redactor⟩ call := by
  cases call with
  | resolve id exact => simp only [perform, resolve_congr source source']
  | apiResources => simp only [perform, Inspector.apiResources, snapshot_congr source source']
  | list id ns selector =>
    simp only [perform, Inspector.list, resolve_congr source source']
    refine bind_congr fun _ => bind_congr fun resource => bind_congr fun _ => ?_
    exact send_congr hsource fun v v' h => present_list rfl rfl h
  | get id name ns =>
    simp only [perform, Inspector.get, resolve_congr source source']
    refine bind_congr fun _ => bind_congr fun _ => bind_congr fun resource => bind_congr fun _ =>
      bind_congr fun _ => ?_
    exact send_congr hsource fun v v' h => present_get rfl rfl h
  | redact value => rfl

/-- On two servers with the same discovery and the same redactor, whose sources differ only in what stands under keys
that the redactor hides and in the payloads of secrets, every call of a tool has the same answer and leaves the
same session behind. -/
theorem callTool_noninterference (hsource : SourcesAgree redactor.Hides source source') (params : Json) :
    callTool ⟨fetcher, source, redactor⟩ params = callTool ⟨fetcher, source', redactor⟩ params := by
  unfold callTool
  cases Call.ofParams params with
  | error e => rfl
  | ok call => simp only [perform_congr hsource call]

/-- A secret with a password in its payload and a token in its annotations. -/
def databaseSecret (password token : String) : Json :=
  .obj [("data", .obj [("password", .str password), ("user", .str "YWRtaW4=")]), ("kind", .str "Secret"),
    ("metadata", .obj [("annotations", .obj [("token", .str token)]), ("name", .str "db")])]

/-- The source that has this secret alone. -/
def secretSource (password token : String) : ObjectSource := fun q =>
  if holdsSecrets q.resource.type then .ok (databaseSecret password token) else .error (.objectNotFound q.path)

/-- The types of a server that has secrets. -/
def secretTypes : Snapshot := ⟨[⟨"v1", [⟨"secrets", "secret", true, "Secret", [], []⟩]⟩], []⟩

/-- An inspector of that server, with the secret behind it. -/
def secretInspector (password token : String) : Inspector :=
  ⟨.constant (.ok secretTypes), secretSource password token, .builtin⟩

/-- The call that gets the secret. -/
def getSecret : Json :=
  .obj [("arguments", .obj [("name", .str "db"), ("namespace", .str "default"), ("resource", .str "secrets")]),
    ("name", .str "probe_get")]

/-- The secret with its type as an answer shows it. -/
def maskedSecret : String :=
  "\x7B\"items\":[\x7B\"data\":\x7B\"password\":\"[REDACTED]\",\"user\":\"[REDACTED]\"\x7D," ++
    "\"kind\":\"Secret\"," ++
    "\"metadata\":\x7B\"annotations\":\x7B\"token\":\"[REDACTED]\"\x7D,\"name\":\"db\"\x7D\x7D]," ++
    "\"resource\":\x7B\"group\":\"\",\"namespaced\":true,\"resource\":\"secrets\",\"version\":\"v1\"\x7D\x7D"

/-- Two servers whose secrets differ in the password and in the token answer every call alike. The answer to a call that
gets the secret has the marker for both, and for the user name that they share. -/
theorem callTool_noninterference_secret :
    SourcesAgree Redactor.builtin.Hides (secretSource "aHVudGVyMg==" "first") (secretSource "c2VzYW1l" "second") ∧
      (∀ params, callTool (secretInspector "aHVudGVyMg==" "first") params =
        callTool (secretInspector "c2VzYW1l" "second") params) ∧
      ((callTool (secretInspector "c2VzYW1l" "second") getSecret).run ⟨.empty (some 60), []⟩).1.map Json.compact =
        .ok maskedSecret := by
  have htoken : Redactor.builtin.Hides "token" := by
    have h : (Redactor.builtin.keyRule? "token").isSome := by decide +kernel
    exact h
  have hmetadata : Agree Redactor.builtin.Hides
      (.obj [("annotations", .obj [("token", .str "first")]), ("name", .str "db")])
      (.obj [("annotations", .obj [("token", .str "second")]), ("name", .str "db")]) :=
    .obj (.cons (.obj (.hide htoken .nil)) (.cons (.same _) .nil))
  have hsecret : SecretAgree Redactor.builtin.Hides (databaseSecret "aHVudGVyMg==" "first")
      (databaseSecret "c2VzYW1l" "second") :=
    .inr ⟨_, _, rfl, rfl, .cons ⟨rfl, .inr (.inr ⟨by decide, _, _, rfl, rfl, rfl⟩)⟩
      (.cons ⟨rfl, .inr (.inl (.same _))⟩ (.cons ⟨rfl, .inr (.inl hmetadata)⟩ .nil))⟩
  have hsources : SourcesAgree Redactor.builtin.Hides (secretSource "aHVudGVyMg==" "first")
      (secretSource "c2VzYW1l" "second") := by
    intro q
    by_cases hq : holdsSecrets q.resource.type
    · refine .inr ⟨_, _, if_pos hq, if_pos hq, ?_⟩
      rw [ResponsesAgree, if_pos hq]
      split
      · exact hsecret
      · exact .inl (.inl hsecret)
    · exact .inl ⟨_, if_neg hq, if_neg hq⟩
  have hshown : ((callTool (secretInspector "aHVudGVyMg==" "first") getSecret).run
      ⟨.empty (some 60), []⟩).1.map Json.compact = .ok maskedSecret := by
    decide +kernel
  have hsame : ∀ params, callTool (secretInspector "aHVudGVyMg==" "first") params =
      callTool (secretInspector "c2VzYW1l" "second") params := callTool_noninterference hsources
  exact ⟨hsources, hsame, hsame getSecret ▸ hshown⟩

end Mcp

end Periscope
