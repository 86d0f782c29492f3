import Periscope.Proofs.Http.Form
import Periscope.Proofs.Remote.Collections

/-!
# Label selectors in requests

A label selector is the one parameter of a request. Whatever it is, it stays inside its value, and neither the path nor
a query of the base URL has to do with it. Main result: `selector_is_only_parameter`.
-/

namespace Periscope.Remote.ObjectServer

open Http

variable {s : ObjectServer} {list : List (List Char)} {q : ResourceQuery} {u : Url}

/-- The server with another query in its base URL. -/
def withQuery (s : ObjectServer) (own : Option (List Char)) : ObjectServer :=
  { s with base := { s.base with query := own } }

/-! ## URLs -/

/-- An extended URL differs in its query from the one without, and has nothing of the query before. -/
theorem extended?_withQuery (base : Url) (segments : List String) (own query : Option (List Char)) :
    { base with query := own }.extended? segments query =
      (base.extended? segments none).map fun u => { u with query } := by
  cases path : base.path <;> simp [Url.extended?, path]

theorem url_selecting (found : s.base.extended? q.segments none = some u) (selector : Option String)
    (own : Option (List Char)) :
    (s.withQuery own).url (q.selecting selector) =
      .ok { u with query := selectorQuery (q.selecting selector).selector? } := by
  have same : (q.selecting selector).segments = q.segments := rfl
  rw [url_eq_ok_iff, withQuery, same, extended?_withQuery, found, Option.map_some]

/-! ## Selectors -/

theorem selecting_of_nonempty (q : ResourceQuery) {text : String} (nonempty : text ≠ "") :
    (q.selecting (some text)).selector? = some text := by
  simp [ResourceQuery.selecting, Option.filter, nonempty]

theorem selecting_of_absent (q : ResourceQuery) {selector : Option String}
    (absent : ∀ text, text ≠ "" → selector ≠ some text) : (q.selecting selector).selector? = none := by
  refine Option.eq_none_iff_forall_ne_some.2 fun text given => ?_
  obtain ⟨same, nonempty⟩ := Option.filter_eq_some_iff.1 given
  exact absent text (by simpa using nonempty) same

/-- A selector is read back as the value of the parameter. -/
theorem formPairs?_selectorQuery (text : String) :
    (selectorQuery (some text)).bind formPairs? = some [("labelSelector", text)] := by
  have name : "labelSelector=".toList = formEncode "labelSelector".toList ++ ['='] := by decide
  rw [selectorQuery, Option.map_some, Option.bind_some, name, List.append_assoc]
  exact formPairs?_formEncode "labelSelector" text

/-- The requests for a query have one URL but for the parameters, whatever the selector and the query of the base URL
are. A selector is the value of the only parameter. Without one, or with an empty one, there are no parameters. -/
theorem selector_is_only_parameter (path : s.base.path = .segments list) (q : ResourceQuery) :
    ∃ u : Url, ∀ selector : Option String, ∃ query : Option (List Char),
      (∀ own, (s.withQuery own).url (q.selecting selector) = .ok { u with query }) ∧
      (∀ text, text ≠ "" → selector = some text → query.bind formPairs? = some [("labelSelector", text)]) ∧
      ((∀ text, text ≠ "" → selector ≠ some text) → query = none) := by
  obtain ⟨u, found⟩ : ∃ u, s.base.extended? q.segments none = some u := by simp [Url.extended?, path]
  refine ⟨u, fun selector => ⟨_, url_selecting found selector, ?_, fun absent => ?_⟩⟩
  · rintro text nonempty rfl
    rw [selecting_of_nonempty q nonempty]
    exact formPairs?_selectorQuery text
  · rw [selecting_of_absent q absent]
    rfl

/-- A server below a path, whose address has a parameter of its own. -/
def prefixedServer : ObjectServer :=
  ⟨⟨"https", some ⟨"", none, .domain "localhost", none⟩, .segments [['p'], []], some "watch=1".toList, none⟩, none⟩

/-- A selector with everything in it that could end it, and an empty one. -/
theorem selector_is_only_parameter_marks :
    prefixedServer.base.path = .segments [['p'], []] ∧
      ∃ u u', prefixedServer.url ((podQuery "web-0").selecting (some "app=web&tier!=#db+ %26")) = .ok u ∧
        u.query.bind formPairs? = some [("labelSelector", "app=web&tier!=#db+ %26")] ∧
        prefixedServer.url ((podQuery "web-0").selecting (some "")) = .ok u' ∧ u'.query = none ∧ u.path = u'.path := by
  obtain ⟨u, parameters⟩ := selector_is_only_parameter (s := prefixedServer) rfl (podQuery "web-0")
  obtain ⟨query, found, given, -⟩ := parameters (some "app=web&tier!=#db+ %26")
  obtain ⟨query', found', -, absent⟩ := parameters (some "")
  refine ⟨rfl, _, _, found prefixedServer.base.query, given _ (by decide) rfl, found' prefixedServer.base.query,
    absent fun text nonempty same => nonempty (Option.some.inj same).symm, rfl⟩

end Periscope.Remote.ObjectServer
