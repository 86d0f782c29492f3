import Periscope.Json.Basic
import Periscope.Pattern.Reader
import Periscope.Redaction.Builtin

/-!
# Redactors

A redactor is an ordered list of rules. On a text its content rules work one after the other; on a value
the first key rule that matches a mapping key hides what stands under it, and all other texts are redacted
where they stand. A report counts how often each rule has hidden something.
-/

namespace Periscope

open Redaction

/-- An ordered list of redaction rules. -/
structure Redactor where
  rules : List Rule

namespace Redactor

/-- The redactor with the built-in rules. -/
def builtin : Redactor := ⟨builtinRules⟩

/-- Adds a rule behind all others. -/
def push (r : Redactor) (rule : Rule) : Redactor := ⟨r.rules ++ [rule]⟩

/-- The key rule for a configured term, which is trimmed and taken in small letters; a blank term gives
none. -/
def extraKeyRule? (term : String) : Option Rule :=
  let term := String.ofList (Text.lowercase (Text.trimBlank term.toList))
  if term.isEmpty then none else some (.key ("key:" ++ term) (.contains term))

/-- The content rule for the configured pattern with number `i`; a text that `read` takes for no pattern gives
none. -/
def extraContentRule? (read : String → Option Pattern) (i : Nat) (source : String) : Option Rule :=
  (read source).map fun pattern =>
    .content
      { name := "CUSTOM_" ++ toString i, source, pattern, extent := .wholeMatch
        accepts := fun _ => true }

/-- The built-in rules, then one for each configured key term, then one for each configured pattern, as `read`
takes it. -/
def configured (read : String → Option Pattern) (keys patterns : List String) : Redactor :=
  ⟨builtinRules ++ keys.filterMap extraKeyRule? ++
    (patterns.zipIdx.filterMap fun (source, i) => extraContentRule? read i source)⟩

/-- The redactor with configured extras, its patterns read by `Pattern.ofText?`. -/
def withExtras (keys patterns : List String) : Redactor := configured Pattern.ofText? keys patterns

/-- The content rules in their order. -/
def contentRules (r : Redactor) : List ContentRule := r.rules.filterMap Rule.content?

/-! ## Texts -/

/-- The text after the content rules, one after the other. -/
def redactChars (r : Redactor) (text : List Char) : List Char :=
  r.contentRules.foldl (fun current rule => rule.apply current) text

/-- The text with secrets replaced by the marker. -/
def redactText (r : Redactor) (text : String) : String := String.ofList (r.redactChars text.toList)

/-- How often each of the rules hides something when they run one after the other. -/
def runHits : List ContentRule → List Char → List (String × Nat)
  | [], _ => []
  | rule :: rest, text => (rule.name, rule.hitCount text) :: runHits rest (rule.apply text)

/-- How often each content rule hides something in a text. -/
def textHits (r : Redactor) (text : String) : List (String × Nat) :=
  (runHits r.contentRules text.toList).filter fun hit => hit.2 != 0

/-! ## Values -/

/-- The first key rule that matches a key. -/
def keyRule? (r : Redactor) (key : String) : Option Rule :=
  r.rules.find? (·.matchesKey key.toList)

mutual

/-- The value with secrets replaced by the marker. -/
def redactValue (r : Redactor) : Json → Json
  | .str s => .str (r.redactText s)
  | .arr items => .arr (r.redactItems items)
  | .obj members => .obj (r.redactMembers members)
  | v => v

/-- The items with secrets replaced. -/
def redactItems (r : Redactor) : List Json → List Json
  | [] => []
  | v :: rest => r.redactValue v :: r.redactItems rest

/-- The members with secrets replaced. -/
def redactMembers (r : Redactor) : List (String × Json) → List (String × Json)
  | [] => []
  | (key, v) :: rest =>
    let shown := if (r.keyRule? key).isSome then .str marker else r.redactValue v
    (key, shown) :: r.redactMembers rest

end

mutual

/-- The rules that hide something in a value, each with how often. -/
def valueHits (r : Redactor) : Json → List (String × Nat)
  | .str s => r.textHits s
  | .arr items => r.itemHits items
  | .obj members => r.memberHits members
  | _ => []

/-- The rules that hide something in the items. -/
def itemHits (r : Redactor) : List Json → List (String × Nat)
  | [] => []
  | v :: rest => r.valueHits v ++ r.itemHits rest

/-- The rules that hide something in the members. -/
def memberHits (r : Redactor) : List (String × Json) → List (String × Nat)
  | [] => []
  | (key, v) :: rest =>
    let hits :=
      match r.keyRule? key with
      | some rule => [(rule.name, 1)]
      | none => r.valueHits v
    hits ++ r.memberHits rest

end

/-! ## Reports -/

/-- Counts `n` more under a name, the names ascending. -/
def addCount (name : String) (n : Nat) : List (String × Nat) → List (String × Nat)
  | [] => [(name, n)]
  | (other, m) :: rest =>
    if name < other then (name, n) :: (other, m) :: rest
    else if name == other then (other, m + n) :: rest
    else (other, m) :: addCount name n rest

/-- The totals of the hits, by ascending name. -/
def tally (hits : List (String × Nat)) : List (String × Nat) :=
  hits.foldl (fun totals hit => addCount hit.1 hit.2 totals) []

/-- How often each rule hides something in a value, by ascending name. -/
def report (r : Redactor) (v : Json) : List (String × Nat) := tally (r.valueHits v)

end Redactor

end Periscope
