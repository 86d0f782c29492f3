import Periscope.Redaction.Rule

/-!
# Built-in rules

The rules that every redactor starts with. The content rules go from the more specific to the more
general, and each one works on what the rules before it have left.
-/

namespace Periscope.Redaction

open Pattern

/-! ## Keys -/

/-- The terms that make a key sensitive wherever they occur in it. -/
def containedTerms : List String :=
  ["token", "secret", "password", "passwd", "credential", "authorization", "cookie", "private_key",
   "privatekey", "apikey"]

/-- The terms that make a key sensitive as a word of it. -/
def wordTerms : List String := ["key", "auth"]

/-- The built-in key rules. -/
def builtinKeyRules : List Rule :=
  containedTerms.map (fun term => .key ("key:" ++ term) (.contains term)) ++
    wordTerms.map fun term => .key ("key:" ++ term) (.word term)

/-! ## Character sets -/

/-- The capital letters and the space. -/
def capitalOrSpace : CharSet := .unions [.range 'A' 'Z', .single ' ']

/-- The ASCII letters. -/
def letter : CharSet := .unions [.range 'a' 'z', .range 'A' 'Z']

/-- The characters of a URL scheme. -/
def schemeChar : CharSet :=
  .unions [.range 'a' 'z', .range 'A' 'Z', .range '0' '9', .single '+', .single '.', .single '-']

/-- The ASCII letters and digits. -/
def alphanumeric : CharSet := .unions [.range 'A' 'Z', .range 'a' 'z', .range '0' '9']

/-- The characters of the base64 alphabet for URLs. -/
def base64Url : CharSet :=
  .unions [.range 'A' 'Z', .range 'a' 'z', .range '0' '9', .single '_', .single '-']

/-- The characters of the name in front of an assigned value. -/
def nameChar : CharSet := .unions [.word, .single '.', .single '-']

/-- The single and the double quote. -/
def quoteMark : CharSet := .unions [.single '"', .single '\'']

/-- The hyphen and the underscore. -/
def joiner : CharSet := .unions [.single '_', .single '-']

/-- The characters of a bearer token, letter case apart. -/
def bearerChar : CharSet :=
  CharSet.fold (.unions [.range 'A' 'Z', .range 'a' 'z', .range '0' '9', .single '-', .single '.',
    .single '_', .single '~', .single '+', .single '/'])

/-- The characters that end an assigned value. -/
def valueEnd : CharSet :=
  .unions [.blank, .single ',', .single ';', .single '&', .single '"', .single '\'', .single '[',
    .single ']']

/-- The edge of a word. -/
def wordBoundary : Pattern := .assert (.edge .boundary .word)

/-! ## Patterns -/

/-- A private key in its armour, to the end of the text if the closing line is missing. -/
def privateKey : Pattern :=
  .seqs ((seqItems "-----BEGIN") ++ [(Pattern.one capitalOrSpace).star true] ++
    seqItems "PRIVATE KEY-----" ++
    [(Pattern.one .any).star false,
     .alts [.seqs (seqItems "-----END" ++ [(Pattern.one capitalOrSpace).star true] ++
        seqItems "PRIVATE KEY-----"), .assert .textEnd]])
where
  /-- One pattern for each character. -/
  seqItems (text : String) : List Pattern := text.toList.map fun c => .one (.single c)

/-- The password of a URL, between the user and the host. -/
def urlCredentials : Pattern :=
  .seqs [.one letter, (Pattern.one schemeChar).star true,
    .one (.single ':'), .one (.single '/'), .one (.single '/'),
    (Pattern.one (.compl (.unions [.single ':', .single '/', .blank, .single '@']))).plus true,
    .one (.single ':'),
    .group "secret"
      ((Pattern.one (.compl (.unions [.single '@', .blank, .single '/']))).plus true),
    .one (.single '@')]

/-- One letter, case apart. -/
def folded (c : Char) : Pattern := .one (CharSet.single c).fold

/-- A word written in two parts, with or without a joiner between them. -/
def joined (first second : String) : Pattern :=
  .seqs (first.toList.map folded ++ [(Pattern.one joiner).opt true] ++ second.toList.map folded)

/-- The schemes that may stand in front of the value of an authorization. -/
def authScheme : Pattern := .alts [foldedLiteral "bearer", foldedLiteral "basic"]

/-- The words that make an assigned value a secret. -/
def secretWord : Pattern :=
  .alts [foldedLiteral "token", foldedLiteral "secret",
    .seqs ("passw".toList.map folded ++ [(foldedLiteral "or").opt true, folded 'd']),
    foldedLiteral "credential", foldedLiteral "authorization", joined "api" "key",
    joined "access" "key", joined "private" "key"]

/-- A value assigned by an equals sign or a colon to a name that holds a secret word. -/
def assignment : Pattern :=
  .seqs [wordBoundary, (Pattern.one nameChar).star false, secretWord, (Pattern.one nameChar).star true,
    (Pattern.one quoteMark).opt true, (Pattern.one .blank).star true,
    .one (.unions [.single '=', .single ':']), (Pattern.one .blank).star true,
    (Pattern.one quoteMark).opt true,
    (Pattern.seqs [authScheme, (Pattern.one .blank).plus true]).opt true,
    .group "secret" ((Pattern.one (.compl valueEnd)).plus true)]

/-- The token behind an authorization scheme. -/
def bearerToken : Pattern :=
  .seqs [wordBoundary, authScheme, (Pattern.one .blank).plus true,
    .group "secret"
      (.seqs [(Pattern.one bearerChar).atLeast true 8, (Pattern.one (.single '=')).star true])]

/-- A signed web token: three parts of the base64 alphabet, the first one an encoded object. -/
def webToken : Pattern :=
  .seqs [.one (.single 'e'), .one (.single 'y'), .one (.single 'J'), (Pattern.one base64Url).plus true,
    .one (.single '.'), (Pattern.one base64Url).plus true,
    .one (.single '.'), (Pattern.one base64Url).plus true]

/-- Any token of three long parts. -/
def signedToken : Pattern :=
  .seqs [wordBoundary, (Pattern.one base64Url).atLeast true 16,
    .one (.single '.'), (Pattern.one base64Url).atLeast true 16,
    .one (.single '.'), (Pattern.one base64Url).atLeast true 16, wordBoundary]

/-- An access key with one of its two well-known beginnings. -/
def accessKey : Pattern :=
  .seqs [wordBoundary, .alts [literal "AKIA", literal "ASIA"],
    (Pattern.one (.unions [.range '0' '9', .range 'A' 'Z'])).exactly 16, wordBoundary]

/-- A token with the beginning `gh`, a letter for its kind and an underscore. -/
def forgeToken : Pattern :=
  .seqs [wordBoundary, .one (.single 'g'), .one (.single 'h'),
    .one (.unions [.single 'p', .single 'o', .single 'u', .single 's', .single 'r']),
    .one (.single '_'), (Pattern.one alphanumeric).atLeast true 36, wordBoundary]

/-- A long run of letters and digits. -/
def opaqueRun : Pattern := (Pattern.one alphanumeric).atLeast true 24

/-! ## Vetoes -/

/-- Whether a value is not just the word of an authorization scheme, whose token another rule hides. -/
def isNotAuthScheme (value : List Char) : Bool :=
  let lowered := value.map Char.toLower
  lowered != "bearer".toList && lowered != "basic".toList

/-- Whether a run mixes small letters, capitals and digits and is not a hexadecimal digest. -/
def isOpaqueCredential (run : List Char) : Bool :=
  run.any Char.isLower && run.any Char.isUpper && run.any Char.isDigit &&
    !run.all fun c => c.isDigit || ('a' ≤ c && c ≤ 'f') || ('A' ≤ c && c ≤ 'F')

/-! ## The rules -/

/-- Hides a private key in its armour. -/
def privateKeyRule : ContentRule where
  name := "PRIVATE_KEY"
  source := "(?s)-----BEGIN[A-Z ]*PRIVATE KEY-----.*?(?:-----END[A-Z ]*PRIVATE KEY-----|\\z)"
  pattern := privateKey
  extent := .wholeMatch
  accepts := fun _ => true

/-- Hides the password of a URL. -/
def urlCredentialsRule : ContentRule where
  name := "URL_CREDENTIALS"
  source := "[a-zA-Z][a-zA-Z0-9+.-]*://[^:/\\s@]+:(?P<secret>[^@\\s/]+)@"
  pattern := urlCredentials
  extent := .secretGroup
  accepts := fun _ => true

/-- Hides the value assigned to a secret word. -/
def assignmentRule : ContentRule where
  name := "ASSIGNMENT"
  source := "(?i)\\b[\\w.-]*?(?:token|secret|passw(?:or)?d|credential|authorization" ++
    "|api[_-]?key|access[_-]?key|private[_-]?key)[\\w.-]*[\"']?\\s*[=:]\\s*[\"']?" ++
    "(?:(?:bearer|basic)\\s+)?(?P<secret>[^\\s,;&\"'\\[\\]]+)"
  pattern := assignment
  extent := .secretGroup
  accepts := isNotAuthScheme

/-- Hides the token behind an authorization scheme. -/
def bearerTokenRule : ContentRule where
  name := "BEARER_TOKEN"
  source := "(?i)\\b(?:bearer|basic)\\s+(?P<secret>[A-Za-z0-9\\-._~+/]\x7B8,\x7D=*)"
  pattern := bearerToken
  extent := .secretGroup
  accepts := fun _ => true

/-- Hides a signed web token. -/
def webTokenRule : ContentRule where
  name := "JWT"
  source := "eyJ[A-Za-z0-9_-]+\\.[A-Za-z0-9_-]+\\.[A-Za-z0-9_-]+"
  pattern := webToken
  extent := .wholeMatch
  accepts := fun _ => true

/-- Hides any token of three long parts. -/
def signedTokenRule : ContentRule where
  name := "SIGNED_TOKEN"
  source := "\\b[A-Za-z0-9_-]\x7B16,\x7D\\.[A-Za-z0-9_-]\x7B16,\x7D\\." ++
    "[A-Za-z0-9_-]\x7B16,\x7D\\b"
  pattern := signedToken
  extent := .wholeMatch
  accepts := fun _ => true

/-- Hides an access key. -/
def accessKeyRule : ContentRule where
  name := "AWS_ACCESS_KEY"
  source := "\\b(?:AKIA|ASIA)[0-9A-Z]\x7B16\x7D\\b"
  pattern := accessKey
  extent := .wholeMatch
  accepts := fun _ => true

/-- Hides a token of a code forge. -/
def forgeTokenRule : ContentRule where
  name := "GITHUB_TOKEN"
  source := "\\bgh[pousr]_[A-Za-z0-9]\x7B36,\x7D\\b"
  pattern := forgeToken
  extent := .wholeMatch
  accepts := fun _ => true

/-- Hides a run that looks like a credential. -/
def opaqueTokenRule : ContentRule where
  name := "OPAQUE_TOKEN"
  source := "[A-Za-z0-9]\x7B24,\x7D"
  pattern := opaqueRun
  extent := .wholeMatch
  accepts := isOpaqueCredential

/-- The built-in content rules. -/
def builtinContentRules : List ContentRule :=
  [privateKeyRule, urlCredentialsRule, assignmentRule, bearerTokenRule, webTokenRule, signedTokenRule,
   accessKeyRule, forgeTokenRule, opaqueTokenRule]

/-- The built-in rules in their order. -/
def builtinRules : List Rule := builtinKeyRules ++ builtinContentRules.map .content

end Periscope.Redaction
