import FlashTicketing.EntityTags
import FlashTicketing.Rewriting

namespace FlashTicketing

open Rewriting

/-!
# Redaction of operator logs

`redact` runs over everything that the operator scripts log: the value of a
password, token, secret or authorization, the password of a database URL and the
token after `Bearer` are replaced, in this order.  The patterns ignore case.
-/

/--
The letter that a character is equal to when case is ignored.  Besides capitals
there are the long s, the Kelvin sign, and the i with and without its dot.
-/
def foldCase (c : Char) : Char :=
  if c = '\u017F' then 's'
  else if c = '\u212A' then 'k'
  else if c = '\u0130' ∨ c = '\u0131' then 'i'
  else c.toLower

namespace Redaction

/-- A literal text in any case. -/
def literal (text : String) : Regex :=
  .chain (text.toList.map fun letter => .one fun c => foldCase c == letter)

/-- One character of a few. -/
def oneOf (characters : List Char) : Regex :=
  .one fun c => characters.contains c

/-- `\s*`. -/
def spaces : Regex :=
  .many isSpace

/-- `\S+`. -/
def word : Regex :=
  .oneOrMore fun c => !isSpace c

/-- `[^...\s]+`. -/
def wordWithout (stop : Char) : Regex :=
  .oneOrMore fun c => !(isSpace c || c == stop)

/-- `[REDACTED]`. -/
def mask : List Char :=
  "[REDACTED]".toList

/-- `(password|token|secret|authorization)(\s*[=:]\s*)\S+`. -/
def keywordPattern : Pattern where
  head :=
    .seq
      (.choice [literal "password", literal "token", literal "secret"]
        (literal "authorization"))
      (.chain [spaces, oneOf ['=', ':'], spaces])
  value := word
  tail := .empty
  spelling := none
  mask := mask

/-- `(postgres(?:ql)?://[^:\s]+:)[^@\s]+@`. -/
def urlPattern : Pattern where
  head :=
    .chain [literal "postgres", .optional (literal "ql"), literal "://",
      wordWithout ':', literal ":"]
  value := wordWithout '@'
  tail := literal "@"
  spelling := none
  mask := mask

/-- `Bearer\s+\S+`. -/
def bearerPattern : Pattern where
  head := .seq (literal "bearer") (.oneOrMore isSpace)
  value := word
  tail := .empty
  spelling := some "Bearer ".toList
  mask := mask

/-- `SECRET_PATTERNS`. -/
def secretPatterns : List Pattern :=
  [keywordPattern, urlPattern, bearerPattern]

end Redaction

/-- `redact(value)`. -/
def redact (value : String) : String :=
  String.ofList
    (Redaction.secretPatterns.foldl (fun text pattern => pattern.sub text)
      value.toList)

end FlashTicketing
