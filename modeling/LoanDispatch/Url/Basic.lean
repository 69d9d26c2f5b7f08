import LoanDispatch.Text.Quoted

/-!
Addresses on the web in their parts, the problems that keep a text from being one, and the written
form of the parts.
-/

set_option autoImplicit false

namespace LoanDispatch

inductive UrlProblem where
  | tooLong
  | control (c : Char) (position : Nat)
  | hostNumbers (host : String)
  | hostGroups (host : String)
  | hostName (host : String)
  | hostNumber (words : String)
  | pathStart
  | doubleSlash
  | colonStart
  deriving DecidableEq

def UrlProblem.message : UrlProblem → String
  | .tooLong => "URL too long"
  | .control c position =>
    "Invalid non-printable ASCII character in URL, " ++ Text.literal c.toString ++ " at position "
      ++ toString position ++ "."
  | .hostNumbers host => "Invalid IPv4 address: " ++ Text.literal host
  | .hostGroups host => "Invalid IPv6 address: " ++ Text.literal host
  | .hostName host => "Invalid IDNA hostname: " ++ Text.literal host
  | .hostNumber words => "Invalid port: " ++ Text.literal words
  | .pathStart => "For absolute URLs, path must be empty or begin with '/'"
  | .doubleSlash => "Relative URLs cannot have a path starting with '//'"
  | .colonStart => "Relative URLs cannot have a path starting with ':'"

structure Url where
  scheme : String
  userInfo : String
  host : String
  /-- The number after the host, when it is not the usual one of the scheme. -/
  number : Option Int
  path : String
  query : Option String
  fragment : Option String

namespace Url

/-- The address as it is asked for: one without a scheme or a host is a path from the root. -/
def target (url : Url) : Url :=
  if url.scheme ≠ "" ∧ url.host ≠ "" then url
  else
    let path := String.ofList ('/' :: url.path.toList.dropWhile (· = '/'))
    { url with
      scheme := "", userInfo := "", host := "", number := none, path := path, fragment := none }

def authority (url : Url) : String :=
  (if url.userInfo = "" then "" else url.userInfo ++ "@")
    ++ (if url.host.toList.contains ':' then "[" ++ url.host ++ "]" else url.host)
    ++ (url.number.map fun number => ":" ++ toString number).getD ""

def text (url : Url) : String :=
  (if url.scheme = "" then "" else url.scheme ++ ":")
    ++ (if url.authority = "" then "" else "//" ++ url.authority)
    ++ url.path
    ++ (url.query.map fun query => "?" ++ query).getD ""
    ++ (url.fragment.map fun fragment => "#" ++ fragment).getD ""

end Url

end LoanDispatch
