import MetaSchema.Text.Encoding
import MetaSchema.Text.Quoted
import MetaSchema.Url.Address
import MetaSchema.Url.Percent

/-!
# URLs

* `Host`, `Authority`, `Path`: the parts of a URL that have parts of their own.
* `Url`: an absolute URL, with all that must be escaped in it escaped.
* `Url.text`: the URL as it is written.
* `Url.withoutCredentials`: the URL without the user and the password in it.
* `Url.isWeb`, `Url.isSendable`: which URLs a request can be made for.
-/

namespace MetaSchema

namespace Url

open Text

inductive Host where
  | domain (name : String)
  | ipv4 (address : Nat)
  | ipv6 (pieces : List Nat)
deriving DecidableEq, Repr

def Host.text : Host → String
  | domain name => name
  | ipv4 address => String.ofList (ipv4Text address)
  | ipv6 pieces => String.ofList ('[' :: ipv6Text pieces ++ [']'])

structure Authority where
  user : String := ""
  password : String := ""
  host : Host := .domain ""
  /-- The port, unless it is the default one of the scheme. -/
  port : Option Nat := none
deriving DecidableEq, Repr

namespace Authority

/-- The user and the password, which are not written if both are empty. -/
def credentials (a : Authority) : String :=
  if a.user = "" ∧ a.password = "" then ""
  else a.user ++ (if a.password = "" then "" else ":" ++ a.password) ++ "@"

def text (a : Authority) : String :=
  a.credentials ++ a.host.text ++ ((a.port.map fun n => s!":{n}").getD "")

/-- The authority without its user and password. They stay if neither can be read as UTF-8. -/
def withoutCredentials (a : Authority) : Authority :=
  let readable (s : String) := (Encoding.utf8.decode (percentDecode s.toList)).isSome
  if readable a.user ∧ (a.user ≠ "" ∨ readable a.password) then
    { a with user := "", password := "" }
  else a

end Authority

inductive Path where
  /-- A path that has no segments. -/
  | plain (text : String)
  | segments (names : List String)
deriving DecidableEq, Repr

namespace Path

def text : Path → String
  | plain text => text
  | segments names => String.join (names.map ("/" ++ ·))

/-- A path that would be taken for an authority if it stood without one. -/
def needsGuard : Path → Bool
  | segments ("" :: _ :: _) => true
  | _ => false

end Path

/-- The default ports of the special schemes other than `file`. -/
def defaultPorts : List (String × Nat) :=
  [("http", 80), ("https", 443), ("ws", 80), ("wss", 443), ("ftp", 21)]

/-- A special scheme has hosts that are looked up, and writes `\` as `/`. -/
def isSpecial (scheme : String) : Bool := scheme == "file" || (defaultPorts.lookup scheme).isSome

end Url

/-- An absolute URL. -/
structure Url where
  scheme : String
  authority : Option Url.Authority
  path : Url.Path
  query : Option String
  fragment : Option String
deriving DecidableEq, Repr

namespace Url

def text (u : Url) : String :=
  let authority := match u.authority with
    | some a => "//" ++ a.text
    | none => if u.path.needsGuard then "/." else ""
  u.scheme ++ ":" ++ authority ++ u.path.text ++ ((u.query.map ("?" ++ ·)).getD "") ++
    ((u.fragment.map ("#" ++ ·)).getD "")

instance : ToString Url := ⟨text⟩

def withoutCredentials (u : Url) : Url :=
  { u with authority := u.authority.map Authority.withoutCredentials }

/-- A URL of the web. -/
def isWeb (u : Url) : Bool := u.scheme == "http" || u.scheme == "https"

/-- The characters that a host may have and a request for it may not. -/
def unsendable : List Char := "\"\x60\x7b\x7d".toList

/-- The longest URL in a request, in octets. -/
def maxLength : Nat := 0xFFFE

/-- Whether a request can be made for the URL. -/
def isSendable (u : Url) : Bool :=
  u.text.utf8ByteSize ≤ maxLength &&
    (u.authority.all fun a => a.host.text.toList.all (!unsendable.contains ·))

end Url

end MetaSchema
