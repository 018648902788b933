import MetaSchema.Text.Split
import MetaSchema.Url.Basic
import MetaSchema.Url.Domain
import MetaSchema.Value.Reference

/-!
# Reading URLs

* `tidy`: the text without what is skipped in it.
* `Host.ofChars?`, `port?`, `authority?`: from a host to all that stands between `//` and the path.
* `segmentsOf`: the segments of a path, with `.` and `..` followed.
* `file?`: what follows `file:`.
* `Url.ofString?`: a whole absolute URL.

A text is cut from the outside in: the fragment, the query, the scheme, the authority and the path.
-/

namespace MetaSchema.Url

open Text

/-- The text without blanks and controls at its ends, and without tabs and line ends. -/
def tidy (cs : List Char) : List Char :=
  let skipped (c : Char) := decide (c.toNat ≤ 0x20)
  ((cs.dropWhile skipped).reverse.dropWhile skipped).reverse.filter
    fun c => c ≠ '\t' ∧ c ≠ '\n' ∧ c ≠ '\r'

/-- A separator of segments. -/
def isSlash (special : Bool) (c : Char) : Bool := c == '/' || (special && c == '\\')

/-- The text before the first separator and the text after it, if there is one. -/
def cutFirst (sep : Char) (cs : List Char) : List Char × Option (List Char) :=
  match splitFirst? sep cs with
  | none => (cs, none)
  | some (before, after) => (before, some after)

/-! ## Authorities -/

/-- Characters that a host does not have if it is not looked up. -/
def isForbiddenInHost (c : Char) : Bool := "\x00\t\n\r #/:<>?@[\\]^|".toList.contains c

/-- Reads a host. One of a special scheme is an address or the name of a domain. -/
def Host.ofChars? (special : Bool) (cs : List Char) : Option Host :=
  match cs with
  | '[' :: r => if r.getLast? = some ']' then (ipv6? r.dropLast).map .ipv6 else none
  | _ =>
    if special then
      (domain? cs).bind fun name =>
        if name.isEmpty then none
        else if endsInNumber name then (ipv4? name).map .ipv4
        else some (.domain (String.ofList name))
    else if cs.any isForbiddenInHost then none
    else some (.domain (String.ofList (Part.plain.encode cs)))

/-- The host and what follows the first colon outside brackets, if there is one. -/
def cutPort (bracketed : Bool) : List Char → List Char × Option (List Char)
  | [] => ([], none)
  | c :: r =>
    if c = ':' ∧ ¬ bracketed then ([], some r)
    else
      let (host, port) := cutPort (c == '[' || (bracketed && c != ']')) r
      (c :: host, port)

/-- Reads a port, which may be empty, up to the end or a backslash. -/
def port? (cs : List Char) : Option (Option Nat × List Char) :=
  let digits := cs.takeWhile isDigit
  let rest := cs.dropWhile isDigit
  if rest.isEmpty ∨ rest.head? = some '\\' then
    if digits.isEmpty then some (none, rest)
    else ((natural? digits).filter (· ≤ 0xFFFF)).map fun n => (some n, rest)
  else none

/-- Reads an authority. What is left of it after the port starts the path. An empty host has neither
credentials nor a port, and a special scheme has no empty host. -/
def authority? (scheme : String) (cs : List Char) : Option (Authority × List Char) :=
  let (credentials, rest) := (splitLast? '@' cs).getD ([], cs)
  let (user, password) := cutFirst ':' credentials
  let (host, port) := cutPort false rest
  let user := String.ofList (Part.userinfo.encode user)
  let password := String.ofList (Part.userinfo.encode (password.getD []))
  let bare := cs ≠ ['@'] ∧ port = none ∧ user = "" ∧ password = ""
  if host.isEmpty ∧ (isSpecial scheme ∨ ¬ bare) then none
  else
    (Host.ofChars? (isSpecial scheme) host).bind fun host =>
      (port? (port.getD [])).map fun (port, rest) =>
        (⟨user, password, host, port.filter (defaultPorts.lookup scheme ≠ some ·)⟩, rest)

/-! ## Paths -/

/-- A segment with its escaped dots as dots. -/
def plainDots : List Char → List Char
  | '%' :: '2' :: e :: r =>
    if e = 'e' ∨ e = 'E' then '.' :: plainDots r else '%' :: plainDots ('2' :: e :: r)
  | c :: r => c :: plainDots r
  | [] => []

/-- A letter followed by one of the marks of a drive. -/
def isDrive (marks : List Char) : List Char → Bool
  | [letter, mark] => letter.isAlpha && marks.contains mark
  | _ => false

/-- Whether a segment starts as the drive of a file does, to its end or to a backslash. -/
def startsAsDrive : List Char → Bool
  | letter :: mark :: r =>
    isDrive [':', '|'] [letter, mark] && (r.isEmpty || r.head? == some '\\')
  | _ => false

/-- The segments, in reverse, of the directory above. What starts as a drive is never left. -/
def parent : List String → List String
  | [] => []
  | s :: r => if startsAsDrive s.toList then s :: r else r

/-- Follows a segment from the segments before it, which are given in reverse. -/
def followSegment (file last : Bool) (done : List String) (cs : List Char) : List String :=
  if plainDots cs = ['.', '.'] then if last then "" :: parent done else parent done
  else if plainDots cs = ['.'] then if last then "" :: done else done
  else if file && done.isEmpty && isDrive [':', '|'] cs then
    String.ofList (cs.take 1 ++ [':']) :: done
  else String.ofList (Part.path.encode cs) :: done

/-- Follows the segments of a path one after the other. -/
def followSegments (file : Bool) : List String → List (List Char) → List String
  | done, [] => done.reverse
  | done, [cs] => (followSegment file true done cs).reverse
  | done, cs :: r => followSegments file (followSegment file false done cs) r

/-- The texts between separators. -/
def cutSegments (special : Bool) (cs : List Char) : List (List Char) :=
  (cs.map fun c => if isSlash special c then '/' else c).splitOn '/'

/-- The segments of a path; one separator may stand before them. A special scheme has no path
without segments. -/
def segmentsOf (special file : Bool) (cs : List Char) : List String :=
  match cs with
  | [] => if special then [""] else []
  | c :: r => followSegments file [] (cutSegments special (if isSlash special c then r else c :: r))

/-! ## Files -/

/-- The segments without empty ones at the start, but for the last segment. -/
def trimEmpty : List String → List String
  | "" :: s :: r => trimEmpty (s :: r)
  | names => names

/-- The path of a file with the segments that it is written in. -/
def filePath (names : List String) : Path := .segments (trimEmpty names)

/-- Reads the host and the path after `file://`. This machine is the empty host, and a drive is on
this machine. -/
def fileOnHost? (cs : List Char) : Option (Authority × Path) :=
  let host := cs.takeWhile (!isSlash true ·)
  let names := segmentsOf true true (cs.dropWhile (!isSlash true ·))
  if isDrive [':', '|'] host then some ({}, filePath (segmentsOf true true cs))
  else if host.isEmpty then some ({}, filePath names)
  else
    (Host.ofChars? true host).map fun host =>
      if host = .domain "localhost" ∨ isDrive [':'] ((names.head?.getD "").toList) then
        ({}, filePath names)
      else ({ host }, filePath names)

/-- Reads what follows `file:`. -/
def file? (cs : List Char) : Option (Authority × Path) :=
  if (cs.take 2).length = 2 ∧ (cs.take 2).all (isSlash true) then fileOnHost? (cs.drop 2)
  else some ({}, filePath (segmentsOf true true cs))

/-! ## Whole URLs -/

/-- Reads an authority and the path after it. -/
def afterSlashes? (scheme : String) (cs : List Char) : Option (Option Authority × Path) :=
  let special := isSpecial scheme
  (authority? scheme (cs.takeWhile (!isSlash special ·))).map fun (a, rest) =>
    (some a, .segments (segmentsOf special false (rest ++ cs.dropWhile (!isSlash special ·))))

/-- Reads what follows the colon of a scheme, up to a query. -/
def hierarchy? (scheme : String) (cs : List Char) : Option (Option Authority × Path) :=
  if scheme = "file" then (file? cs).map fun (a, path) => (some a, path)
  else if isSpecial scheme then afterSlashes? scheme (cs.dropWhile (isSlash true))
  else
    match cs with
    | '/' :: '/' :: r => afterSlashes? scheme r
    | '/' :: _ => some (none, .segments (segmentsOf false false cs))
    | _ => some (none, .plain (String.ofList (Part.plain.encode cs)))

/-- Reads an absolute URL. -/
def ofString? (s : String) : Option Url :=
  let (rest, fragment) := cutFirst '#' (tidy s.toList)
  let (rest, query) := cutFirst '?' rest
  (splitFirst? ':' rest).bind fun (scheme, rest) =>
    if Value.isScheme scheme then
      let scheme := String.ofList (scheme.map Char.toLower)
      let queryPart := if isSpecial scheme then Part.specialQuery else Part.query
      (hierarchy? scheme rest).map fun (authority, path) =>
        { scheme, authority, path
          query := query.map fun cs => String.ofList (queryPart.encode cs)
          fragment := fragment.map fun cs => String.ofList (Part.fragment.encode cs) }
    else none

example : (ofString? " WS:u:p@0x7f.1:80/a/./b/../é?q#f").map text =
    some "ws://u:p@127.0.0.1/a/%C3%A9?q#f" := by decide +kernel

end MetaSchema.Url
