import MetaSchema.Session.Basic
import MetaSchema.Url.Parser

/-!
# Schemas from the network

* `Reply`, `Network`: what asking for a URL gives.
* `Reply.statusText`: the status of a reply, as messages show it.
* `Network.fetch`: asking for a schema document.
* `Network.source`: the schemas below a base URL, named by `SchemaIdentifier.fileName`.
* `Network.unreachable`: a network on which no request arrives.
-/

namespace MetaSchema

/-- The answer to a request. -/
structure Reply where
  status : Nat
  body : Text.Octets
deriving DecidableEq, Repr

namespace Reply

/-- The names of the statuses that are no success. -/
def statusNames : List (Nat × String) :=
  [(300, "Multiple Choices"), (301, "Moved Permanently"), (302, "Found"), (303, "See Other"),
    (304, "Not Modified"), (305, "Use Proxy"), (307, "Temporary Redirect"),
    (308, "Permanent Redirect"), (400, "Bad Request"), (401, "Unauthorized"),
    (402, "Payment Required"), (403, "Forbidden"), (404, "Not Found"),
    (405, "Method Not Allowed"), (406, "Not Acceptable"),
    (407, "Proxy Authentication Required"), (408, "Request Timeout"), (409, "Conflict"),
    (410, "Gone"), (411, "Length Required"), (412, "Precondition Failed"),
    (413, "Payload Too Large"), (414, "URI Too Long"), (415, "Unsupported Media Type"),
    (416, "Range Not Satisfiable"), (417, "Expectation Failed"), (418, "I'm a teapot"),
    (421, "Misdirected Request"), (422, "Unprocessable Entity"), (423, "Locked"),
    (424, "Failed Dependency"), (426, "Upgrade Required"), (428, "Precondition Required"),
    (429, "Too Many Requests"), (431, "Request Header Fields Too Large"),
    (451, "Unavailable For Legal Reasons"), (500, "Internal Server Error"),
    (501, "Not Implemented"), (502, "Bad Gateway"), (503, "Service Unavailable"),
    (504, "Gateway Timeout"), (505, "HTTP Version Not Supported"),
    (506, "Variant Also Negotiates"), (507, "Insufficient Storage"), (508, "Loop Detected"),
    (510, "Not Extended"), (511, "Network Authentication Required")]

/-- The status with its own name, whatever name the reply gave it. -/
def statusText (r : Reply) : String :=
  s!"{r.status} " ++ (statusNames.lookup r.status).getD "<unknown status code>"

/-- What a reply gives as a schema document, which is known by the URL as it was written. -/
def opened (r : Reply) (written : String) : Except SourceError Opened :=
  if r.status = 404 then .error .notFound
  else if 200 ≤ r.status ∧ r.status < 300 then .ok ⟨written, .ok r.body⟩
  else .error (.failed s!"{written} answered {r.statusText}")

end Reply

/-- What asking for each URL gives; there is no reply if the request does not arrive. -/
abbrev Network := Url → Option Reply

namespace Network

/-- Asks for a schema document. No request is made for a text that is no URL, or for a URL that is
not one of the web. -/
def fetch (network : Network) (written : String) : Except SourceError Opened :=
  match Url.ofString? written with
  | none => .error (.failed "builder error")
  | some url =>
    let url := url.withoutCredentials
    if url.isWeb ∧ url.isSendable then
      match network url with
      | none => .error (.failed s!"error sending request for url ({url})")
      | some reply => reply.opened written
    else .error (.failed s!"builder error for url ({url})")

/-- A base URL without the slashes at its end. -/
def trimSlashes (url : String) : String :=
  String.ofList (url.toList.reverse.dropWhile (· == '/')).reverse

/-- The schemas below a base URL. -/
def source (network : Network) (baseUrl : String) : Source := fun id =>
  network.fetch (trimSlashes baseUrl ++ "/" ++ id.fileName)

/-- The network on which no request arrives. -/
def unreachable : Network := fun _ => none

end Network

end MetaSchema
