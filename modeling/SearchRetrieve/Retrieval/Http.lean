import SearchRetrieve.Retrieval.Exchange
import SearchRetrieve.Text.Blank
import SearchRetrieve.Text.Digits

/-!
# HTTP

What a client makes of the response to a request, and what it asks a server for. Only a status
between 200 and 299 brings a page.
-/
namespace SearchRetrieve.Http

def reasons : List (Nat × String) :=
  [(100, "Continue"), (101, "Switching Protocols"), (102, "Processing"), (103, "Early Hints"),
    (200, "OK"), (201, "Created"), (202, "Accepted"), (203, "Non Authoritative Information"),
    (204, "No Content"), (205, "Reset Content"), (206, "Partial Content"), (207, "Multi-Status"),
    (208, "Already Reported"), (226, "IM Used"), (300, "Multiple Choices"),
    (301, "Moved Permanently"), (302, "Found"), (303, "See Other"), (304, "Not Modified"),
    (305, "Use Proxy"), (307, "Temporary Redirect"), (308, "Permanent Redirect"),
    (400, "Bad Request"), (401, "Unauthorized"), (402, "Payment Required"), (403, "Forbidden"),
    (404, "Not Found"), (405, "Method Not Allowed"), (406, "Not Acceptable"),
    (407, "Proxy Authentication Required"), (408, "Request Timeout"), (409, "Conflict"),
    (410, "Gone"), (411, "Length Required"), (412, "Precondition Failed"),
    (413, "Payload Too Large"), (414, "URI Too Long"), (415, "Unsupported Media Type"),
    (416, "Range Not Satisfiable"), (417, "Expectation Failed"), (418, "I'm a teapot"),
    (421, "Misdirected Request"), (422, "Unprocessable Entity"), (423, "Locked"),
    (424, "Failed Dependency"), (425, "Too Early"), (426, "Upgrade Required"),
    (428, "Precondition Required"), (429, "Too Many Requests"),
    (431, "Request Header Fields Too Large"), (451, "Unavailable For Legal Reasons"),
    (500, "Internal Server Error"), (501, "Not Implemented"), (502, "Bad Gateway"),
    (503, "Service Unavailable"), (504, "Gateway Timeout"), (505, "HTTP Version Not Supported"),
    (506, "Variant Also Negotiates"), (507, "Insufficient Storage"), (508, "Loop Detected"),
    (510, "Not Extended"), (511, "Network Authentication Required")]

def statusText (status : Nat) : String :=
  toString status ++ " " ++ (reasons.lookup status).getD "<unknown status code>"

/-- What a response brings. A status that announces no content has no body. -/
def reply (status : Nat) (body : String) : Reply :=
  if 200 ≤ status ∧ status < 300 then .ok (if status = 204 then "" else body)
  else .error (.transport ("Request failed with status: " ++ statusText status))

def isPrintableAscii (c : Char) : Bool := 0x21 ≤ c.toNat && c.toNat ≤ 0x7E

def isPathChar (c : Char) : Bool :=
  isPrintableAscii c && !"\"#<>?\x60\x7b\x7d".toList.contains c

def isQueryChar (c : Char) : Bool := isPrintableAscii c && !"\"#<>'".toList.contains c

/-- Without the breaks that may stand anywhere in a URL and the blanks at its end. -/
def withoutBreaks (cs : List Char) : List Char :=
  let kept := cs.filter fun c => c != '\t' && c != '\n' && c != '\r'
  (kept.reverse.dropWhile (·.toNat ≤ 0x20)).reverse

/-- A segment with each written form of a dot as a dot, if it is made of those only. -/
def dots (segment : String) : Nat :=
  match Text.asciiLower segment with
  | "." | "%2e" => 1
  | ".." | ".%2e" | "%2e." | "%2e%2e" => 2
  | _ => 0

/-- The segments of a path, with one dot for staying and two for going up; `above` are those in
front, the last one first. -/
def resolveSegments (above : List String) : List String → List String
  | [] => above.reverse
  | [last] =>
    match dots last with
    | 0 => (last :: above).reverse
    | 1 => ("" :: above).reverse
    | _ => ("" :: above.tail).reverse
  | segment :: rest =>
    match dots segment with
    | 0 => resolveSegments (segment :: above) rest
    | 1 => resolveSegments above rest
    | _ => resolveSegments above.tail rest

def encoded (plain : Char → Bool) (cs : List Char) : List Char :=
  cs.flatMap (Text.percentChar plain)

def pathText (path : List Char) : String :=
  let path := path.map fun c => if c = '\\' then '/' else c
  let path := if path.head? = some '/' then path.tail else path
  let segments := (path.splitOn '/').map fun s => String.ofList (encoded isPathChar s)
  "/" ++ String.intercalate "/" (resolveSegments [] segments)

/-- What a client asks a server for, from the part of a URL that follows the host. -/
def target (afterHost : String) : String :=
  let (address, _) := Text.cut (· == '#') (withoutBreaks afterHost.toList)
  let (path, query) := Text.cut (· == '?') address
  pathText path ++
    match query with
    | some query => "?" ++ String.ofList (encoded isQueryChar query)
    | none => ""

end SearchRetrieve.Http
