import MonitoringUpkeep.Probe.Refusal
import MonitoringUpkeep.Text.Blank

/-!
# Requests

A request to the probes is a line of a method, a path and a version, some lines of header fields, and
a blank line. A line ends with a line feed, wherever that stands in what is sent.
-/

namespace MonitoringUpkeep.Probe

/-- What has arrived: the first line and the lines behind it, without their line feeds. -/
structure Request where
  first : List Char
  behind : List (List Char)

namespace Request

def written (method path : String) : List Char := s!"{method} {path} HTTP/1.1\r\n\r\n".toList

def ofText (cs : List Char) : Request :=
  let lines := cs.splitOnP (· == '\n')
  ⟨lines.headD [], lines.tail⟩

/-- The request line, without the carriage returns at its end. -/
def line (r : Request) : String :=
  String.ofList (r.first.reverse.dropWhile (· == '\r')).reverse

/-! ## Limits -/

/-- The length of the longest line, its line feed counted. -/
def lineLimit : Nat := 65536

/-- The greatest number of lines behind the request line, the blank one counted. -/
def headerLimit : Nat := 100

def isOverlong (r : Request) : Bool := lineLimit ≤ r.first.length

/-- Refuses lines of header fields that are too long, and all of them where they are more than the
    ones allowed. What stands behind a blank line is not looked at. -/
def checkFields : Nat → List (List Char) → Except Refusal Unit
  | _, [] => .ok ()
  | allowed, l :: ls =>
    if lineLimit ≤ l.length then
      .error (.oversized "Line too long"
        s!"got more than {lineLimit} bytes when reading header line")
    else match allowed with
      | 0 => .error (.oversized "Too many headers" s!"got more than {headerLimit} headers")
      | n + 1 => if l.all (· == '\r') && l.length ≤ 1 then .ok () else checkFields n ls

/-! ## The request line -/

/-- The words of a text, which are separated by blanks. -/
def words (cs : List Char) : List String :=
  (cs.splitOnP Text.isBlank).filterMap fun word =>
    if word.isEmpty then none else some (String.ofList word)

/-- The parts of a version: the text behind the slash, and the two texts of up to ten digits that a
    point separates in it. -/
def versionParts? (word : String) : Option (String × List Char × List Char) := do
  let rest ← "HTTP/".toList.isPrefixOf? word.toList
  match rest.splitOnP (· == '.') with
  | [major, minor] =>
    if [major, minor].all fun ds => ds.all Char.isDigit && 0 < ds.length && ds.length ≤ 10 then
      some (String.ofList rest, major, minor)
    else none
  | _ => none

/-- Refuses what is no version, and versions from the second on. -/
def checkVersion (word : String) : Except Refusal Unit :=
  match versionParts? word with
  | none => .error (.malformed s!"Bad request version ({Text.quote word})")
  | some (number, major, _) =>
    if ["", "1"].contains (String.ofList (major.dropWhile (· == '0'))) then .ok ()
    else .error (.unsupportedVersion number)

/-- The method and the path of a request line by its words. The last of three words or more is a
    version, and a line of two words has none. -/
def target (line : String) : List String → Except Refusal (String × String)
  | [method, path] =>
    if method = "GET" then .ok (method, path)
    else .error (.malformed s!"Bad HTTP/0.9 request type ({Text.quote method})")
  | method :: path :: word :: more => do
    checkVersion (more.getLastD word)
    if more.isEmpty then return (method, path)
    else throw (.malformed s!"Bad request syntax ({Text.quote line})")
  | _ => .error (.malformed s!"Bad request syntax ({Text.quote line})")

/-- The path that a request asks for; a request line without words asks for none. -/
def path (r : Request) : Except Refusal (Option String) := do
  if r.isOverlong then throw .overlong
  match words r.line.toList with
  | [] => return none
  | ws =>
    let (method, path) ← target r.line ws
    checkFields headerLimit r.behind
    if method = "GET" then return some path else throw (.unsupported method)

end Request

end MonitoringUpkeep.Probe
