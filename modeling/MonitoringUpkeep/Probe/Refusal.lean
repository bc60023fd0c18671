import MonitoringUpkeep.Text.Quoted

/-!
# Refusals

The reasons for which a request to the probes is not answered as it asks, each with the page that is
sent back in its stead.
-/

namespace MonitoringUpkeep.Probe

/-- A reason to refuse a request. -/
structure Refusal where
  status : Nat
  message : String
  explanation : String

namespace Refusal

/-- A request line that does not come to a method and a path. -/
def malformed (message : String) : Refusal :=
  ⟨400, message, "Bad request syntax or unsupported method"⟩

def unsupported (method : String) : Refusal :=
  ⟨501, s!"Unsupported method ({Text.quote method})", "Server does not support this operation"⟩

def unsupportedVersion (number : String) : Refusal :=
  ⟨505, s!"Invalid HTTP version ({number})", "Cannot fulfill request"⟩

def overlong : Refusal := ⟨414, "Request-URI Too Long", "URI is too long"⟩

def oversized (message explanation : String) : Refusal := ⟨431, message, explanation⟩

def pageChar (c : Char) : List Char :=
  if c = '&' then "&amp;".toList else if c = '<' then "&lt;".toList
  else if c = '>' then "&gt;".toList else [c]

def page (r : Refusal) : String :=
  let shown (s : String) := String.ofList (s.toList.flatMap pageChar)
  "\n".intercalate [
    "<!DOCTYPE HTML>",
    "<html lang=\"en\">",
    "    <head>",
    "        <meta charset=\"utf-8\">",
    "        <title>Error response</title>",
    "    </head>",
    "    <body>",
    "        <h1>Error response</h1>",
    s!"        <p>Error code: {r.status}</p>",
    s!"        <p>Message: {shown r.message}.</p>",
    s!"        <p>Error code explanation: {r.status} - {shown r.explanation}.</p>",
    "    </body>",
    "</html>",
    ""]

end Refusal

end MonitoringUpkeep.Probe
