import AgentLint.Fault

/-!
# Texts in files

A file as a text: its bytes are UTF-8, and every line end is read as a line feed.
-/

namespace AgentLint.Host

/-- The text of a file. -/
def readText (h : Host) (path : String) : Except Fault String :=
  match h.readBytes path with
  | .error e => .error (.file e)
  | .ok bs =>
    match Utf8.decode bs with
    | .error r => .error (.decoding r)
    | .ok s => .ok (Utf8.universalNewlines s)

/-- The JSON value of a file. -/
def readJson (h : Host) (path : String) : Except Fault Value :=
  match h.readText path with
  | .error e => .error e
  | .ok s => (Json.read s).mapError .json

end AgentLint.Host
