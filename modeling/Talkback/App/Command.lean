import Talkback.Text.Blank

/-!
Console commands, one per line. A line whose only word is a keyword (in any ASCII case) is
that command; `play` takes the rest of the line as a path; a blank line is empty; anything
else is text for the server, sent as typed, without its line ending.
-/

namespace Talkback.App

/-- A console command. -/
inductive Command where
  | record
  | stream
  | relay
  | stop
  | play (path : String)
  | hush
  | stats
  | help
  | quit
  | text (line : String)
  | empty
  deriving DecidableEq, Repr, Inhabited

namespace Command

/-- The line without its trailing carriage returns and line feeds. -/
def stripEnding (line : String) : String :=
  String.ofList ((line.toList.reverse.dropWhile fun c => c = '\r' ∨ c = '\n').reverse)

/-- The command named by the first word of a line, in lower case, and the trimmed rest of the
line; the line itself is sent as text when they name none. -/
def ofWords (word rest line : String) : Command :=
  match word, rest.isEmpty with
  | "record", true => .record
  | "stream", true => .stream
  | "relay", true => .relay
  | "stop", true => .stop
  | "play", false => .play rest
  | "hush", true => .hush
  | "stats", true => .stats
  | "help", true | "?", true => .help
  | "quit", true | "exit", true => .quit
  | _, _ => .text line

/-- Read a console line. -/
def parse (line : String) : Command :=
  let line := stripEnding line
  let t := Text.trimBlank line
  if t.isEmpty then .empty
  else
    let cs := t.toList
    let word := String.ofList (cs.takeWhile fun c => !Text.isBlank c)
    let rest := Text.trimBlank (String.ofList ((cs.dropWhile fun c => !Text.isBlank c).drop 1))
    ofWords (word.map Char.toLower) rest line

/-- The help text. -/
def helpText : String :=
  "commands:\n  record        capture, upload the recording on stop\n" ++
  "  stream        capture with a live chunked upload\n" ++
  "  relay         capture, send frames over the socket\n" ++
  "  stop          stop the current capture\n" ++
  "  play <file>   play a local WAV file\n" ++
  "  hush          stop playback\n" ++
  "  stats         print pipeline counters\n" ++
  "  quit          disconnect and exit\n" ++
  "anything else is sent as a text message"

end Command

end Talkback.App
