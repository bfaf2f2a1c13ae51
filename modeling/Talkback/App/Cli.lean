/-!
The console program's command line.

It takes three options: `--config <FILE>` (also `--config=FILE`), `--list-devices` and
`--write-default-config`, besides `-h`/`--help` and `-V`/`--version`. Arguments are read
left to right and the first problem met ends the reading.

`--config` without `=` waits for its value: the next argument that does not look like an
option. The value is taken when the next option is met or the line ends; taking it fails
when it is missing or empty, or when `--config` was already taken. An option that is met
takes the waiting value first, so a refusal of that value comes before the option's own
effect (help and version included). An unknown option, or an argument that is not an
option, is refused, and the waiting value is then taken quietly, its own refusal dropped.
After `--` every argument is refused as unexpected. A flag given a value with `=`, or given
twice, is refused.

A refusal shows the message, a tip naming the closest known long option when one is close
enough, the usage and a pointer to the help; it exits with status 2. The usage lists the
options taken so far, in the order they were taken (an unknown long option also counts the
option its tip names, and a flag given a value counts itself), or `[OPTIONS]` when there are
none; a second use and an unknown short option always show `[OPTIONS]`, and a missing value
shows no usage.
-/

namespace Talkback.App

/-- What the command line asks for. -/
structure Options where
  config : Option String := none
  listDevices : Bool := false
  writeDefault : Bool := false
  deriving DecidableEq, Repr, Inhabited

/-- How reading the command line ends. -/
inductive Invocation where
  | run (o : Options)
  | help
  | version
  /-- An error message, a tip, and the usage to show, if any. -/
  | refused (message : String) (tip : Option String) (usage : Option String)
  deriving DecidableEq, Repr, Inhabited

/-- The program's name. -/
def programName : String := "voxlink"

/-- What `--version` prints. -/
def versionText : String := programName ++ " 0.3.0-dev.1"

/-- What `--help` prints. -/
def helpLines : List String :=
  ["Edge voice client", "", "Usage: voxlink [OPTIONS]", "", "Options:",
   "      --config <FILE>         Settings file (default: $VOXLINK_CONFIG, then the user config directory)",
   "      --list-devices          Print audio devices and exit",
   "      --write-default-config  Write a settings file with default values and exit",
   "  -h, --help                  Print help",
   "  -V, --version               Print version"]

/-- The long names a misspelt option is compared with, in order. -/
def longNames : List String := ["config", "list-devices", "write-default-config", "help", "version"]

/-- Similarity of two words in the Jaro measure, as a fraction `(num, den)`: characters
match when equal and at most half the longer length less one apart, each used once;
half the matched pairs out of order count as transpositions. -/
def jaro (a b : List Char) : Nat × Nat :=
  if a.isEmpty || b.isEmpty then (if a.isEmpty && b.isEmpty then (1, 1) else (0, 1))
  else
    let range := max a.length b.length / 2 - 1
    let step (acc : List Bool × List Bool × Nat) (c : Char) : List Bool × List Bool × Nat :=
      let (fa, fb, i) := acc
      let hi := min b.length (i + range + 1)
      match (List.range hi).find? (fun j => i - range ≤ j && b.getD j c == c && !fb.getD j true) with
      | some j => (fa ++ [true], fb.set j true, i + 1)
      | none => (fa ++ [false], fb, i + 1)
    let (fa, fb, _) := a.foldl step ([], List.replicate b.length false, 0)
    let ma := (a.zip fa).filterMap fun (c, f) => if f then some c else none
    let mb := (b.zip fb).filterMap fun (c, f) => if f then some c else none
    let m := ma.length
    let t := ((ma.zip mb).filter fun (x, y) => x != y).length / 2
    if m = 0 then (0, 1)
    else (m * m * b.length + m * m * a.length + (m - t) * a.length * b.length,
      3 * a.length * b.length * m)

/-- The known long name most like `name`, if one is more than 0.7 alike; of equals, the
later. -/
def closest (name : String) : Option String :=
  let scored := longNames.map fun n => (n, jaro name.toList n.toList)
  let close := scored.filter fun (_, (p, q)) => 10 * p > 7 * q
  close.foldl (fun best (n, (p, q)) =>
    match best with
    | some (_, (p', q')) => if p * q' ≥ p' * q then some (n, (p, q)) else best
    | none => some (n, (p, q))) none |>.map (·.1)

/-- An option that can be taken. -/
inductive Flag where
  | config
  | listDevices
  | writeDefault
  | help
  | version
  deriving DecidableEq, Repr

/-- The option as the usage line shows it. -/
def Flag.usageText : Flag → String
  | .config => "--config <FILE>"
  | .listDevices => "--list-devices"
  | .writeDefault => "--write-default-config"
  | .help => "--help"
  | .version => "--version"

/-- The option a known long name stands for. -/
def Flag.ofLong? (name : String) : Option Flag :=
  if name == "config" then some .config
  else if name == "list-devices" then some .listDevices
  else if name == "write-default-config" then some .writeDefault
  else if name == "help" then some .help
  else if name == "version" then some .version
  else none

/-- The usage line for the options taken, in order and each once. -/
def usageOf (taken : List Flag) : String :=
  match taken.eraseDups with
  | [] => programName ++ " [OPTIONS]"
  | fs => String.intercalate " " (programName :: fs.map Flag.usageText)

/-- The refusal of a missing or empty value. -/
def missingValue : Invocation :=
  .refused "a value is required for '--config <FILE>' but none was supplied" none none

/-- The refusal of a second use of `f`. -/
def repeated (f : Flag) : Invocation :=
  .refused ("the argument '" ++ f.usageText ++ "' cannot be used multiple times") none (some (usageOf []))

/-- The refusal of an unknown or unexpected argument. -/
def unexpected (arg : String) (tip : Option String) (usage : String) : Invocation :=
  .refused ("unexpected argument '" ++ arg ++ "' found") tip (some usage)

/-- The refusal of a value given to the flag `f`, with the options taken before it. -/
def flagValue (f : Flag) (v : String) (taken : List Flag) : Invocation :=
  .refused ("unexpected value '" ++ v ++ "' for '" ++ f.usageText ++ "' found; no more were expected") none
    (some (usageOf (taken ++ [f])))

/-- Split `--name=value` after its dashes into the name and the value, if any. -/
def splitLong (body : String) : String × Option String :=
  match body.splitOn "=" with
  | n :: v :: vs => (n, some (String.intercalate "=" (v :: vs)))
  | _ => (body, none)

/-- The state of reading: the options found, the options taken in order, the values waiting
for `--config` (none when it waits for nothing), and whether `--` was met. -/
structure Reading where
  options : Options := {}
  taken : List Flag := []
  waiting : Option (List String) := none
  trailing : Bool := false
  deriving DecidableEq, Repr, Inhabited

namespace Reading

/-- Take the value waiting for `--config`. It stops waiting whatever happens; a second use
drops the first one, and an empty value counts as taken before it is refused. -/
def settle (r : Reading) : Reading × Option Invocation :=
  match r.waiting with
  | none => (r, none)
  | some [] => ({ r with waiting := none }, some missingValue)
  | some (v :: _) =>
    let r := { r with waiting := none }
    if r.options.config.isSome then
      ({ r with taken := r.taken.filter (· != .config), options := { r.options with config := none } },
        some (repeated .config))
    else
      let r := { r with taken := r.taken ++ [.config] }
      if v.isEmpty then (r, some missingValue)
      else ({ r with options := { r.options with config := some v } }, none)

/-- Take the waiting value, stopping at its refusal. -/
def resolve (r : Reading) : Except Invocation Reading :=
  match r.settle with
  | (_, some refusal) => .error refusal
  | (r, none) => .ok r

/-- Take the flag `f` after the waiting value. -/
def takeFlag (r : Reading) (f : Flag) (isSet : Options → Bool) (set : Options → Options) :
    Except Invocation Reading := do
  let r ← r.resolve
  if isSet r.options then throw (repeated f)
  return { r with options := set r.options, taken := r.taken ++ [f] }

/-- Refuse an argument that is not an option. -/
def positional (r : Reading) (a : String) : Invocation :=
  unexpected a none (usageOf r.settle.1.taken)

/-- Read one long option `--body`. -/
def long (r : Reading) (body : String) : Except Invocation Reading :=
  let (name, value) := splitLong body
  match Flag.ofLong? name, value with
  | none, _ =>
    let r := r.settle.1
    let tip := closest name
    let taken := match tip.bind Flag.ofLong? with
      | some f => if r.taken.contains f then r.taken else r.taken ++ [f]
      | none => r.taken
    .error (unexpected ("--" ++ name) (tip.map fun n => "a similar argument exists: '--" ++ n ++ "'")
      (usageOf taken))
  | some .config, some v => do
    let r ← r.resolve
    { r with waiting := some [v] }.resolve
  | some .config, none => do
    let r ← r.resolve
    return { r with waiting := some [] }
  | some f, some v => .error (flagValue f v r.taken)
  | some .help, none => do
    let _ ← r.resolve
    throw .help
  | some .version, none => do
    let _ ← r.resolve
    throw .version
  | some .listDevices, none => r.takeFlag .listDevices (·.listDevices) ({ · with listDevices := true })
  | some .writeDefault, none => r.takeFlag .writeDefault (·.writeDefault) ({ · with writeDefault := true })

/-- Read short options `-hV…`; the first one decides. -/
def short (r : Reading) : List Char → Except Invocation Reading
  | [] => .ok r
  | 'h' :: _ => do
    let _ ← r.resolve
    throw .help
  | 'V' :: _ => do
    let _ ← r.resolve
    throw .version
  | c :: _ => .error (unexpected ("-" ++ String.singleton c) none (usageOf []))

/-- Read one argument. -/
def step (r : Reading) (a : String) : Except Invocation Reading :=
  if r.trailing then .error (r.positional a)
  else if a == "--" then do
    let r ← r.resolve
    return { r with trailing := true }
  else if a.startsWith "--" then r.long (a.drop 2).toString
  else if a.startsWith "-" && a.length > 1 then r.short (a.drop 1).toString.toList
  else if r.waiting == some [] then .ok { r with waiting := some [a] }
  else .error (r.positional a)

/-- Read the arguments left to right, then take the waiting value. -/
def readAll (r : Reading) : List String → Invocation
  | [] =>
    match r.resolve with
    | .ok r => .run r.options
    | .error refusal => refusal
  | a :: rest =>
    match r.step a with
    | .ok r => readAll r rest
    | .error refusal => refusal

end Reading

/-- Read a command line. -/
def Invocation.parse (args : List String) : Invocation := Reading.readAll {} args

/-- What a refusal prints. -/
def refusalLines (message : String) (tip usage : Option String) : List String :=
  ["error: " ++ message, ""] ++ (tip.map fun t => ["  tip: " ++ t, ""]).getD [] ++
    (usage.map fun u => ["Usage: " ++ u, ""]).getD [] ++ ["For more information, try '--help'."]

end Talkback.App
