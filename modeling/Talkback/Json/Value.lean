/-!
JSON documents as they are written: objects keep their members in order, repeated keys
included, and numbers keep the class their text puts them in (an unsigned integer, a
negative integer, or anything else, which reads as a float). A string that held an unpaired
surrogate escape is kept apart, since only a reader that skips it may accept it.

Writing follows one format: members and items separated by `,` (compact) or one per line
with two spaces of indent per level (pretty), `:` after a key (followed by a space when
pretty), and strings escaped with `\"`, `\\`, the short escapes for backspace, form feed,
newline, return and tab, and `\u00xx` for the other control characters.
-/

namespace Talkback.Json

/-- The class a number's text puts it in. -/
inductive Number where
  /-- An integer from 0 to 2^64 - 1. -/
  | nat (n : Nat)
  /-- A negative integer of at least -2^63, stored as its magnitude. -/
  | neg (n : Nat)
  /-- Any other number; `finite` is false when it overflows a double. -/
  | float (text : String) (finite : Bool)
  deriving DecidableEq, Repr, Inhabited

/-- A JSON document. -/
inductive Value where
  | null
  | bool (b : Bool)
  | num (n : Number)
  | str (s : String)
  /-- A string whose text held an unpaired surrogate escape. -/
  | strUnpaired
  | arr (items : List Value)
  | obj (members : List (String × Value))
  deriving Inhabited

namespace Value

/-- A natural number as a JSON number. -/
def ofNat (n : Nat) : Value := .num (.nat n)

/-- An optional value, `null` when absent. -/
def ofOption {α : Type} (f : α → Value) : Option α → Value
  | none => .null
  | some a => f a

/-- Whether every string is well formed and every number fits a double. -/
def strict : Value → Bool
  | .strUnpaired => false
  | .num (.float _ finite) => finite
  | .arr items => strictItems items
  | .obj members => strictMembers members
  | _ => true
where
  strictItems : List Value → Bool
    | [] => true
    | v :: rest => strict v && strictItems rest
  strictMembers : List (String × Value) → Bool
    | [] => true
    | (_, v) :: rest => strict v && strictMembers rest

end Value

/-- Two lower-case hexadecimal digits of a byte. -/
def hex2 (n : Nat) : String :=
  let d := fun k => if k < 10 then Char.ofNat (48 + k) else Char.ofNat (87 + k)
  String.ofList [d (n / 16 % 16), d (n % 16)]

/-- A character as it is written inside a JSON string. -/
def escapeChar (c : Char) : String :=
  if c = '"' then "\\\""
  else if c = '\\' then "\\\\"
  else if c.toNat = 8 then "\\b"
  else if c.toNat = 12 then "\\f"
  else if c = '\n' then "\\n"
  else if c = '\r' then "\\r"
  else if c = '\t' then "\\t"
  else if c.toNat < 32 then "\\u00" ++ hex2 c.toNat
  else String.singleton c

/-- A JSON string literal. -/
def quote (s : String) : String := "\"" ++ String.join (s.toList.map escapeChar) ++ "\""

/-- The text of a number. -/
def Number.render : Number → String
  | .nat n => toString n
  | .neg n => "-" ++ toString n
  | .float t _ => t

namespace Value

mutual

/-- The compact text of a value. -/
def compact : Value → String
  | .null => "null"
  | .bool b => if b then "true" else "false"
  | .num n => n.render
  | .str s => quote s
  | .strUnpaired => quote "�"
  | .arr items => "[" ++ compactItems items ++ "]"
  | .obj members => "\x7b" ++ compactMembers members ++ "\x7d"

/-- Compact items separated by commas. -/
def compactItems : List Value → String
  | [] => ""
  | [v] => compact v
  | v :: rest => compact v ++ "," ++ compactItems rest

/-- Compact members separated by commas. -/
def compactMembers : List (String × Value) → String
  | [] => ""
  | [(k, v)] => quote k ++ ":" ++ compact v
  | (k, v) :: rest => quote k ++ ":" ++ compact v ++ "," ++ compactMembers rest

end

/-- Two spaces for each level of indent. -/
def indent (level : Nat) : String := String.ofList (List.replicate (2 * level) ' ')

mutual

/-- The pretty text of a value whose first line is already indented to `level`. -/
def pretty (level : Nat) : Value → String
  | .arr [] => "[]"
  | .obj [] => "\x7b\x7d"
  | .arr items => "[\n" ++ prettyItems (level + 1) items ++ "\n" ++ indent level ++ "]"
  | .obj members =>
    "\x7b\n" ++ prettyMembers (level + 1) members ++ "\n" ++ indent level ++ "\x7d"
  | v => compact v

/-- Pretty items, one per line. -/
def prettyItems (level : Nat) : List Value → String
  | [] => ""
  | [v] => indent level ++ pretty level v
  | v :: rest => indent level ++ pretty level v ++ ",\n" ++ prettyItems level rest

/-- Pretty members, one per line. -/
def prettyMembers (level : Nat) : List (String × Value) → String
  | [] => ""
  | [(k, v)] => indent level ++ quote k ++ ": " ++ pretty level v
  | (k, v) :: rest =>
    indent level ++ quote k ++ ": " ++ pretty level v ++ ",\n" ++ prettyMembers level rest

end

end Value

end Talkback.Json
