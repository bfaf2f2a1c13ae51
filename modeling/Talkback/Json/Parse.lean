import Talkback.Json.Value

/-!
Reading JSON text. The grammar is RFC 8259's: blanks are space, tab, newline and return;
numbers have no leading zeros and need digits on both sides of a point; strings may not
hold raw control characters and know the escapes `\" \\ \/ \b \f \n \r \t \uXXXX`, where a
high surrogate escape followed by a low one stands for one character. Arrays and objects may
nest at most 127 deep. Nothing but blanks may follow the document.

A number without point or exponent is an unsigned integer when it fits 64 bits and a
negative integer when it fits 64 signed bits; every other number (`-0` included) is a float.

The reader is total: it works under a fuel bound that the wrapper `parse` sets from the
length of the text, which is more than every nesting and loop of the grammar can use.
-/

namespace Talkback.Json

/-- A blank between tokens. -/
def isSpace (c : Char) : Bool := c = ' ' || c = '\t' || c = '\n' || c = '\r'

/-- The input after leading blanks. -/
def skipSpace (cs : List Char) : List Char := cs.dropWhile isSpace

/-- The value of a hexadecimal digit. -/
def hexValue? (c : Char) : Option Nat :=
  if '0' ≤ c ∧ c ≤ '9' then some (c.toNat - 48)
  else if 'a' ≤ c ∧ c ≤ 'f' then some (c.toNat - 87)
  else if 'A' ≤ c ∧ c ≤ 'F' then some (c.toNat - 55)
  else none

/-- Four hexadecimal digits. -/
def hex4? : List Char → Option (Nat × List Char)
  | a :: b :: c :: d :: rest => do
    let a ← hexValue? a
    let b ← hexValue? b
    let c ← hexValue? c
    let d ← hexValue? d
    return (((a * 16 + b) * 16 + c) * 16 + d, rest)
  | _ => none

/-- The characters of a string body up to its closing quote, and whether every surrogate
escape was paired. -/
def readString (fuel : Nat) (acc : List Char) (paired : Bool) (cs : List Char) :
    Option (List Char × Bool × List Char) :=
  match fuel with
  | 0 => none
  | fuel + 1 =>
    match cs with
    | [] => none
    | '"' :: rest => some (acc.reverse, paired, rest)
    | '\\' :: e :: rest =>
      let simple := fun (c : Char) => readString fuel (c :: acc) paired rest
      match e with
      | '"' => simple '"'
      | '\\' => simple '\\'
      | '/' => simple '/'
      | 'b' => simple (Char.ofNat 8)
      | 'f' => simple (Char.ofNat 12)
      | 'n' => simple '\n'
      | 'r' => simple '\r'
      | 't' => simple '\t'
      | 'u' => do
        let (u, rest) ← hex4? rest
        if 0xD800 ≤ u ∧ u < 0xDC00 then
          match rest with
          | '\\' :: 'u' :: more =>
            match hex4? more with
            | some (l, after) =>
              if 0xDC00 ≤ l ∧ l < 0xE000 then
                readString fuel (Char.ofNat (0x10000 + (u - 0xD800) * 1024 + (l - 0xDC00)) :: acc)
                  paired after
              else readString fuel acc false rest
            | none => none
          | _ => readString fuel acc false rest
        else if 0xDC00 ≤ u ∧ u < 0xE000 then readString fuel acc false rest
        else readString fuel (Char.ofNat u :: acc) paired rest
      | _ => none
    | c :: rest => if c.toNat < 32 then none else readString fuel (c :: acc) paired rest

/-- Leading decimal digits. -/
def digits (cs : List Char) : List Char × List Char := (cs.takeWhile Char.isDigit, cs.dropWhile Char.isDigit)

/-- The natural number a list of decimal digits stands for. -/
def digitsValue (ds : List Char) : Nat := ds.foldl (fun n d => n * 10 + (d.toNat - 48)) 0

/-- A number token, classified. -/
def readNumber (cs : List Char) : Option (Number × List Char) := do
  let (negative, cs) := match cs with
    | '-' :: rest => (true, rest)
    | _ => (false, cs)
  let (int, rest) := digits cs
  match int with
  | [] => none
  | '0' :: _ :: _ => none
  | _ =>
    let (frac, rest) ← match rest with
      | '.' :: more =>
        let (f, r) := digits more
        if f.isEmpty then none else some (some f, r)
      | _ => some (none, rest)
    let (exp, rest) ← match rest with
      | e :: more =>
        if e = 'e' ∨ e = 'E' then
          let (sign, more) := match more with
            | '+' :: m => ("+", m)
            | '-' :: m => ("-", m)
            | m => ("", m)
          let (d, r) := digits more
          if d.isEmpty then none else some (some (sign, d), r)
        else some (none, rest)
      | [] => some (none, rest)
    let text := (if negative then "-" else "") ++ String.ofList int ++
      (match frac with | some f => "." ++ String.ofList f | none => "") ++
      (match exp with | some (s, d) => "e" ++ s ++ String.ofList d | none => "")
    let m := digitsValue (int ++ frac.getD [])
    let shift := (frac.getD []).length
    let e : Int := match exp with
      | some ("-", d) => -(digitsValue d : Int)
      | some (_, d) => digitsValue d
      | none => 0
    let scale := e - shift
    let finite := !(if scale ≥ 0 then Float.ofScientific m false scale.toNat
      else Float.ofScientific m true (-scale).toNat).isInf
    let n := digitsValue int
    match frac, exp, negative with
    | none, none, false => if n < Nat.pow 2 64 then some (.nat n, rest) else some (.float text finite, rest)
    | none, none, true =>
      if 0 < n ∧ n ≤ Nat.pow 2 63 then some (.neg n, rest) else some (.float text finite, rest)
    | _, _, _ => some (.float text finite, rest)

/-- The literal `word` at the front of the input. -/
def readWord (word : List Char) (cs : List Char) : Option (List Char) :=
  if cs.take word.length = word then some (cs.drop word.length) else none

mutual

/-- One value, at nesting `depth`. -/
def readValue (fuel depth : Nat) (cs : List Char) : Option (Value × List Char) :=
  match fuel with
  | 0 => none
  | fuel + 1 =>
    match skipSpace cs with
    | 'n' :: _ => (readWord "null".toList (skipSpace cs)).map fun r => (.null, r)
    | 't' :: _ => (readWord "true".toList (skipSpace cs)).map fun r => (.bool true, r)
    | 'f' :: _ => (readWord "false".toList (skipSpace cs)).map fun r => (.bool false, r)
    | '"' :: rest => do
      let (s, paired, r) ← readString (rest.length + 1) [] true rest
      return (if paired then .str (String.ofList s) else .strUnpaired, r)
    | '[' :: rest =>
      if depth + 1 ≥ 128 then none
      else
        match skipSpace rest with
        | ']' :: r => some (.arr [], r)
        | _ => do
          let (items, r) ← readItems fuel (depth + 1) [] rest
          return (.arr items, r)
    | '{' :: rest =>
      if depth + 1 ≥ 128 then none
      else
        match skipSpace rest with
        | '}' :: r => some (.obj [], r)
        | _ => do
          let (members, r) ← readMembers fuel (depth + 1) [] rest
          return (.obj members, r)
    | cs' => do
      let (n, r) ← readNumber cs'
      return (.num n, r)

/-- Array items after the opening bracket, up to and including the closing one. -/
def readItems (fuel depth : Nat) (acc : List Value) (cs : List Char) :
    Option (List Value × List Char) :=
  match fuel with
  | 0 => none
  | fuel + 1 => do
    let (v, r) ← readValue fuel depth cs
    match skipSpace r with
    | ',' :: more => readItems fuel depth (v :: acc) more
    | ']' :: more => some ((v :: acc).reverse, more)
    | _ => none

/-- Object members after the opening brace, up to and including the closing one. -/
def readMembers (fuel depth : Nat) (acc : List (String × Value)) (cs : List Char) :
    Option (List (String × Value) × List Char) :=
  match fuel with
  | 0 => none
  | fuel + 1 =>
    match skipSpace cs with
    | '"' :: rest => do
      let (k, paired, r) ← readString (rest.length + 1) [] true rest
      if !paired then none
      match skipSpace r with
      | ':' :: more => do
        let (v, r) ← readValue fuel depth more
        match skipSpace r with
        | ',' :: more => readMembers fuel depth ((String.ofList k, v) :: acc) more
        | '}' :: more => some (((String.ofList k, v) :: acc).reverse, more)
        | _ => none
      | _ => none
    | _ => none

end

/-- Read a whole JSON document. -/
def parse (text : String) : Option Value := do
  let cs := text.toList
  let (v, rest) ← readValue (2 * cs.length + 2) 0 cs
  if (skipSpace rest).isEmpty then some v else none

end Talkback.Json
