/-!
Request targets: reading a URI the way an HTTP client does before it opens a connection.

A target is a path (starting with `/`), `*`, an authority alone, or a scheme followed by
`://`, an authority and a path. The scheme is `http` or `https` in any case, or a run of
letters, digits, `+`, `-` and `.` before `://`. The authority runs to the first `/`, `?` or
`#` and may hold only URI characters; brackets must pair, a port colon may appear once, a
user part ends at `@` and must be followed by a host, and a `%` may stand only in the user
part. The path and query refuse blanks, control characters and a few delimiters. A client
request then needs a host: an authority whose part after the user is not empty.
-/

namespace Talkback.Transport

/-- Why a text is no URI. -/
inductive UriError where
  | invalidChar
  | invalidAuthority
  | invalidFormat
  | tooLong
  | empty
  | schemeTooLong
  deriving DecidableEq, Repr, Inhabited

/-- The description of a URI error. -/
def UriError.description : UriError → String
  | .invalidChar => "invalid uri character"
  | .invalidAuthority => "invalid authority"
  | .invalidFormat => "invalid format"
  | .tooLong => "uri too long"
  | .empty => "empty string"
  | .schemeTooLong => "scheme too long"

/-- The parts of a request target. -/
structure Target where
  scheme : Option String
  authority : String
  deriving DecidableEq, Repr, Inhabited

/-- Characters allowed in a URI, with the delimiters. -/
def isUriByte (b : Nat) : Bool :=
  b = 33 || b = 35 || b = 36 || b = 38 || b = 39 || (40 ≤ b && b ≤ 59) || b = 61 || b = 63 ||
  b = 64 || (65 ≤ b && b ≤ 91) || b = 93 || b = 95 || (97 ≤ b && b ≤ 122) || b = 126

/-- Characters allowed in a scheme name. -/
def isSchemeByte (b : Nat) : Bool :=
  (48 ≤ b && b ≤ 57) || (65 ≤ b && b ≤ 90) || (97 ≤ b && b ≤ 122) || b = 43 || b = 45 || b = 46

/-- What the authority scan has seen so far. -/
structure AuthorityScan where
  colons : Nat := 0
  openBracket : Bool := false
  closeBracket : Bool := false
  percent : Bool := false
  atSign : Option Nat := none

/-- Scan an authority from index `i`: the index where it ends, or why it is invalid. -/
def scanAuthority (st : AuthorityScan) (i : Nat) : List Nat → Except UriError (AuthorityScan × Nat)
  | [] => .ok (st, i)
  | b :: rest =>
    if b = 47 || b = 63 || b = 35 then .ok (st, i)
    else if b = 58 then
      if st.colons ≥ 8 then .error .invalidAuthority
      else scanAuthority { st with colons := st.colons + 1 } (i + 1) rest
    else if b = 91 then
      if st.percent || st.openBracket then .error .invalidAuthority
      else scanAuthority { st with openBracket := true } (i + 1) rest
    else if b = 93 then
      if !st.openBracket || st.closeBracket then .error .invalidAuthority
      else scanAuthority { st with closeBracket := true, colons := 0, percent := false } (i + 1) rest
    else if b = 64 then
      scanAuthority { st with atSign := some i, colons := 0, percent := false } (i + 1) rest
    else if b = 37 then scanAuthority { st with percent := true } (i + 1) rest
    else if isUriByte b then scanAuthority st (i + 1) rest
    else .error .invalidChar

/-- The length of the authority at the front of `bs`. -/
def authorityEnd (bs : List Nat) : Except UriError Nat := do
  let (st, e) ← scanAuthority {} 0 bs
  if st.openBracket != st.closeBracket then throw .invalidAuthority
  if st.colons > 1 then throw .invalidAuthority
  if e > 0 ∧ st.atSign = some (e - 1) then throw .invalidAuthority
  if st.percent then throw .invalidAuthority
  return e

/-- A path character. -/
def isPathByte (b : Nat) : Bool :=
  b = 33 || (36 ≤ b && b ≤ 59) || b = 61 || (64 ≤ b && b ≤ 95) || (97 ≤ b && b ≤ 122) ||
  b = 124 || b = 126 || b ≥ 127 || b = 34 || b = 123 || b = 125

/-- A query character. -/
def isQueryByte (b : Nat) : Bool :=
  b = 33 || (36 ≤ b && b ≤ 59) || b = 61 || (63 ≤ b && b ≤ 126) || b ≥ 127

/-- Check a path and query, up to a fragment. -/
def checkPath : Bool → List Nat → Except UriError Unit
  | _, [] => .ok ()
  | _, 35 :: _ => .ok ()
  | false, 63 :: rest => checkPath true rest
  | inQuery, b :: rest =>
    if (if inQuery then isQueryByte b else isPathByte b) then checkPath inQuery rest
    else .error .invalidChar

/-- Lower-case an ASCII letter code. -/
def lowerByte (b : Nat) : Nat := if 65 ≤ b ∧ b ≤ 90 then b + 32 else b

/-- Where a scheme ends (the index of its `:`), if the text starts with one. -/
def schemeEnd (bs : List Nat) : Except UriError (Option Nat) :=
  let n := bs.length
  let rec go (i : Nat) : List Nat → Except UriError (Option Nat)
    | [] => .ok none
    | b :: rest =>
      if b = 58 then
        if n < i + 3 then .ok none
        else if (bs.drop (i + 1)).take 2 ≠ [47, 47] then .ok none
        else if i > 64 then .error .schemeTooLong
        else .ok (some i)
      else if isSchemeByte b then go (i + 1) rest
      else .ok none
  if n > 3 then go 0 bs else .ok none

/-- Read a request target. Characters stand for their UTF-8 bytes: every delimiter is ASCII,
and a character beyond ASCII is allowed exactly where its bytes are. -/
def Target.parse (s : String) : Except UriError Target := do
  let bs := s.toList.map Char.toNat
  let text := fun (xs : List Nat) => String.ofList (xs.map Char.ofNat)
  if s.utf8ByteSize > 65534 then throw .tooLong
  match bs with
  | [] => throw .empty
  | [47] | [42] => return ⟨none, ""⟩
  | [b] =>
    let e ← authorityEnd [b]
    if e ≠ 1 then throw .invalidChar
    return ⟨none, text [b]⟩
  | 47 :: _ => do checkPath false bs; return ⟨none, ""⟩
  | _ =>
    let lower := (bs.take 8).map lowerByte
    let (scheme, rest) ←
      if bs.length ≥ 7 ∧ lower.take 7 = "http://".toList.map Char.toNat then
        pure (some "http", bs.drop 7)
      else if bs.length ≥ 8 ∧ lower = "https://".toList.map Char.toNat then
        pure (some "https", bs.drop 8)
      else
        match ← schemeEnd bs with
        | some i => pure (some (text (bs.take i)), bs.drop (i + 3))
        | none => pure (none, bs)
    let e ← authorityEnd rest
    match scheme with
    | none =>
      if e ≠ rest.length then throw .invalidFormat
      return ⟨none, text rest⟩
    | some sc =>
      if e = 0 then throw .invalidFormat
      checkPath false (rest.drop e)
      return ⟨some sc, text (rest.take e)⟩

/-- Why a target cannot open a connection. -/
inductive RequestError where
  | uri (e : UriError)
  | noHost
  | emptyHost
  deriving DecidableEq, Repr, Inhabited

/-- The sentence of a request error. -/
def RequestError.message : RequestError → String
  | .uri e => "HTTP format error: " ++ e.description
  | .noHost => "URL error: No host name in the URL"
  | .emptyHost => "URL error: URL contains empty host name"

/-- A target that can open a connection: it parses and names a host. -/
def Target.request (s : String) : Except RequestError Target := do
  let t ← (Target.parse s).mapError RequestError.uri
  if t.authority.isEmpty then throw .noHost
  let host := match t.authority.splitOn "@" with
    | [] => t.authority
    | _ :: rest => "@".intercalate rest
  if (t.authority.toList.contains '@') ∧ host.isEmpty then throw .emptyHost
  return t

end Talkback.Transport
