import Talkback.Codec.Base64
import Talkback.Text.Shape

/-!
Credentials sent when a connection opens: none, a bearer token, or a user name and password
in the basic scheme (the two joined by `:` and written in base64). Inspecting credentials
never shows a secret: a token is masked and of a password only its presence is told.
-/

namespace Talkback.Transport

/-- Credentials for opening a connection. -/
inductive Auth where
  | none
  | bearer (token : String)
  | basic (username password : String)
  deriving DecidableEq, Repr, Inhabited

namespace Auth

/-- The value of the `Authorization` header, if any. -/
def header : Auth → Option String
  | .none => Option.none
  | .bearer t => some ("Bearer " ++ t)
  | .basic u p => some ("Basic " ++ Codec.Base64.encode (u ++ ":" ++ p).toUTF8.toList)

/-- The credentials when inspected, secrets hidden. -/
def shape : Auth → Text.Shape
  | .none => .atom "None"
  | .bearer _ => .atom "Bearer(***)"
  | .basic u _ => .record "Basic" [("username", .str u)] true

end Auth

end Talkback.Transport
