import Talkback.Json.Parse

/-!
Reading typed records out of JSON documents, by these rules:

* an integer field takes only an integer of its width (a float never, `8000.0` included);
* a string field takes only a well-formed string;
* a record is an object, whose unknown members are skipped and whose known members may
  appear once each, or an array of all its fields in order; an optional field missing from
  an object is absent;
* a choice among named constants is the name as a string, or an object with that name as
  its only key and `null` as its value;
* a variant record names its variant in a tag member, anywhere in the object, or as the
  first item of an array whose other items are the variant's fields; its whole document
  must be well formed, and members the variant does not have are skipped.
-/

namespace Talkback.Json

/-- A reader of typed values. -/
abbrev Decoder (α : Type) := Value → Option α

namespace Decoder

/-- An integer of `bits` bits, unsigned. -/
def unsigned (bits : Nat) : Decoder Nat
  | .num (.nat n) => if n < Nat.pow 2 bits then some n else none
  | _ => none

/-- A string. -/
def string : Decoder String
  | .str s => some s
  | _ => none

/-- A truth value. -/
def bool : Decoder Bool
  | .bool b => some b
  | _ => none

/-- An optional value: `null` is absent. -/
def option {α : Type} (d : Decoder α) : Decoder (Option α)
  | .null => some none
  | v => (d v).map some

/-- One of the named constants. -/
def constant (names : List String) : Decoder String
  | .str s => if s ∈ names then some s else none
  | .obj [(k, .null)] => if k ∈ names then some k else none
  | _ => none

/-- Assign the members of an object to the named fields, refusing a repeated field. -/
def assign (names : List String) : List (Option Value) → List (String × Value) →
    Option (List (Option Value))
  | slots, [] => some slots
  | slots, (k, v) :: rest =>
    match names.idxOf? k with
    | none => assign names slots rest
    | some i =>
      match slots.getD i none with
      | some _ => none
      | none => assign names (slots.set i (some v)) rest

/-- The field values of a record, by position: from an object, each present or absent; from
an array, all present. -/
def fields (names : List String) : Value → Option (List (Option Value))
  | .obj members => assign names (names.map fun _ => none) members
  | .arr items => if items.length = names.length then some (items.map some) else none
  | _ => none

/-- The field values of a record whose fields all have defaults: as `fields`, except that an
array may stop early, the fields it does not reach being absent. -/
def fieldsOrDefaults (names : List String) : Value → Option (List (Option Value))
  | .arr items =>
    if items.length ≤ names.length then
      some (items.map some ++ List.replicate (names.length - items.length) none)
    else none
  | v => fields names v

/-- A field that must be present. -/
def req {α : Type} (slot : Option Value) (d : Decoder α) : Option α := slot.bind d

/-- A field that may be absent. -/
def opt {α : Type} (slot : Option Value) (d : Decoder α) : Option (Option α) :=
  match slot with
  | none => some none
  | some v => option d v

/-- Split a variant record into the variant's name and the document of its fields. -/
def tagged (tag : String) (v : Value) : Option (String × Value) :=
  if !v.strict then none
  else
    match v with
    | .obj members =>
      match members.filter (·.1 = tag) with
      | [(_, .str name)] => some (name, .obj (members.filter (·.1 ≠ tag)))
      | _ => none
    | .arr (.str name :: rest) => some (name, .arr rest)
    | _ => none

/-- The fields of a variant without fields: any object, or an empty array. -/
def unitFields : Value → Option Unit
  | .obj _ => some ()
  | .arr [] => some ()
  | _ => none

end Decoder

end Talkback.Json
