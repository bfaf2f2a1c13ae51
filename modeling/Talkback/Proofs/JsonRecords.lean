import Talkback.Json.Decode
import Talkback.Proofs.JsonText

/-!
Records read back from the documents they are written as.

A record is written as an object that names its fields in order. The field readers take such an
object back to the fields' values in order whenever the names are distinct (`fields_written`),
whatever the values are. Each field reader takes back what its writer writes, and reads only
what the writer can write back: an `unsigned` field is below its bound (`lt_of_unsigned`). A
variant record tagged first by its variant's name splits into the name and the other members
(`tagged_written`), since a plain document is well formed (`strict_of_plain`).

`TextRoundTrip` states both directions through a document's compact text, and
`textRoundTrip_of` assembles it from those facts about documents.
-/

namespace Talkback.Json

namespace Decoder

theorem idxOf?_middle {pre post : List String} {k : String} (hk : k ∉ pre) :
    (pre ++ k :: post).idxOf? k = some pre.length := by
  induction pre with
  | nil => simp [List.idxOf?_cons]
  | cons p pre ih =>
    have hp : p ≠ k := fun h => hk (h ▸ List.mem_cons_self)
    rw [List.cons_append, List.idxOf?_cons, ih (fun h => hk (List.mem_cons_of_mem p h))]
    simp [hp]

/-- Assigning the members of an object that names the fields in order: each member lands in
the next empty slot. -/
theorem assign_written {pre post : List String} (hnd : (pre ++ post).Nodup)
    {vpre vpost : List Value} (hpre : vpre.length = pre.length)
    (hpost : vpost.length = post.length) :
    assign (pre ++ post) (vpre.map some ++ post.map fun _ => none) (post.zip vpost) =
      some (vpre.map some ++ vpost.map some) := by
  -- the fields in `pre` are filled, those in `post` still to come
  induction post generalizing pre vpre vpost with
  | nil =>
    rw [List.length_nil, List.length_eq_zero_iff] at hpost
    subst hpost
    simp [assign]
  | cons k post ih =>
    obtain ⟨w, vpost, rfl⟩ := List.exists_cons_of_length_eq_add_one hpost
    have hk : k ∉ pre := fun h => (List.nodup_append.1 hnd).2.2 k h k List.mem_cons_self rfl
    have hempty : (vpre.map some ++ (k :: post).map fun _ => none).getD pre.length none = none := by
      simp [List.getD_eq_getElem?_getD, hpre]
    have hset : (vpre.map some ++ (k :: post).map fun _ => none).set pre.length (some w) =
        (vpre ++ [w]).map some ++ post.map fun _ => none := by
      simp [List.set_append_right, hpre]
    have hlater := @ih (pre ++ [k]) (by simpa using hnd) (vpre ++ [w]) vpost (by simp [hpre])
      (by simpa using hpost)
    simp only [List.zip_cons_cons, assign, idxOf?_middle hk, hempty, hset]
    simpa using hlater

/-- An object naming distinct fields in order reads back as their values. -/
theorem fields_written {names : List String} (hnd : names.Nodup) {vs : List Value}
    (hlen : vs.length = names.length) : fields names (.obj (names.zip vs)) = some (vs.map some) := by
  simpa [fields] using @assign_written [] names (by simpa using hnd) [] vs rfl hlen

/-- The same, for an object given by its members. -/
theorem fields_members {names : List String} {members : List (String × Value)}
    (hnames : members.map Prod.fst = names) (hnd : names.Nodup) :
    fields names (.obj members) = some (members.map fun m => some m.2) := by
  subst hnames
  have hzip : (members.map Prod.fst).zip (members.map Prod.snd) = members := by
    rw [← List.unzip_fst, ← List.unzip_snd, List.zip_unzip]
  have h := @fields_written _ hnd (members.map Prod.snd) (by simp)
  rw [hzip, List.map_map] at h
  exact h

@[simp]
theorem fieldsOrDefaults_obj (names : List String) (members : List (String × Value)) :
    fieldsOrDefaults names (.obj members) = fields names (.obj members) := rfl

theorem unsigned_ofNat {bits n : Nat} (h : n < Nat.pow 2 bits) :
    unsigned bits (.ofNat n) = some n := by
  simp only [unsigned, Value.ofNat, if_pos h]

/-- An unsigned field reads only numbers below its bound. -/
theorem lt_of_unsigned {bits n : Nat} {v : Value} (h : unsigned bits v = some n) :
    n < Nat.pow 2 bits := by
  unfold unsigned at h
  split at h
  · split at h
    · next hlt => cases h; exact hlt
    · cases h
  · cases h

theorem lt_of_req_unsigned {bits n : Nat} {slot : Option Value}
    (h : req slot (unsigned bits) = some n) : n < Nat.pow 2 bits := by
  obtain ⟨v, -, hv⟩ := Option.bind_eq_some_iff.1 h
  exact lt_of_unsigned hv

theorem lt_of_opt_unsigned {bits n : Nat} {slot : Option Value}
    (h : opt slot (unsigned bits) = some (some n)) : n < Nat.pow 2 bits := by
  unfold opt option at h
  split at h
  · cases h
  · split at h
    · cases h
    · obtain ⟨m, hm, hmn⟩ := Option.map_eq_some_iff.1 h
      cases hmn
      exact lt_of_unsigned hm

/-- An optional field written as `null` when absent reads back, if its values are never
written as `null`. -/
theorem option_ofOption {α : Type} {d : Decoder α} {f : α → Value} (hf : ∀ a, f a ≠ .null)
    {x : Option α} (hd : ∀ a ∈ x, d (f a) = some a) : option d (Value.ofOption f x) = some x := by
  cases x with
  | none => rfl
  | some a =>
    have hread : option d (f a) = (d (f a)).map some := by
      unfold option
      split
      · next h => exact absurd h (hf a)
      · rfl
    simp [Value.ofOption, hread, hd a rfl]

end Decoder

namespace Value

mutual

/-- A plain value is well formed. -/
theorem strict_of_plain : ∀ v : Value, v.plain = true → v.strict = true
  | .null, _ | .bool _, _ | .str _, _ => rfl
  | .num (.nat _), _ | .num (.neg _), _ => rfl
  | .num (.float ..), h | .strUnpaired, h => absurd h (by simp [plain])
  | .arr items, h => strictItems_of_plain items (by simpa [plain] using h)
  | .obj members, h => strictMembers_of_plain members (by simpa [plain] using h)

theorem strictItems_of_plain : ∀ items : List Value, plain.plainItems items = true →
    strict.strictItems items = true
  | [], _ => rfl
  | v :: vs, h => by
    simp only [plain.plainItems, Bool.and_eq_true] at h
    simp [strict.strictItems, strict_of_plain v h.1, strictItems_of_plain vs h.2]

theorem strictMembers_of_plain : ∀ members : List (String × Value),
    plain.plainMembers members = true → strict.strictMembers members = true
  | [], _ => rfl
  | (_, v) :: ms, h => by
    simp only [plain.plainMembers, Bool.and_eq_true] at h
    simp [strict.strictMembers, strict_of_plain v h.1, strictMembers_of_plain ms h.2]

end

end Value

namespace Decoder

/-- A well-formed variant record whose first member is its tag splits into the variant's name
and the other members. -/
theorem tagged_written {tag name : String} {members : List (String × Value)}
    (hstrict : (Value.obj ((tag, .str name) :: members)).strict = true)
    (htag : ∀ m ∈ members, m.1 ≠ tag) :
    tagged tag (.obj ((tag, .str name) :: members)) = some (name, .obj members) := by
  have hkeep : members.filter (fun m => decide (m.1 ≠ tag)) = members :=
    List.filter_eq_self.2 fun m hm => by simpa using htag m hm
  have hdrop : members.filter (fun m => decide (m.1 = tag)) = [] :=
    List.filter_eq_nil_iff.2 fun m hm => by simpa using htag m hm
  simp only [tagged, hstrict, Bool.not_true, Bool.false_eq_true, if_false, List.filter_cons,
    decide_true, if_true, ne_eq, not_true_eq_false, decide_false, hdrop, hkeep]

end Decoder

/-- Both directions of a document form through its compact text: every value in range reads
back from the text written for it, and a value read from any text is in range and reads back
from the text written for it. -/
def TextRoundTrip {α : Type} (toJson : α → Value) (decode : Decoder α) (InRange : α → Prop) :
    Prop :=
  (∀ a, InRange a → (parse (toJson a).compact).bind decode = some a) ∧
  ∀ text a, (parse text).bind decode = some a →
    InRange a ∧ (parse (toJson a).compact).bind decode = some a

/-- A document form goes through its text both ways when the documents of values in range are
plain and shallow and read back, and the reader reads only values in range. -/
theorem textRoundTrip_of {α : Type} {toJson : α → Value} {decode : Decoder α}
    {InRange : α → Prop} (hplain : ∀ a, InRange a → (toJson a).plain = true)
    (hdepth : ∀ a, (toJson a).depth < 128) (hread : ∀ a, InRange a → decode (toJson a) = some a)
    (hrange : ∀ v a, decode v = some a → InRange a) : TextRoundTrip toJson decode InRange := by
  have hwritten : ∀ a, InRange a → (parse (toJson a).compact).bind decode = some a := by
    intro a ha
    rw [parse_compact (hplain a ha) (hdepth a)]
    exact hread a ha
  refine ⟨hwritten, fun text a h => ?_⟩
  obtain ⟨v, -, hv⟩ := Option.bind_eq_some_iff.1 h
  have ha := hrange v a hv
  exact ⟨ha, hwritten a ha⟩

end Talkback.Json
