import NodeApi.Json.Decoder

/-!
# Decoding records

A record is written as an object or as a list of its fields in their order.  Fields that may be
left out keep their initial value, members that no field asks for are passed over, and no field may
come up twice.

Main results:

- Theorem `missing?_eq_none_iff`: nothing is missing if every required field has been seen.
-/

namespace NodeApi
namespace Json

/-- A field of a record, with what its value does to the record. -/
structure Field (σ : Type) where
  name : String
  required : Bool
  update : Decoder (σ → σ)

/-- A field that has to be there. -/
def Field.mandatory {σ α : Type} (name : String) (value : Decoder α) (set : α → σ → σ) : Field σ :=
  ⟨name, true, value.map set⟩

/-- A field that may be left out. -/
def Field.defaulted {σ α : Type} (name : String) (value : Decoder α) (set : α → σ → σ) : Field σ :=
  ⟨name, false, value.map set⟩

/-- The form of a record.  What `initial` holds for a required field is never seen. -/
structure Record (σ : Type) where
  name : String
  initial : σ
  fields : List (Field σ)

namespace Record

variable {σ : Type}

/-- How a record is mentioned in an error. -/
def wanted (r : Record σ) : String :=
  "struct " ++ r.name

/-- The field of a name. -/
def field? (r : Record σ) (name : String) : Option (Field σ) :=
  r.fields.find? (·.name = name)

/-- The first required field that has not been seen. -/
def missing? (r : Record σ) (seen : List String) : Option String :=
  (r.fields.find? fun f => f.required && !seen.contains f.name).map (·.name)

/-- A record whose members are being read. -/
structure Progress (σ : Type) where
  value : σ
  seen : List String

/-- The finished record, if no required field is missing. -/
def finish (r : Record σ) (p : Progress σ) : Except Mismatch σ :=
  match r.missing? p.seen with
  | some name => .error (.missingField name)
  | none => .ok p.value

/-- A record with one more field, which must not have been seen. -/
def seeField (p : Progress σ) (name : String) (update : σ → σ) : Progress σ :=
  ⟨update p.value, name :: p.seen⟩

/-- Takes in one member of a value.  Gives back a member that no field asks for. -/
def takeMember (r : Record σ) (p : Progress σ) (member : String × Json) :
    Except Error (Progress σ × Option (String × Json)) :=
  match r.field? member.1 with
  | none => .ok (p, some member)
  | some f =>
    if p.seen.contains f.name then .error (.mismatch (.repeatedField f.name))
    else do return (seeField p f.name (← f.update.ofJson member.2), none)

/-- Takes in the members of a value in their order.  Gives back the others. -/
def takeMembers (r : Record σ) (p : Progress σ) :
    List (String × Json) → Except Error (Progress σ × List (String × Json))
  | [] => .ok (p, [])
  | member :: rest => do
    let (p, other) ← r.takeMember p member
    let (p, others) ← r.takeMembers p rest
    return (p, other.toList ++ others)

/-- The record with the given members, from a starting value on. -/
def ofMembers (r : Record σ) (start : σ) (members : List (String × Json)) : Except Error σ := do
  let (p, _) ← r.takeMembers ⟨start, []⟩ members
  (r.finish p).mapError .mismatch

/-- The place of the first required field. -/
def requiredIndex? (fields : List (Field σ)) : Option Nat :=
  fields.findIdx? (·.required)

/-- The record with the given field values, in the order of the fields. -/
def ofElements (r : Record σ) (count : Nat) :
    List (Field σ) → Nat → σ → List Json → Except Error σ
  | [], _, value, [] => .ok value
  | [], _, _, _ :: _ => .error (.mismatch (.tooLong count))
  | f :: fields, index, value, [] =>
    match requiredIndex? (f :: fields) with
    | some i => .error (.mismatch (.tooShort (index + i) r.name r.fields.length))
    | none => .ok value
  | f :: fields, index, value, element :: rest => do
    r.ofElements count fields (index + 1) ((← f.update.ofJson element) value) rest

/-- Reads the closing bracket of a list that holds all the fields. -/
def readListEnd (s : List Char) : Except Fault (List Char) :=
  match skipBlanks s with
  | [] => stopAt .endInList []
  | c :: rest =>
    if c = ']' then .ok rest
    else if c = ',' then
      match skipBlanks rest with
      | ']' :: rest => stopAt .trailingComma (']' :: rest)
      | rest => stopAt .trailingCharacters rest
    else stopAt .trailingCharacters (c :: rest)

/-- Reads field values up to the end of the list, in the order of the fields. -/
def readInOrder (r : Record σ) (depth : Nat) : List (Field σ) → Nat → σ → Reader σ
  | [], _, value, s => do return (value, ← readListEnd s)
  | f :: fields, index, value, s => do
    match ← nextElement (index == 0) s with
    | .closed rest =>
      match requiredIndex? (f :: fields) with
      | some i => .error (.mismatch (.tooShort (index + i) r.name r.fields.length))
      | none => return (value, rest)
    | .item s =>
      let (update, s) ← f.update.read depth s
      r.readInOrder depth fields (index + 1) (update value) s

/-- Reads a member from within its key on, whose value is read by `other` if no field asks for
it. -/
def readInto {τ : Type} (r : Record σ) (depth : Nat) (other : String → τ → Reader τ)
    (state : Progress σ × τ) : Reader (Progress σ × τ) := fun s => do
  let (p, t) := state
  let (key, s) ← readLiteral s
  match r.field? key with
  | some f =>
    if p.seen.contains f.name then .error (.mismatch (.repeatedField f.name))
    else
      let (update, rest) ← f.update.read depth (← readColon s)
      return ((seeField p f.name update, t), rest)
  | none =>
    let (t, rest) ← other key t (← readColon s)
    return ((p, t), rest)

/-- Reads the members of a record from behind the opening bracket. -/
def readObject (r : Record σ) (depth : Nat) : Reader σ := fun s => do
  let step := r.readInto depth fun _ (_ : Unit) s => do return ((), ← skipValue s)
  let ((p, _), rest) ← foldItems nextMember .endInObject step s true (⟨r.initial, []⟩, ()) s
  match r.finish p with
  | .ok value => return (value, rest)
  | .error what => .error (.mismatch what)

/-- A record as an object or as a list of its fields. -/
def decoder (r : Record σ) : Decoder σ where
  read depth s :=
    match skipBlanks s with
    | '\x7b' :: rest => enter depth ('\x7b' :: rest) r.readObject
    | '[' :: rest => enter depth ('[' :: rest) fun inner => r.readInOrder inner r.fields 0 r.initial
    | s => unfitText s r.wanted
  ofJson
    | .object members => r.ofMembers r.initial members
    | .array elements => r.ofElements elements.length r.fields 0 r.initial elements
    | json => unfit json r.wanted

/-- Turns a mismatch of a value into a fault of the text. -/
def liftError {α : Type} (s : List Char) : Except Error α → Except Fault α
  | .ok x => .ok x
  | .error (.mismatch what) => .error (.mismatch what)
  | .error (.malformed what _) => stopBefore what s

/-- A record, as an object only, some of whose fields are looked at after the whole object has been
read.  All members but those of `early` are read as values first, wanted or not. -/
def decoderInTwo (early late : Record σ) : Decoder σ where
  read depth s :=
    match skipBlanks s with
    | '\x7b' :: rest => enter depth ('\x7b' :: rest) fun inner s => do
        let step := early.readInto inner fun key others s => do
          let (value, rest) ← readValue inner s
          return ((key, value) :: others, rest)
        let ((p, others), rest) ←
          foldItems nextMember .endInObject step s true (⟨early.initial, []⟩, []) s
        return (← liftError rest (late.ofMembers p.value others.reverse), rest)
    | s => unfitText s early.wanted
  ofJson
    | .object members => do
      let (p, others) ← early.takeMembers ⟨early.initial, []⟩ members
      late.ofMembers p.value others
    | json => unfit json early.wanted

/-- Nothing is missing if every required field has been seen. -/
theorem missing?_eq_none_iff {r : Record σ} {seen : List String} :
    r.missing? seen = none ↔ ∀ f ∈ r.fields, f.required = true → f.name ∈ seen := by
  simp [missing?, List.find?_eq_none]

end Record
end Json
end NodeApi
