import NodeApi.Json.Error

/-!
# Notices

What is worth telling about a run besides its result: types that stay unknown, pallets and fields
that the metadata does not describe, how much has been described, and a rendered text that cannot
be read back.

Main results:

- Definitions `Notice.level` and `Notice.text`: how serious a notice is, and its wording.
-/

namespace NodeApi

/-- A generated text that is not JSON.  Every document that is handed out has been read back
first. -/
structure DocumentError where
  cause : Json.Error
deriving DecidableEq

/-- The wording of the error. -/
def DocumentError.message (e : DocumentError) : String :=
  "Generated document is not valid JSON: " ++ e.cause.message

/-- How serious a notice is. -/
inductive Level where
  | error
  | warning
  | detail
deriving DecidableEq

/-- The name of a level. -/
def Level.name : Level → String
  | error => "ERROR"
  | warning => "WARN"
  | detail => "DEBUG"

/-- Something worth telling. -/
inductive Notice where
  /-- A type of which only the name is known. -/
  | unknownType (name : String)
  | describingMethods (count : Nat) (sectionName : String)
  | describingCalls (count : Nat) (palletName : String)
  /-- A pallet whose calls the metadata does not describe. -/
  | callsMissing (type : UInt32) (pallet : String)
  /-- A call field whose type the metadata does not describe. -/
  | fieldTypeMissing (type : UInt32)
  | generated (methods extrinsics schemas : Nat)
  /-- A rendered text that is not JSON. -/
  | malformed (error : DocumentError)
deriving DecidableEq

namespace Notice

/-- The level of a notice. -/
def level : Notice → Level
  | malformed _ => .error
  | callsMissing _ _ => .warning
  | fieldTypeMissing _ => .warning
  | _ => .detail

/-- The wording of a notice. -/
def text : Notice → String
  | unknownType name => "No schema known for type `" ++ name ++ "`, using a reference to it"
  | describingMethods count sectionName =>
    "Describing " ++ toString count ++ " RPC methods of section `" ++ sectionName ++ "`"
  | describingCalls count palletName =>
    "Describing " ++ toString count ++ " calls of pallet `" ++ palletName ++ "`"
  | callsMissing type pallet =>
    "Calls type " ++ toString type.toNat ++ " of pallet `" ++ pallet ++
      "` is not an enum in the type lookup"
  | fieldTypeMissing type =>
    "Type " ++ toString type.toNat ++ " of a call field is missing from the type lookup"
  | generated methods extrinsics schemas =>
    "Generated " ++ toString methods ++ " methods, " ++ toString extrinsics ++
      " extrinsics and " ++ toString schemas ++ " schemas"
  | malformed error => "Rendered document is malformed: " ++ error.message

/-- A notice with its level, as a line of a log. -/
def line (n : Notice) : String :=
  n.level.name ++ ": " ++ n.text

end Notice
end NodeApi
