import NodeApi.Json.Printer
import NodeApi.Json.Reader
import NodeApi.Metadata.Extrinsics
import NodeApi.Rpc.Methods

/-!
# The document

The document describes the methods of a node, the calls of its runtime, and the types of their
parameters.  All parameters are resolved in one run, methods first, so that a type that both use is
written out once.  A text of the document is handed out only after it has been read back.

Main results:

- Theorem `layOut_eq_ok_iff`: a text is laid out anew exactly if it can be read.
-/

namespace NodeApi

/-- What is known of the interface of a node. -/
structure Document where
  methods : List Rpc.MethodEntry
  extrinsics : List Metadata.ExtrinsicEntry
  schemas : Registry
deriving DecidableEq

namespace Document

/-- The document of the entries that a run has described. -/
def ofParts (methods : List Rpc.MethodEntry) (schemas : Registry)
    (extrinsics : List Metadata.ExtrinsicEntry) : Document where
  methods
  extrinsics
  schemas

/-- The document as a JSON value. -/
def toJson (d : Document) : Json :=
  .object [("methods", .array (d.methods.map Rpc.MethodEntry.toJson)),
    ("extrinsics", .array (d.extrinsics.map Metadata.ExtrinsicEntry.toJson)),
    ("schemas", d.schemas.toJson)]

/-- Describes definitions and pallets in a run that has begun. -/
def build (definitions : Rpc.Definitions) (results : Rpc.ResultRule)
    (pallets : List Metadata.Pallet) (lookup : Metadata.Lookup) (s : Session) :
    Document × Session :=
  let (methods, s) := Rpc.describe definitions results s
  let (extrinsics, s) := Metadata.describe lookup pallets s
  (ofParts methods s.registry extrinsics, s)

/-- The document of definitions and pallets, with what is worth telling about them. -/
def generate (definitions : Rpc.Definitions) (pallets : List Metadata.Pallet)
    (lookup : Metadata.Lookup) : Document × List Notice :=
  let (d, s) := build definitions .omitted pallets lookup (.ofRegistry .builtin)
  (d, s.notices ++ [.generated d.methods.length d.extrinsics.length d.schemas.size])

/-- A JSON text laid out anew. -/
def layOut (layout : Json.Layout) (text : String) : Except DocumentError String :=
  match Json.read text with
  | .ok value => .ok (value.print layout)
  | .error cause => .error ⟨cause⟩

/-- The text of the document. -/
def toText (d : Document) (layout : Json.Layout) : Except DocumentError String :=
  layOut layout d.toJson.compact

/-- The text that a template makes of the document, laid out anew.  A template may make a text that
is not JSON. -/
def render (d : Document) (template : Document → String) :
    Except DocumentError String × List Notice :=
  match layOut .pretty (template d) with
  | .ok text => (.ok text, [])
  | .error e => (.error e, [.malformed e])

/-- A text is laid out anew exactly if it can be read. -/
theorem layOut_eq_ok_iff {layout : Json.Layout} {text out : String} :
    layOut layout text = .ok out ↔
      ∃ value, Json.read text = .ok value ∧ value.print layout = out := by
  unfold layOut
  split <;> rename_i h <;> simp [h]

end Document
end NodeApi
