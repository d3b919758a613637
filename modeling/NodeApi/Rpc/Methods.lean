import NodeApi.Param
import NodeApi.Rpc.Basic

/-!
# Describing RPC methods

Every defined method becomes an entry of the document, section by section in the order of the
section keys, and in the order of definition within a section.
-/

namespace NodeApi
namespace Rpc

/-- A method as the document shows it. -/
structure MethodEntry where
  sectionName : String
  name : String
  params : List ParamEntry
  tags : List String
  result : Option Schema
deriving DecidableEq

/-- The entry as an element of the document. -/
def MethodEntry.toJson (m : MethodEntry) : Json :=
  .object [("pallet", .string m.sectionName), ("name", .string m.name),
    ("params", .array (m.params.map ParamEntry.toJson)),
    ("tags", .array (m.tags.map fun tag => .object [("name", .string tag)])),
    ("result", match m.result with | some schema => schema.usage | none => .null)]

/-- The tag of every method. -/
def rpcTag : String :=
  "rpc"

/-- How the result of a method is described. -/
abbrev ResultRule : Type :=
  Method → Session → Option Schema × Session

/-- Results are left out. -/
def ResultRule.omitted : ResultRule := fun _ s =>
  (none, s)

/-- A declared parameter.  One that is optional is not required, whatever its type. -/
def describeParam (s : Session) (p : Param) : ParamEntry × Session :=
  let (resolution, s) := s.resolve .rpc p.type
  (.ofResolution p.name p.type { resolution with required := resolution.required && !p.isOptional },
    s)

/-- A method of a section. -/
def describeMethod (results : ResultRule) (sectionName : String) (s : Session)
    (method : String × Method) : MethodEntry × Session :=
  let (params, s) := s.mapEach describeParam method.2.params
  let (result, s) := results method.2 s
  ({ sectionName, name := method.1, params, tags := [rpcTag], result }, s)

/-- The methods of a section. -/
def describeSection (results : ResultRule) (s : Session) (entry : String × Section) :
    List MethodEntry × Session :=
  let name := sectionName entry.1
  (s.tell (.describingMethods entry.2.methods.length name)).mapEach (describeMethod results name)
    entry.2.methods

/-- The methods of all sections. -/
def describe (definitions : Definitions) (results : ResultRule) (s : Session) :
    List MethodEntry × Session :=
  let (blocks, s) := s.mapEach (describeSection results) definitions.entries
  (blocks.flatten, s)

end Rpc
end NodeApi
