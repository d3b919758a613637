import NodeApi.Schema.Written
import NodeApi.TypeName.Wrapper

/-!
# References in JSON values

A reference is an object with nothing but the path of a definition in it.  The references of a value
can be listed and they can be replaced; the rest of the value stays as it is.

Main results:

- Theorem `refName?_eq_some_iff`: exactly the references are recognised.
- Theorem `replaceRefs_congr`: only the references of a value matter for what replaces them.
- Theorem `replaceRefs_schemaRef`: replacing each reference by itself changes nothing.
- Theorem `mem_refs_replaceRefs`: replacing brings in no references but those of the replacements.
-/

namespace NodeApi

theorem schemaPath_inj {a b : String} (h : schemaPath a = schemaPath b) : a = b := by
  unfold schemaPath at h
  have hlist := congrArg String.toList h
  simp only [String.toList_append] at hlist
  exact String.toList_inj.1 (List.append_cancel_left hlist)

/-- The name whose definition is found at a path. -/
def schemaName? (path : String) : Option String :=
  (TypeName.behind? "#/components/schemas/".toList path.toList).map String.ofList

/-- A path belongs to one name at most. -/
theorem schemaName?_eq_some_iff {path name : String} :
    schemaName? path = some name ↔ path = schemaPath name := by
  simp only [schemaName?, Option.map_eq_some_iff, TypeName.behind?_eq_some_iff]
  constructor
  · rintro ⟨rest, hrest, rfl⟩
    apply String.toList_inj.1
    unfold schemaPath
    simp only [String.toList_append, String.toList_ofList, hrest]
  · intro h
    refine ⟨name.toList, ?_, String.ofList_toList⟩
    subst h
    unfold schemaPath
    simp only [String.toList_append]

namespace Json

theorem schemaRef_inj {a b : String} (h : schemaRef a = schemaRef b) : a = b := by
  simp only [schemaRef, object.injEq, List.cons.injEq, Prod.mk.injEq, string.injEq, true_and,
    and_true] at h
  exact schemaPath_inj h

/-- What holds of a container if it holds of all that is in it holds of every value. -/
@[elab_as_elim]
theorem containers_induction {P : Json → Prop} (null : P .null) (bool : ∀ value, P (.bool value))
    (number : ∀ value, P (.number value)) (string : ∀ value, P (.string value))
    (array : ∀ elements, (∀ element ∈ elements, P element) → P (.array elements))
    (object : ∀ members, (∀ member ∈ members, P member.2) → P (.object members)) (j : Json) :
    P j := by
  refine @Json.rec P (fun elements => ∀ element ∈ elements, P element)
    (fun members => ∀ member ∈ members, P member.2) (fun member => P member.2)
    null bool number string array object ?_ ?_ ?_ ?_ ?_ j
  · simp
  · intro element elements helement helements
    simpa using ⟨helement, helements⟩
  · simp
  · intro member members hmember hmembers other hother
    rcases List.mem_cons.1 hother with rfl | hother
    · exact hmember
    · exact hmembers other hother
  · intro key value hvalue
    exact hvalue

/-! ## The references of a value -/

/-- The name that the members of an object refer to, if they make it a reference. -/
def refName? : List (String × Json) → Option String
  | [(key, .string path)] => if key = "$ref" then schemaName? path else none
  | _ => none

mutual

/-- The names that a value refers to. -/
def refs : Json → List String
  | array elements => refsAll elements
  | object members =>
    match refName? members with
    | some name => [name]
    | none => refsMembers members
  | null | bool _ | number _ | string _ => []

/-- The names that elements refer to. -/
def refsAll : List Json → List String
  | [] => []
  | element :: rest => refs element ++ refsAll rest

/-- The names that member values refer to. -/
def refsMembers : List (String × Json) → List String
  | [] => []
  | (_, value) :: rest => refs value ++ refsMembers rest

end

mutual

/-- The value with each reference replaced. -/
def replaceRefs (f : String → Json) : Json → Json
  | array elements => array (replaceRefsAll f elements)
  | object members =>
    match refName? members with
    | some name => f name
    | none => object (replaceRefsMembers f members)
  | null => null
  | bool value => bool value
  | number value => number value
  | string value => string value

/-- Elements with each reference replaced. -/
def replaceRefsAll (f : String → Json) : List Json → List Json
  | [] => []
  | element :: rest => replaceRefs f element :: replaceRefsAll f rest

/-- Members with each reference replaced. -/
def replaceRefsMembers (f : String → Json) : List (String × Json) → List (String × Json)
  | [] => []
  | (key, value) :: rest => (key, replaceRefs f value) :: replaceRefsMembers f rest

end

/-- Exactly the references are recognised. -/
theorem refName?_eq_some_iff {members : List (String × Json)} {name : String} :
    refName? members = some name ↔ object members = schemaRef name := by
  unfold refName?
  split
  · rename_i key path
    by_cases hkey : key = "$ref"
    · simp [hkey, schemaRef, schemaName?_eq_some_iff]
    · simp [hkey, schemaRef]
  · rename_i hother
    simp only [reduceCtorEq, false_iff, schemaRef, object.injEq]
    intro hmembers
    exact hother _ _ hmembers

@[simp]
theorem refsAll_eq_flatMap (elements : List Json) : refsAll elements = elements.flatMap refs := by
  induction elements with
  | nil => rfl
  | cons element rest ih => simp [refsAll, ih]

@[simp]
theorem refsMembers_eq_flatMap (members : List (String × Json)) :
    refsMembers members = members.flatMap fun member => refs member.2 := by
  induction members with
  | nil => rfl
  | cons member rest ih => simp [refsMembers, ih]

@[simp]
theorem replaceRefsAll_eq_map (f : String → Json) (elements : List Json) :
    replaceRefsAll f elements = elements.map (replaceRefs f) := by
  induction elements with
  | nil => rfl
  | cons element rest ih => simp [replaceRefsAll, ih]

@[simp]
theorem replaceRefsMembers_eq_map (f : String → Json) (members : List (String × Json)) :
    replaceRefsMembers f members =
      members.map fun member => (member.1, replaceRefs f member.2) := by
  induction members with
  | nil => rfl
  | cons member rest ih => simp [replaceRefsMembers, ih]

@[simp]
theorem refs_array (elements : List Json) : refs (array elements) = elements.flatMap refs := by
  rw [refs, refsAll_eq_flatMap]

theorem refs_object {members : List (String × Json)} (h : refName? members = none) :
    refs (object members) = members.flatMap fun member => refs member.2 := by
  rw [refs, h, refsMembers_eq_flatMap]

@[simp]
theorem refs_schemaRef (name : String) : refs (schemaRef name) = [name] := by
  have h : refName? [("$ref", string (schemaPath name))] = some name :=
    refName?_eq_some_iff.2 rfl
  rw [schemaRef, refs, h]

@[simp]
theorem replaceRefs_array (f : String → Json) (elements : List Json) :
    replaceRefs f (array elements) = array (elements.map (replaceRefs f)) := by
  rw [replaceRefs, replaceRefsAll_eq_map]

theorem replaceRefs_object (f : String → Json) {members : List (String × Json)}
    (h : refName? members = none) :
    replaceRefs f (object members) =
      object (members.map fun member => (member.1, replaceRefs f member.2)) := by
  rw [replaceRefs, h, replaceRefsMembers_eq_map]

@[simp]
theorem replaceRefs_ref (f : String → Json) (name : String) :
    replaceRefs f (schemaRef name) = f name := by
  have h : refName? [("$ref", string (schemaPath name))] = some name :=
    refName?_eq_some_iff.2 rfl
  rw [schemaRef, replaceRefs, h]

/-! ## Replacing references -/

/-- Only the references of a value matter for what replaces them. -/
theorem replaceRefs_congr {f g : String → Json} {j : Json} (h : ∀ name ∈ refs j, f name = g name) :
    replaceRefs f j = replaceRefs g j := by
  induction j using containers_induction with
  | null => rfl
  | bool value => rfl
  | number value => rfl
  | string value => rfl
  | array elements ih =>
    rw [replaceRefs_array, replaceRefs_array]
    congr 1
    apply List.map_congr_left
    intro element helement
    apply ih element helement
    intro name hname
    exact h name (by rw [refs_array]; exact List.mem_flatMap.2 ⟨element, helement, hname⟩)
  | object members ih =>
    cases href : refName? members with
    | some name =>
      rw [refName?_eq_some_iff.1 href] at h ⊢
      simpa using h
    | none =>
      rw [replaceRefs_object f href, replaceRefs_object g href]
      congr 1
      apply List.map_congr_left
      intro member hmember
      rw [ih member hmember]
      intro name hname
      exact h name (by rw [refs_object href]; exact List.mem_flatMap.2 ⟨member, hmember, hname⟩)

/-- Replacing each reference by itself changes nothing. -/
theorem replaceRefs_schemaRef (j : Json) : replaceRefs schemaRef j = j := by
  induction j using containers_induction with
  | null => rfl
  | bool value => rfl
  | number value => rfl
  | string value => rfl
  | array elements ih =>
    rw [replaceRefs_array]
    congr 1
    calc
      elements.map (replaceRefs schemaRef) = elements.map id := List.map_congr_left ih
      _ = elements := List.map_id elements
  | object members ih =>
    cases href : refName? members with
    | some name => rw [refName?_eq_some_iff.1 href, replaceRefs_ref]
    | none =>
      rw [replaceRefs_object schemaRef href]
      congr 1
      calc
        members.map (fun member => (member.1, replaceRefs schemaRef member.2)) =
            members.map id := by
          apply List.map_congr_left
          intro member hmember
          rw [ih member hmember]
          rfl
        _ = members := List.map_id members

section
variable {f : String → Json} (hf : ∀ name text, f name ≠ string text)
include hf

theorem replaceRefs_eq_string {j : Json} {text : String} (h : replaceRefs f j = string text) :
    j = string text := by
  cases j with
  | object members =>
    rw [replaceRefs] at h
    split at h
    · exact absurd h (hf _ text)
    · simp at h
  | string value => simpa [replaceRefs] using h
  | _ => simp [replaceRefs] at h

/-- What is no reference does not become one by replacing what is in it. -/
theorem refName?_map_replaceRefs {members : List (String × Json)} (h : refName? members = none) :
    refName? (members.map fun member => (member.1, replaceRefs f member.2)) = none := by
  rw [Option.eq_none_iff_forall_ne_some]
  intro name hname
  have hmap := refName?_eq_some_iff.1 hname
  simp only [schemaRef, object.injEq, List.map_eq_singleton_iff, Prod.mk.injEq] at hmap
  rcases hmap with ⟨⟨key, value⟩, rfl, rfl, hvalue⟩
  have hstring := replaceRefs_eq_string hf hvalue
  dsimp only at hstring
  subst hstring
  have hsome : refName? [("$ref", string (schemaPath name))] = some name :=
    refName?_eq_some_iff.2 rfl
  rw [hsome] at h
  simp at h

/-- Replacing brings in no references but those of the replacements. -/
theorem mem_refs_replaceRefs {j : Json} {name : String} (h : name ∈ refs (replaceRefs f j)) :
    ∃ old ∈ refs j, name ∈ refs (f old) := by
  induction j using containers_induction with
  | array elements ih =>
    simp only [replaceRefs_array, refs_array, List.mem_flatMap, List.mem_map] at h
    rcases h with ⟨_, ⟨element, helement, rfl⟩, hname⟩
    rcases ih element helement hname with ⟨old, hold, hname⟩
    exact ⟨old, by rw [refs_array]; exact List.mem_flatMap.2 ⟨element, helement, hold⟩, hname⟩
  | object members ih =>
    cases href : refName? members with
    | some old =>
      rw [refName?_eq_some_iff.1 href] at h ⊢
      rw [replaceRefs_ref] at h
      exact ⟨old, by simp, h⟩
    | none =>
      rw [replaceRefs_object f href, refs_object (refName?_map_replaceRefs hf href)] at h
      simp only [List.mem_flatMap, List.mem_map] at h
      rcases h with ⟨_, ⟨member, hmember, rfl⟩, hname⟩
      rcases ih member hmember hname with ⟨old, hold, hname⟩
      exact ⟨old, by rw [refs_object href]; exact List.mem_flatMap.2 ⟨member, hmember, hold⟩, hname⟩
  | _ => simp [replaceRefs, refs] at h

end

end Json

/-! ## The references of schemas -/

namespace Schema

open Json

@[simp]
theorem refs_typeJson (type : JsonType) : refs (typeJson type) = [] := by
  rw [typeJson, refs_object (by simp [refName?])]
  simp [refs]

@[simp]
theorem refs_listJson (items : Json) : refs (listJson items) = refs items := by
  rw [listJson, refs_object (by simp [refName?])]
  simp [refs]

@[simp]
theorem replaceRefs_typeJson (f : String → Json) (type : JsonType) :
    replaceRefs f (typeJson type) = typeJson type := by
  rw [typeJson, replaceRefs_object f (by simp [refName?])]
  simp [replaceRefs]

@[simp]
theorem replaceRefs_listJson (f : String → Json) (items : Json) :
    replaceRefs f (listJson items) = listJson (replaceRefs f items) := by
  rw [listJson, replaceRefs_object f (by simp [refName?])]
  simp [replaceRefs, listJson]

/-- What a name is defined as is no text. -/
theorem definition_ne_string (key : String) (schema : Schema) (text : String) :
    schema.definition key ≠ .string text := by
  cases schema with
  | reference name =>
    rw [definition]
    split
    · simp
    · simp [schemaRef]
  | _ => simp [definition, typeJson, listJson, objectJson]

end Schema
end NodeApi
