import NodeApi.Entries
import NodeApi.Json.Number

/-!
# JSON values

The members of an object stand in a fixed order, and two objects are equal only if their members
stand in the same order.

Main results:

- Definition `depth`: how deep the containers of a value are nested.
- Theorem `distinctKeys_ofMembers`: an object made from members has no key twice.
-/

namespace NodeApi

open Json (Number)

/-- A JSON value. -/
inductive Json where
  | null
  | bool (value : Bool)
  | number (value : Number)
  | string (value : String)
  | array (elements : List Json)
  | object (members : List (String × Json))
deriving Inhabited

namespace Json

mutual

/-- Equality of values is decided along their structure. -/
def decEq : (a b : Json) → Decidable (a = b)
  | null, null => isTrue rfl
  | bool a, bool b => decidable_of_iff (a = b) (by simp)
  | number a, number b => decidable_of_iff (a = b) (by simp)
  | string a, string b => decidable_of_iff (a = b) (by simp)
  | array as, array bs =>
    match decEqAll as bs with
    | isTrue h => isTrue (by rw [h])
    | isFalse h => isFalse (by simpa using h)
  | object as, object bs =>
    match decEqMembers as bs with
    | isTrue h => isTrue (by rw [h])
    | isFalse h => isFalse (by simpa using h)
  | null, bool _ | null, number _ | null, string _ | null, array _ | null, object _
  | bool _, null | bool _, number _ | bool _, string _ | bool _, array _ | bool _, object _
  | number _, null | number _, bool _ | number _, string _ | number _, array _
  | number _, object _
  | string _, null | string _, bool _ | string _, number _ | string _, array _
  | string _, object _
  | array _, null | array _, bool _ | array _, number _ | array _, string _ | array _, object _
  | object _, null | object _, bool _ | object _, number _ | object _, string _
  | object _, array _ => isFalse (by simp)

/-- Equality of element lists. -/
def decEqAll : (as bs : List Json) → Decidable (as = bs)
  | [], [] => isTrue rfl
  | [], _ :: _ | _ :: _, [] => isFalse (by simp)
  | a :: as, b :: bs =>
    match decEq a b, decEqAll as bs with
    | isTrue h, isTrue hs => isTrue (by rw [h, hs])
    | isFalse h, _ => isFalse (by simp [h])
    | _, isFalse hs => isFalse (by simp [hs])

/-- Equality of member lists. -/
def decEqMembers : (as bs : List (String × Json)) → Decidable (as = bs)
  | [], [] => isTrue rfl
  | [], _ :: _ | _ :: _, [] => isFalse (by simp)
  | (k, a) :: as, (l, b) :: bs =>
    match decEq a b, decEqMembers as bs with
    | isTrue h, isTrue hs => decidable_of_iff (k = l) (by simp [h, hs])
    | isFalse h, _ => isFalse (by simp [h])
    | _, isFalse hs => isFalse (by simp [hs])

end

instance : DecidableEq Json :=
  decEq

/-- An object with the given members; a key that comes up again keeps its first place and takes
its last value. -/
def ofMembers (members : List (String × Json)) : Json :=
  object (Entries.settle members)

mutual

/-- How many containers stand around the deepest value, the value itself included if it is one. -/
def depth : Json → Nat
  | array elements => depthAll elements + 1
  | object members => depthMembers members + 1
  | null | bool _ | number _ | string _ => 0

/-- The depth of the deepest element. -/
def depthAll : List Json → Nat
  | [] => 0
  | element :: rest => max (depth element) (depthAll rest)

/-- The depth of the deepest member value. -/
def depthMembers : List (String × Json) → Nat
  | [] => 0
  | (_, value) :: rest => max (depth value) (depthMembers rest)

end

mutual

/-- Whether no object of the value has a key twice. -/
def distinctKeys : Json → Bool
  | array elements => distinctKeysAll elements
  | object members => decide (Entries.keys members).Nodup && distinctKeysMembers members
  | null | bool _ | number _ | string _ => true

/-- Whether no element has an object with a key twice. -/
def distinctKeysAll : List Json → Bool
  | [] => true
  | element :: rest => distinctKeys element && distinctKeysAll rest

/-- Whether no member value has an object with a key twice. -/
def distinctKeysMembers : List (String × Json) → Bool
  | [] => true
  | (_, value) :: rest => distinctKeys value && distinctKeysMembers rest

end

theorem distinctKeysAll_iff (elements : List Json) :
    distinctKeysAll elements = true ↔ ∀ element ∈ elements, distinctKeys element = true := by
  induction elements with
  | nil => simp [distinctKeysAll]
  | cons element rest ih => simp [distinctKeysAll, ih]

theorem distinctKeysMembers_iff (members : List (String × Json)) :
    distinctKeysMembers members = true ↔ ∀ member ∈ members, distinctKeys member.2 = true := by
  induction members with
  | nil => simp [distinctKeysMembers]
  | cons member rest ih => simp [distinctKeysMembers, ih]

theorem mem_put {key : String} {value : Json} {members : List (String × Json)}
    {member : String × Json} (h : member ∈ Entries.put key value members) :
    member = (key, value) ∨ member ∈ members := by
  induction members with
  | nil => simpa [Entries.put] using h
  | cons first rest ih =>
    by_cases hkey : first.1 = key
    · simp only [Entries.put, hkey, if_true, List.mem_cons] at h ⊢
      exact h.imp_right .inr
    · simp only [Entries.put, hkey, if_false, List.mem_cons] at h ⊢
      rcases h with h | h
      · exact .inr (.inl h)
      · exact (ih h).imp_right .inr

/-- An object made from members whose values have no repeated keys has none either. -/
theorem distinctKeys_ofMembers {members : List (String × Json)}
    (h : ∀ member ∈ members, distinctKeys member.2 = true) :
    distinctKeys (ofMembers members) = true := by
  simp only [ofMembers, distinctKeys, Bool.and_eq_true, decide_eq_true_eq]
  refine ⟨Entries.nodup_keys_settle members, (distinctKeysMembers_iff _).2 ?_⟩
  unfold Entries.settle
  suffices ∀ settled : List (String × Json), (∀ member ∈ settled, distinctKeys member.2 = true) →
      ∀ member ∈ members.foldl (fun settled entry => Entries.put entry.1 entry.2 settled) settled,
        distinctKeys member.2 = true from this [] (by simp)
  induction members with
  | nil => exact fun _ hsettled => hsettled
  | cons first rest ih =>
    intro settled hsettled
    refine ih (fun member hmember => h member (List.mem_cons_of_mem _ hmember)) _ ?_
    intro member hmember
    rcases mem_put hmember with rfl | hmember
    · exact h first List.mem_cons_self
    · exact hsettled member hmember

end Json
end NodeApi
