import NodeApi.Proofs.Json.Agreement
import NodeApi.Proofs.Json.Reading
import NodeApi.Proofs.Json.References

/-!
# Repeated keys in texts

An object of a text may have a key several times.  The value that is read off the text has every key
once, at its first place and with its last value.

Main results:

- Theorem `settles_settled`: what remains of a value when its repeated keys are settled.
- Theorem `read_eq`: reading settles the repeated keys of what is written in a text.
- Theorem `TextOf.eq_of_read`: it settles those of what the text spells by the grammar.
- Theorem `Exact.readWritten_print`: a printed value is written in its text as it is.
-/

namespace NodeApi
namespace Json

/-! ## Settled values -/

/-- What remains of a value when every object of it keeps each key once, at its first place and with
what remains of its last value. -/
inductive Settles : Json → Json → Prop where
  | null : Settles .null .null
  | bool (value : Bool) : Settles (.bool value) (.bool value)
  | number (value : Number) : Settles (.number value) (.number value)
  | string (value : String) : Settles (.string value) (.string value)
  | array {elements remaining : List Json} :
      List.Forall₂ Settles elements remaining → Settles (.array elements) (.array remaining)
  | object {members remaining : List (String × Json)} (last : String → Json) :
      Entries.keys remaining = (Entries.keys members).eraseDups →
      (∀ member ∈ remaining, Entries.IsLast member.1 (last member.1) members) →
      (∀ member ∈ remaining, Settles (last member.1) member.2) →
        Settles (.object members) (.object remaining)

mutual

/-- The value with the repeated keys of all its objects settled. -/
def settled : Json → Json
  | array elements => array (settledAll elements)
  | object members => ofMembers (settledMembers members)
  | null => null
  | bool value => bool value
  | number value => number value
  | string value => string value

/-- Elements with repeated keys settled. -/
def settledAll : List Json → List Json
  | [] => []
  | element :: rest => settled element :: settledAll rest

/-- Members with the repeated keys in their values settled. -/
def settledMembers : List (String × Json) → List (String × Json)
  | [] => []
  | (key, value) :: rest => (key, settled value) :: settledMembers rest

end

theorem settled_array (elements : List Json) :
    (array elements).settled = array (elements.map settled) := by
  rw [settled]
  congr 1
  induction elements with
  | nil => rfl
  | cons element rest ih => rw [settledAll, ih, List.map_cons]

theorem settled_object (members : List (String × Json)) :
    (object members).settled = ofMembers (members.map (Prod.map id settled)) := by
  rw [settled]
  congr 1
  induction members with
  | nil => rfl
  | cons member rest ih =>
    rw [settledMembers, ih]
    rfl

/-- What remains of a value when its repeated keys are settled. -/
theorem settles_settled (j : Json) : j.Settles j.settled := by
  induction j using containers_induction with
  | null => exact .null
  | bool value => exact .bool value
  | number value => exact .number value
  | string value => exact .string value
  | array elements ih =>
    rw [settled_array]
    exact .array (List.forall₂_map_right_iff.2 (List.forall₂_same.2 ih))
  | object members ih =>
    rw [settled_object, ofMembers]
    have hsettles := Entries.settles_settle (members.map (Prod.map id settled))
    -- the last value of a key, brought back from the settled values
    have hlast : ∀ member ∈ Entries.settle (members.map (Prod.map id settled)),
        ∃ value, Table.valueOf member.1 members.reverse = some value ∧
          settled value = member.2 := by
      intro member hmember
      have hvalue := Entries.isLast_iff.1 (hsettles.last member hmember)
      rwa [← List.map_reverse, Entries.valueOf_map, Option.map_eq_some_iff] at hvalue
    refine .object (fun key => (Table.valueOf key members.reverse).getD .null) ?_ ?_ ?_
    · rw [hsettles.keys, Entries.keys, List.map_map]
      rfl
    · intro member hmember
      rcases hlast member hmember with ⟨value, hvalue, _⟩
      rw [hvalue]
      exact Entries.isLast_iff.2 hvalue
    · intro member hmember
      rcases hlast member hmember with ⟨value, hvalue, heq⟩
      rcases Entries.isLast_iff.2 hvalue with ⟨before, after, hmembers, _⟩
      rw [hvalue, ← heq]
      exact ih (member.1, value) (by rw [hmembers]; simp)

/-! ## What is written in a text -/

/-- Reads a value that may nest `depth` containers, with all members that its objects have in the
text. -/
def readWrittenValue (depth : Nat) : Reader Json := fun s =>
  match skipBlanks s with
  | [] => stopAt .endInValue []
  | c :: rest =>
    if c = '[' then
      match depth with
      | 0 => stopAt .tooDeep (c :: rest)
      | inner + 1 => (readElements (readWrittenValue inner) rest).map fun (elements, rest) =>
          (.array elements, rest)
    else if c = '\x7b' then
      match depth with
      | 0 => stopAt .tooDeep (c :: rest)
      | inner + 1 => (readMembers (readMember (readWrittenValue inner)) rest).map
          fun (members, rest) => (.object members, rest)
    else readScalar (c :: rest)

/-- The value that is written in a JSON text, with the repeated keys that the text has. -/
def readWritten (text : String) : Except Error Json :=
  readAll (readWrittenValue maxDepth) text

/-- In what is no container no key is repeated. -/
theorem readScalar_settled (s : List Char) :
    readScalar s = (readScalar s).map (Prod.map settled id) := by
  cases h : readScalar s with
  | error fault => rfl
  | ok result =>
    rcases result with ⟨j, rest⟩
    rcases readScalar_cases h with rfl | ⟨value, rfl⟩ | ⟨value, rfl⟩ | ⟨value, rfl, _⟩ <;> rfl

/-- Reading settles the repeated keys of what is written. -/
theorem readValue_eq (n : Nat) (s : List Char) :
    readValue n s = (readWrittenValue n s).map (Prod.map settled id) := by
  induction n generalizing s with
  | zero =>
    rw [readValue, readWrittenValue]
    rcases skipBlanks s with _ | ⟨c, rest⟩
    · rfl
    dsimp only
    split
    · rfl
    split
    · rfl
    · exact readScalar_settled (c :: rest)
  | succ n ih =>
    rw [readValue, readWrittenValue]
    rcases skipBlanks s with _ | ⟨c, rest⟩
    · rfl
    dsimp only
    split
    · rw [readElements, readItems_map ih, ← readElements]
      cases readElements (readWrittenValue n) rest with
      | error fault => rfl
      | ok result => exact congrArg (fun j => Except.ok (j, result.2)) (settled_array _).symm
    split
    · rw [readMembers, readItems_map (readMember_map ih), ← readMembers]
      cases readMembers (readMember (readWrittenValue n)) rest with
      | error fault => rfl
      | ok result => exact congrArg (fun j => Except.ok (j, result.2)) (settled_object _).symm
    · exact readScalar_settled (c :: rest)

/-- Reading settles the repeated keys of what is written in a text. -/
theorem read_eq (text : String) : read text = (readWritten text).map settled :=
  readAll_map (readValue_eq maxDepth) text

/-! ## What is spelled in a text -/

/-- A value that is no container is spelled. -/
theorem spells_of_readScalar {s t rest : List Char} {j : Json} (hs : skipBlanks s = t)
    (h : readScalar t = .ok (j, rest)) : Spells s j rest := by
  cases t with
  | nil => cases h
  | cons c t =>
    rw [readScalar] at h
    split at h
    · rename_i hc
      rcases readKeyword_eq_ok_iff.1 h with ⟨rfl, rfl⟩
      exact .null (hc ▸ hs)
    split at h
    · rename_i hc
      rcases readKeyword_eq_ok_iff.1 h with ⟨rfl, rfl⟩
      exact .ofTrue (hc ▸ hs)
    split at h
    · rename_i hc
      rcases readKeyword_eq_ok_iff.1 h with ⟨rfl, rfl⟩
      exact .ofFalse (hc ▸ hs)
    split at h
    · rename_i hc
      rcases map_eq_ok_iff.1 h with ⟨⟨text, _⟩, hread, heq⟩
      cases heq
      exact .string (hc ▸ hs) (.known (readLiteral_eq_ok_iff.1 hread))
    split at h
    · rename_i hc
      rcases map_eq_ok_iff.1 h with ⟨⟨x, _⟩, hread, heq⟩
      cases heq
      rcases bind_eq_ok_iff.1 hread with ⟨⟨numeral, _⟩, hnumeral, hvalue⟩
      dsimp only at hvalue
      split at hvalue
      · rename_i hx
        cases hvalue
        have hj : ofNumeral numeral = .number x := by rw [ofNumeral, hx]; rfl
        exact hj ▸ .number (hs ▸ readNumeral_eq_ok_iff.1 hnumeral)
      · cases hvalue
    · cases h

/-- What is written in a text is what the text spells. -/
theorem spells_of_readWrittenValue {n : Nat} {s rest : List Char} {j : Json}
    (h : readWrittenValue n s = .ok (j, rest)) : Spells s j rest := by
  induction n generalizing s j rest with
  | zero =>
    rw [readWrittenValue] at h
    split at h
    · cases h
    rename_i c t hs
    split at h
    · cases h
    split at h
    · cases h
    · exact spells_of_readScalar hs h
  | succ n ih =>
    have hspells {s : List Char} {j : Json} {rest : List Char}
        (h : readWrittenValue n s = .ok (j, rest)) : ∃ j', Spells s j' rest ∧ j' = j :=
      ⟨j, ih h, rfl⟩
    rw [readWrittenValue] at h
    split at h
    · cases h
    rename_i c t hs
    split at h
    · rename_i hc
      rcases map_eq_ok_iff.1 h with ⟨⟨elements, _⟩, hread, heq⟩
      cases heq
      rcases spellsElements_of_readElements hspells hread with ⟨spelled, hall, heq⟩
      rw [List.forall₂_eq_eq_eq] at heq
      exact .array (hc ▸ hs) (heq ▸ hall)
    split at h
    · rename_i hc
      rcases map_eq_ok_iff.1 h with ⟨⟨members, _⟩, hread, heq⟩
      cases heq
      rcases spellsMembers_of_readMembers hspells hread with ⟨spelled, hall, heq⟩
      have heq : List.Forall₂ Eq spelled members :=
        heq.imp fun _ _ h => Prod.ext h.1.symm h.2
      rw [List.forall₂_eq_eq_eq] at heq
      exact .object (hc ▸ hs) (heq ▸ hall)
    · exact spells_of_readScalar hs h

/-- The value that is read off a text is what the text spells, with its repeated keys settled. -/
theorem TextOf.eq_of_read {text : String} {j written : Json} (hwritten : TextOf text written)
    (h : read text = .ok j) : j = written.settled := by
  rw [read_eq] at h
  rcases map_eq_ok_iff.1 h with ⟨written', hread, rfl⟩
  rcases readAll_eq_ok_iff.1 hread with ⟨rest, hvalue, hrest⟩
  rw [hwritten.unique ⟨rest, spells_of_readWrittenValue hvalue, hrest⟩]

/-! ## What is written in the text of a value -/

theorem readWrittenValue_congr (n : Nat) {s t : List Char} (h : skipBlanks s = skipBlanks t) :
    readWrittenValue n s = readWrittenValue n t := by
  rw [readWrittenValue, readWrittenValue, h]

theorem readWrittenValue_list (n : Nat) (s : List Char) :
    readWrittenValue (n + 1) ('[' :: s) = (readElements (readWrittenValue n) s).map
      fun (elements, rest) => (.array elements, rest) := by
  rw [readWrittenValue, skipBlanks_of_not_isBlank (by decide)]
  rfl

theorem readWrittenValue_object (n : Nat) (s : List Char) :
    readWrittenValue (n + 1) ('\x7b' :: s) = (readMembers (readMember (readWrittenValue n)) s).map
      fun (members, rest) => (.object members, rest) := by
  rw [readWrittenValue, skipBlanks_of_not_isBlank (by decide)]
  rfl

/-- A value that is no container is written as it is read. -/
theorem readWrittenValue_of_depth_eq_zero {n : Nat} {j : Json} {s rest : List Char}
    (hdepth : j.depth = 0) (h : readValue n s = .ok (j, rest)) :
    readWrittenValue n s = .ok (j, rest) := by
  rw [readValue_eq] at h
  rcases map_eq_ok_iff.1 h with ⟨⟨written, rest'⟩, hread, heq⟩
  rw [hread]
  cases written with
  | array elements =>
    rw [Prod.map, settled_array] at heq
    cases heq
    simp [depth] at hdepth
  | object members =>
    rw [Prod.map, settled_object] at heq
    cases heq
    simp [ofMembers, depth] at hdepth
  | _ =>
    cases heq
    rfl

/-- What is written is too deep if what is read is. -/
theorem RunsTooDeep.readWrittenValue_eq {n : Nat} {j : Json} (h : RunsTooDeep n j) (layout : Layout)
    (indent : Nat) (rest : List Char) :
    ∃ unread, readWrittenValue n (write layout indent j rest) = stopAt .tooDeep unread := by
  rcases h layout indent rest with ⟨unread, hstop⟩
  rw [readValue_eq] at hstop
  refine ⟨unread, ?_⟩
  cases hread : readWrittenValue n (write layout indent j rest) with
  | error fault =>
    rw [hread] at hstop
    exact congrArg Except.error (Except.error.inj hstop)
  | ok result =>
    rw [hread] at hstop
    cases hstop

theorem ReadsBack.depth_le {n : Nat} {j : Json} (hexact : j.Exact) (h : ReadsBack n j) :
    j.depth ≤ n := by
  rcases hexact.decidedByDepth n with ⟨hdepth, _⟩ | ⟨_, hdeep⟩
  · exact hdepth
  · rcases hdeep .compact 0 [] with ⟨unread, hstop⟩
    rw [h .compact 0 [] endsNumber_nil] at hstop
    cases hstop

/-- A list is written as it is, if its elements are. -/
theorem readWrittenValue_array {n : Nat} (hreader : ReadsAlike n (readWrittenValue n))
    {elements : List Json} (hexact : ∀ element ∈ elements, element.Exact)
    (hdepth : ∀ element ∈ elements, element.depth ≤ n) (layout : Layout) (indent : Nat)
    (rest : List Char) :
    readWrittenValue (n + 1) (write layout indent (.array elements) rest) =
      .ok (.array elements, rest) := by
  cases elements with
  | nil =>
    rw [write, readWrittenValue_list]
    rfl
  | cons element elements =>
    rw [write_array_cons, readWrittenValue_list]
    rcases readElements_listText layout (indent + 1) indent hreader
        (fun e he => ⟨hexact e he, (hexact e he).decidedByDepth n⟩) rest with
      ⟨_, hok⟩ | ⟨⟨e, he, hdeep⟩, _⟩
    · rw [hok]
      rfl
    · exact absurd hdeep (Nat.not_lt.2 (hdepth e he))

/-- An object is written as it is, if its member values are. -/
theorem readWrittenValue_members {n : Nat} (hreader : ReadsAlike n (readWrittenValue n))
    {members : List (String × Json)} (hexact : ∀ member ∈ members, member.2.Exact)
    (hdepth : ∀ member ∈ members, member.2.depth ≤ n) (layout : Layout) (indent : Nat)
    (rest : List Char) :
    readWrittenValue (n + 1) (write layout indent (.object members) rest) =
      .ok (.object members, rest) := by
  cases members with
  | nil =>
    rw [write, readWrittenValue_object]
    rfl
  | cons member members =>
    rw [write_object_cons, readWrittenValue_object]
    rcases readMembers_objectText layout (indent + 1) indent hreader
        (fun m hm => ⟨hexact m hm, (hexact m hm).decidedByDepth n⟩) rest with
      ⟨_, hok⟩ | ⟨⟨m, hm, hdeep⟩, _⟩
    · rw [hok]
      rfl
    · exact absurd hdeep (Nat.not_lt.2 (hdepth m hm))

/-- Printed values are written as they are, if they are not too deep. -/
theorem readsAlike_readWrittenValue (n : Nat) : ReadsAlike n (readWrittenValue n) := by
  induction n with
  | zero =>
    refine ⟨readWrittenValue_congr 0, fun hexact hback layout indent rest hrest => ?_,
      RunsTooDeep.readWrittenValue_eq⟩
    exact readWrittenValue_of_depth_eq_zero (Nat.le_zero.1 (hback.depth_le hexact))
      (hback layout indent rest hrest)
  | succ n ih =>
    refine ⟨readWrittenValue_congr (n + 1), fun hexact hback layout indent rest hrest => ?_,
      RunsTooDeep.readWrittenValue_eq⟩
    have hdepth := hback.depth_le hexact
    cases hexact with
    | array hall =>
      exact readWrittenValue_array ih hall (depth_array_le_iff.1 hdepth) layout indent rest
    | object _ hall =>
      exact readWrittenValue_members ih hall (depth_object_le_iff.1 hdepth) layout indent rest
    | _ => exact readWrittenValue_of_depth_eq_zero rfl (hback layout indent rest hrest)

/-- A printed value is written in its text as it is. -/
theorem Exact.readWritten_print {j : Json} (h : j.Exact) (layout : Layout)
    (hdepth : j.depth ≤ maxDepth) : readWritten (j.print layout) = .ok j := by
  rcases h.decidedByDepth maxDepth with ⟨_, hback⟩ | ⟨hdeep, _⟩
  · have hread := (readsAlike_readWrittenValue maxDepth).readsBack h hback layout 0 []
      endsNumber_nil
    rw [readWritten, readAll, print, String.toList_ofList, hread]
    rfl
  · omega

end Json
end NodeApi
