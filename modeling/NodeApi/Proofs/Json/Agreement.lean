import NodeApi.Proofs.Json.Record
import NodeApi.Proofs.Json.Spelling

/-!
# Decoding a text and decoding its value

A decoder makes a value of a text without building the JSON value that the text spells.  It agrees
with itself if it makes the same of this JSON value.  Records, lists and objects agree if their
parts do: what no field asks for is passed over in the text as well as in the value.

Main results:

- Theorem `nextElement_eq_item` and `nextMember_eq_item`: how a reader moves to the next item.
- Theorems `Decoder.Agrees.list`, `Decoder.Agrees.members` and `Record.decoder_agrees`: containers
  agree if their parts do.
- Theorem `Decoder.Agrees.ofText`: what is decoded from a text is decoded from the value that the
  text spells.
-/

namespace NodeApi
namespace Json

/-! ## Items in a row -/

section
variable {first : Bool} {s rest : List Char}

theorem nextElement_eq_closed (h : nextElement first s = .ok (.closed rest)) :
    skipBlanks s = ']' :: rest := by
  unfold nextElement at h
  split at h
  · cases h
  rename_i c t hs
  split at h
  · rename_i hc
    cases h
    exact hc ▸ hs
  split at h
  · cases h
  split at h
  · split at h
    · cases h
    · split at h <;> cases h
  · cases h

theorem nextElement_eq_item (h : nextElement first s = .ok (.item rest)) :
    ∃ t, AtItem first s t ∧ skipBlanks t = rest := by
  unfold nextElement at h
  split at h
  · cases h
  rename_i c t hs
  split at h
  · cases h
  cases first with
  | true =>
    cases h
    exact ⟨s, .first, hs⟩
  | false =>
    rw [if_neg (by decide)] at h
    split at h
    · rename_i hc
      split at h
      · cases h
      rename_i d u ht
      split at h
      · cases h
      · cases h
        exact ⟨t, .comma (hc ▸ hs), ht⟩
    · cases h

theorem nextMember_eq_closed (h : nextMember first s = .ok (.closed rest)) :
    skipBlanks s = '\x7d' :: rest := by
  unfold nextMember at h
  split at h
  · cases h
  rename_i c t hs
  split at h
  · rename_i hc
    cases h
    exact hc ▸ hs
  split at h
  · split at h <;> cases h
  split at h
  · split at h
    · cases h
    · split at h
      · cases h
      · split at h <;> cases h
  · cases h

theorem nextMember_eq_item (h : nextMember first s = .ok (.item rest)) :
    ∃ t, AtItem first s t ∧ skipBlanks t = '"' :: rest := by
  unfold nextMember at h
  split at h
  · cases h
  rename_i c t hs
  split at h
  · cases h
  cases first with
  | true =>
    rw [if_pos rfl] at h
    split at h
    · rename_i hc
      cases h
      exact ⟨s, .first, hc ▸ hs⟩
    · cases h
  | false =>
    rw [if_neg (by decide)] at h
    split at h
    · rename_i hc
      split at h
      · cases h
      rename_i d u ht
      split at h
      · rename_i hd
        cases h
        exact ⟨t, .comma (hc ▸ hs), hd ▸ ht⟩
      · split at h <;> cases h
    · cases h

end

section
variable {α : Type} {R : Json → α → Prop} {read : Reader α}
  (hread : ∀ {s x rest}, read s = .ok (x, rest) → ∃ j, Spells s j rest ∧ R j x)
  {missing : Malformation} {bound s rest : List Char} {first : Bool}
include hread

theorem spellsElements_of_foldItems {gathered all : List α}
    (h : foldItems nextElement missing (gather read) bound first gathered s = .ok (all, rest)) :
    ∃ elements xs, SpellsElements first s elements rest ∧ List.Forall₂ R elements xs ∧
      all = xs.reverse ++ gathered := by
  induction bound generalizing first gathered s with
  | nil => cases h
  | cons b bound ih =>
    rcases foldItems_cons_eq_ok h with ⟨hnext, rfl⟩ | ⟨item, _, _, hnext, hstep, h⟩
    · exact ⟨[], [], .closed (nextElement_eq_closed hnext), .nil, rfl⟩
    · rcases nextElement_eq_item hnext with ⟨t, hat, rfl⟩
      rcases bind_eq_ok_iff.1 hstep with ⟨⟨x, u⟩, hx, heq⟩
      cases heq
      rcases hread hx with ⟨j, hj, hR⟩
      rcases ih h with ⟨elements, xs, hall, hRs, rfl⟩
      refine ⟨j :: elements, x :: xs, .item hat ?_ hall, .cons hR hRs, by simp⟩
      exact hj.of_skipBlanks_eq (skipBlanks_skipBlanks t)

/-- The elements of a list are spelled one by one. -/
theorem spellsElements_of_readElements {xs : List α} (h : readElements read s = .ok (xs, rest)) :
    ∃ elements, SpellsElements true s elements rest ∧ List.Forall₂ R elements xs := by
  rcases map_eq_ok_iff.1 h with ⟨⟨all, rest'⟩, hfold, heq⟩
  rcases spellsElements_of_foldItems hread hfold with ⟨elements, ys, hall, hR, rfl⟩
  cases heq
  refine ⟨elements, hall, ?_⟩
  rwa [List.append_nil, List.reverse_reverse]

theorem spellsMembers_of_foldItems {gathered all : List (String × α)}
    (h : foldItems nextMember missing (gather (readMember read)) bound first gathered s =
      .ok (all, rest)) :
    ∃ members entries, SpellsMembers first s members rest ∧
      EntriesOf R members entries ∧
        all = entries.reverse ++ gathered := by
  induction bound generalizing first gathered s with
  | nil => cases h
  | cons b bound ih =>
    rcases foldItems_cons_eq_ok h with ⟨hnext, rfl⟩ | ⟨item, _, _, hnext, hstep, h⟩
    · exact ⟨[], [], .closed (nextMember_eq_closed hnext), .nil, rfl⟩
    · rcases nextMember_eq_item hnext with ⟨u, hat, hquote⟩
      rcases bind_eq_ok_iff.1 hstep with ⟨⟨entry, v⟩, hentry, heq⟩
      cases heq
      rcases bind_eq_ok_iff.1 hentry with ⟨⟨key, w⟩, hkey, hentry⟩
      rcases bind_eq_ok_iff.1 hentry with ⟨x, hcolon, hentry⟩
      rcases bind_eq_ok_iff.1 hentry with ⟨⟨value, y⟩, hvalue, heq⟩
      cases heq
      rcases hread hvalue with ⟨j, hj, hR⟩
      rcases ih h with ⟨members, entries, hall, hRs, rfl⟩
      have hstring := SpellsString.known (readLiteral_eq_ok_iff.1 hkey)
      exact ⟨(key, j) :: members, (key, value) :: entries,
        .item hat hquote hstring (readColon_eq_ok hcolon) hj hall, .cons ⟨rfl, hR⟩ hRs, by simp⟩

/-- The members of an object are spelled one by one. -/
theorem spellsMembers_of_readMembers {entries : List (String × α)}
    (h : readMembers (readMember read) s = .ok (entries, rest)) :
    ∃ members, SpellsMembers true s members rest ∧
      EntriesOf R members entries := by
  rcases map_eq_ok_iff.1 h with ⟨⟨all, rest'⟩, hfold, heq⟩
  rcases spellsMembers_of_foldItems hread hfold with ⟨members, ys, hall, hR, rfl⟩
  cases heq
  refine ⟨members, hall, ?_⟩
  rwa [List.append_nil, List.reverse_reverse]

end

/-! ## Decoders -/

/-- A decoder agrees with itself: what it makes of the front of a text it makes of the value that is
spelled there. -/
def Decoder.Agrees {α : Type} (d : Decoder α) : Prop :=
  ∀ (depth : Nat) (s : List Char) (x : α) (rest : List Char),
    d.read depth s = .ok (x, rest) → ∃ j, Spells s j rest ∧ d.ofJson j = .ok x

theorem unfitText_ne_ok {α : Type} {s : List Char} {wanted : String} {x : α} :
    (unfitText s wanted : Except Fault α) ≠ .ok x := by
  intro h
  unfold unfitText at h
  split at h
  · cases h
  · cases h
  · split at h <;> cases h

theorem enter_eq_ok {α : Type} {depth : Nat} {s : List Char} {inside : Nat → Reader α}
    {result : α × List Char} (h : enter depth s inside = .ok result) :
    ∃ inner, inside inner s.tail = .ok result := by
  cases depth with
  | zero => cases h
  | succ inner => exact ⟨inner, h⟩

namespace Decoder

theorem agrees_string : string.Agrees := by
  intro depth s x rest h
  unfold string at h
  dsimp only at h
  split at h
  · rename_i hs
    exact ⟨.string x, .string hs (.known (readLiteral_eq_ok_iff.1 h)), rfl⟩
  · exact absurd h unfitText_ne_ok

theorem agrees_boolean : boolean.Agrees := by
  intro depth s x rest h
  unfold boolean at h
  dsimp only at h
  split at h
  · rename_i hs
    rcases readKeyword_eq_ok_iff.1 h with ⟨rfl, rfl⟩
    exact ⟨.bool true, .ofTrue hs, rfl⟩
  · rename_i hs
    rcases readKeyword_eq_ok_iff.1 h with ⟨rfl, rfl⟩
    exact ⟨.bool false, .ofFalse hs, rfl⟩
  · exact absurd h unfitText_ne_ok

namespace Agrees

variable {α β : Type} {d : Decoder α} (h : d.Agrees)
include h

protected theorem map (f : α → β) : (d.map f).Agrees := by
  intro depth s y rest hread
  rcases map_eq_ok_iff.1 hread with ⟨⟨x, rest'⟩, hx, heq⟩
  cases heq
  rcases h _ _ _ _ hx with ⟨j, hj, hvalue⟩
  exact ⟨j, hj, map_eq_ok_iff.2 ⟨x, hvalue, rfl⟩⟩

/-- An optional value agrees if null is no value itself. -/
protected theorem optional (hnull : ∀ x, d.ofJson .null ≠ .ok x) : d.optional.Agrees := by
  intro depth s y rest hread
  unfold Decoder.optional at hread
  dsimp only at hread
  split at hread
  · rename_i hs
    rcases readKeyword_eq_ok_iff.1 hread with ⟨rfl, rfl⟩
    exact ⟨.null, .null hs, rfl⟩
  · rcases map_eq_ok_iff.1 hread with ⟨⟨x, rest'⟩, hx, heq⟩
    obtain ⟨rfl, rfl⟩ := Prod.mk.inj heq
    rcases h _ _ _ _ hx with ⟨j, hj, hvalue⟩
    have hsome : d.optional.ofJson j = (d.ofJson j).map some := by
      cases j with
      | null => exact absurd hvalue (hnull x)
      | _ => rfl
    refine ⟨j, hj.of_skipBlanks_eq (skipBlanks_skipBlanks s), ?_⟩
    rw [hsome, hvalue]
    rfl

/-- A list agrees if its elements do. -/
protected theorem list : d.list.Agrees := by
  intro depth s xs rest hread
  unfold Decoder.list at hread
  dsimp only at hread
  split at hread
  · rename_i hs
    rcases enter_eq_ok hread with ⟨inner, hinside⟩
    rcases spellsElements_of_readElements (h _ _ _ _) hinside with ⟨elements, hall, hvalues⟩
    exact ⟨.array elements, .array hs hall, mapM_eq_ok_iff.2 hvalues⟩
  · exact absurd hread unfitText_ne_ok

/-- The members of an object agree if their values do. -/
protected theorem members : d.members.Agrees := by
  intro depth s entries rest hread
  unfold Decoder.members at hread
  dsimp only at hread
  split at hread
  · rename_i hs
    rcases enter_eq_ok hread with ⟨inner, hinside⟩
    rcases spellsMembers_of_readMembers (h _ _ _ _) hinside with ⟨members, hall, hvalues⟩
    refine ⟨.object members, .object hs hall, mapM_eq_ok_iff.2 (hvalues.imp ?_)⟩
    rintro member ⟨key, value⟩ ⟨rfl, hvalue⟩
    exact bind_eq_ok_iff.2 ⟨value, hvalue, rfl⟩
  · exact absurd hread unfitText_ne_ok

/-- What is decoded from a text is decoded from the value that the text spells. -/
protected theorem ofText {text : String} {x : α} (htext : d.ofText text = .ok x) :
    ∃ j, TextOf text j ∧ d.ofJson j = .ok x := by
  rcases readAll_eq_ok_iff.1 htext with ⟨rest, hread, hrest⟩
  rcases h _ _ _ _ hread with ⟨j, hj, hvalue⟩
  exact ⟨j, ⟨rest, hj, hrest⟩, hvalue⟩

end Agrees
end Decoder

/-! ## Records -/

section
variable {σ α : Type} {name : String} {value : Decoder α} {set : α → σ → σ} (h : value.Agrees)
include h

theorem Field.mandatory_agrees : (mandatory name value set).update.Agrees :=
  h.map set

theorem Field.defaulted_agrees : (defaulted name value set).update.Agrees :=
  h.map set

end

namespace Record

variable {σ : Type}

variable {r : Record σ} (hfields : ∀ f ∈ r.fields, f.update.Agrees)
include hfields

/-- A member that is read, from within its key on, is taken in from its value. -/
theorem takeMember_of_readInto {depth : Nat} {p q : Progress σ} {u v : Unit} {s rest : List Char}
    (h : r.readInto depth (fun _ _ s => do return ((), ← skipValue s)) (p, u) s =
      .ok ((q, v), rest)) :
    ∃ key t w j other, SpellsString s (some key) t ∧ skipBlanks t = ':' :: w ∧ Spells w j rest ∧
      r.takeMember p (key, j) = .ok (q, other) := by
  rcases bind_eq_ok_iff.1 h with ⟨⟨key, t⟩, hkey, h⟩
  have hstring := SpellsString.known (readLiteral_eq_ok_iff.1 hkey)
  dsimp only at h
  split at h
  · rename_i f hf
    split at h
    · cases h
    rename_i hseen
    rcases bind_eq_ok_iff.1 h with ⟨w, hcolon, h⟩
    rcases bind_eq_ok_iff.1 h with ⟨⟨update, rest'⟩, hupdate, heq⟩
    cases heq
    rcases hfields f (List.mem_of_find?_eq_some hf) _ _ _ _ hupdate with ⟨j, hj, hvalue⟩
    refine ⟨key, t, w, j, none, hstring, readColon_eq_ok hcolon, hj, ?_⟩
    rw [takeMember, hf]
    dsimp only
    rw [if_neg hseen, hvalue]
    rfl
  · rename_i hf
    rcases bind_eq_ok_iff.1 h with ⟨w, hcolon, h⟩
    rcases bind_eq_ok_iff.1 h with ⟨⟨_, rest'⟩, hother, heq⟩
    rcases bind_eq_ok_iff.1 hother with ⟨rest'', hskip, heq'⟩
    cases heq'
    cases heq
    rcases spells_of_skipValue hskip with ⟨j, hj⟩
    refine ⟨key, t, w, j, some (key, j), hstring, readColon_eq_ok hcolon, hj, ?_⟩
    rw [takeMember, hf]

/-- The members that are read, up to the closing bracket, are taken in from their values. -/
theorem takeMembers_of_foldItems {depth : Nat} {missing : Malformation} {first : Bool}
    {p q : Progress σ} {u v : Unit} {bound s rest : List Char}
    (h : foldItems nextMember missing
      (r.readInto depth fun _ _ s => do return ((), ← skipValue s)) bound first (p, u) s =
        .ok ((q, v), rest)) :
    ∃ members others, SpellsMembers first s members rest ∧
      r.takeMembers p members = .ok (q, others) := by
  induction bound generalizing first p u s with
  | nil => cases h
  | cons b bound ih =>
    rcases foldItems_cons_eq_ok h with ⟨hnext, heq⟩ | ⟨item, _, _, hnext, hstep, h⟩
    · cases heq
      exact ⟨[], [], .closed (nextMember_eq_closed hnext), rfl⟩
    · rcases nextMember_eq_item hnext with ⟨t, hat, hquote⟩
      rcases takeMember_of_readInto hfields hstep with
        ⟨key, x, y, j, other, hkey, hcolon, hj, htake⟩
      rcases ih h with ⟨members, others, hall, htakes⟩
      exact ⟨(key, j) :: members, _, .item hat hquote hkey hcolon hj hall,
        takeMembers_cons_eq_ok_iff.2 ⟨_, other, others, htake, htakes, rfl⟩⟩

theorem ofMembers_of_readObject {depth : Nat} {s rest : List Char} {x : σ}
    (h : r.readObject depth s = .ok (x, rest)) :
    ∃ members, SpellsMembers true s members rest ∧ r.ofMembers r.initial members = .ok x := by
  rcases bind_eq_ok_iff.1 h with ⟨⟨⟨p, _⟩, rest'⟩, hfold, h⟩
  rcases takeMembers_of_foldItems hfields hfold with ⟨members, others, hall, htake⟩
  dsimp only at h
  split at h
  · rename_i value hfinish
    cases h
    refine ⟨members, hall, bind_eq_ok_iff.2 ⟨(p, others), htake, ?_⟩⟩
    dsimp only
    rw [hfinish]
    rfl
  · cases h

omit hfields in
theorem readListEnd_eq_ok {s rest : List Char} (h : readListEnd s = .ok rest) :
    skipBlanks s = ']' :: rest := by
  unfold readListEnd at h
  split at h
  · cases h
  rename_i c t hs
  split at h
  · rename_i hc
    cases h
    exact hc ▸ hs
  split at h
  · split at h <;> cases h
  · cases h

omit hfields in
/-- The fields that are read in their order are decoded from the elements of a list. -/
theorem ofElements_of_readInOrder {depth index : Nat} {fields : List (Field σ)}
    (hfields : ∀ f ∈ fields, f.update.Agrees) {value x : σ} {s rest : List Char}
    (h : r.readInOrder depth fields index value s = .ok (x, rest)) :
    ∃ elements, SpellsElements (index == 0) s elements rest ∧
      ∀ count, r.ofElements count fields index value elements = .ok x := by
  induction fields generalizing index value s with
  | nil =>
    rcases bind_eq_ok_iff.1 h with ⟨rest', hend, heq⟩
    cases heq
    exact ⟨[], .closed (readListEnd_eq_ok hend), fun _ => rfl⟩
  | cons f fields ih =>
    rw [readInOrder] at h
    rcases bind_eq_ok_iff.1 h with ⟨upcoming, hnext, h⟩
    cases upcoming with
    | closed rest' =>
      dsimp only at h
      split at h
      · cases h
      · rename_i hrequired
        cases h
        refine ⟨[], .closed (nextElement_eq_closed hnext), fun count => ?_⟩
        simp only [ofElements, hrequired]
    | item t =>
      rcases nextElement_eq_item hnext with ⟨t, hat, rfl⟩
      rcases bind_eq_ok_iff.1 h with ⟨⟨update, u⟩, hupdate, h⟩
      rcases hfields f List.mem_cons_self _ _ _ _ hupdate with ⟨j, hj, hvalue⟩
      rcases ih (fun f hf => hfields f (List.mem_cons_of_mem _ hf)) h with ⟨elements, hall, hrest⟩
      have hj : Spells t j u := hj.of_skipBlanks_eq (skipBlanks_skipBlanks t)
      refine ⟨j :: elements, .item hat hj hall, fun count => ?_⟩
      rw [ofElements, hvalue]
      exact hrest count

/-- A record agrees if the values of its fields do. -/
theorem decoder_agrees : r.decoder.Agrees := by
  intro depth s x rest h
  unfold decoder at h
  dsimp only at h
  split at h
  · rename_i hs
    rcases enter_eq_ok h with ⟨inner, hinside⟩
    rcases ofMembers_of_readObject hfields hinside with ⟨members, hall, hvalue⟩
    exact ⟨.object members, .object hs hall, hvalue⟩
  · rename_i hs
    rcases enter_eq_ok h with ⟨inner, hinside⟩
    rcases ofElements_of_readInOrder hfields hinside with ⟨elements, hall, hvalue⟩
    exact ⟨.array elements, .array hs hall, hvalue elements.length⟩
  · exact absurd h unfitText_ne_ok

end Record

/-! ## Texts and values -/

/-- JSON as it is given: a text or a value. -/
inductive Source where
  | text (text : String)
  | value (json : Json)

/-- Decodes what is given. -/
def Decoder.decode {α : Type} (d : Decoder α) : Source → Except Error α
  | .text text => d.ofText text
  | .value json => d.ofJson json

/-- The value that is given: a text spells it. -/
inductive Source.Gives : Source → Json → Prop where
  | text {text : String} {json : Json} : TextOf text json → Gives (.text text) json
  | value (json : Json) : Gives (.value json) json

/-- What is decoded is decoded from the value that is given. -/
theorem Decoder.Agrees.decode {α : Type} {d : Decoder α} (h : d.Agrees) {source : Source} {x : α}
    (hx : d.decode source = .ok x) : ∃ json, source.Gives json ∧ d.ofJson json = .ok x := by
  cases source with
  | text text =>
    rcases h.ofText hx with ⟨json, htext, hvalue⟩
    exact ⟨json, .text htext, hvalue⟩
  | value json => exact ⟨json, .value json, hx⟩

end Json
end NodeApi
