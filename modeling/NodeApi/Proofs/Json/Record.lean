import Mathlib.Data.List.Nodup
import NodeApi.Json.Record
import NodeApi.Proofs.Json.Outcome

/-!
# Fields of a record

A record is decoded from an object, whose members may stand in any order, or from a list of its
fields.  A part of the record that one field alone has a say in is settled by what the value holds
for this field: the only member of its name, or the element at its place.  If the value holds
nothing for it, the field may be left out, and the part is as it was initially.

Main results:

- Theorem `Record.takeMembers_cons_eq_ok_iff`: members are taken in one after the other.
- Theorem `Record.Governs.of_takeMembers`: what an object settles.
- Theorem `Record.Governs.of_ofElements`: what a list settles.
- Theorems `Record.Governs.mandatory` and `Record.Governs.defaulted`: what a value settles by a
  field that has to be there, and by one that may be left out.
-/

namespace NodeApi
namespace Json

/-! ## Parts of a value -/

/-- Entries are made of members one by one, each with its key and of its value. -/
def EntriesOf {α : Type} (R : Json → α → Prop) :
    List (String × Json) → List (String × α) → Prop :=
  List.Forall₂ fun member entry => entry.1 = member.1 ∧ R member.2 entry.2

/-- The members of an object are decoded one by one. -/
theorem Decoder.exists_members_of_ofJson {α : Type} {d : Decoder α} {R : Json → α → Prop}
    (hR : ∀ {json x}, d.ofJson json = .ok x → R json x) {json : Json} {entries : List (String × α)}
    (h : d.members.ofJson json = .ok entries) :
    ∃ members, json = .object members ∧ EntriesOf R members entries := by
  cases json with
  | object members =>
    refine ⟨members, rfl, (mapM_eq_ok_iff.1 h).imp fun member entry hentry => ?_⟩
    rcases bind_eq_ok_iff.1 hentry with ⟨value, hvalue, heq⟩
    obtain rfl : (member.1, value) = entry := Except.ok.inj heq
    exact ⟨rfl, hR hvalue⟩
  | _ => cases h

/-- The elements of a list are decoded one by one. -/
theorem Decoder.exists_elements_of_ofJson {α : Type} {d : Decoder α} {R : Json → α → Prop}
    (hR : ∀ {json x}, d.ofJson json = .ok x → R json x) {json : Json} {xs : List α}
    (h : d.list.ofJson json = .ok xs) :
    ∃ elements, json = .array elements ∧ List.Forall₂ R elements xs := by
  cases json with
  | array elements => exact ⟨elements, rfl, (mapM_eq_ok_iff.1 h).imp fun _ _ => hR⟩
  | _ => cases h

theorem Decoder.eq_of_string {json : Json} {s : String} (h : string.ofJson json = .ok s) :
    json = .string s := by
  cases json with
  | string t => exact congrArg Json.string (Except.ok.inj h)
  | _ => cases h

theorem Decoder.eq_of_boolean {json : Json} {b : Bool} (h : boolean.ofJson json = .ok b) :
    json = .bool b := by
  cases json with
  | bool c => exact congrArg Json.bool (Except.ok.inj h)
  | _ => cases h

/-- Text that may be missing: it is not there, or it is null. -/
inductive OptionalText : Option Json → Option String → Prop where
  | some (text : String) : OptionalText (some (.string text)) (some text)
  | null : OptionalText (some .null) none
  | none : OptionalText none none

theorem Decoder.optionalText_of_ofJson {json : Json} {text : Option String}
    (h : string.optional.ofJson json = .ok text) : OptionalText (some json) text := by
  cases json with
  | null =>
    cases h
    exact .null
  | string t =>
    cases h
    exact .some t
  | _ => cases h

/-- What a value holds for a field of this name and place. -/
inductive FieldAt (name : String) (place : Nat) : Json → Option Json → Prop where
  | member {before after : List (String × Json)} {value : Json} :
      name ∉ Entries.keys before → name ∉ Entries.keys after →
        FieldAt name place (.object (before ++ (name, value) :: after)) (some value)
  | noMember {members : List (String × Json)} :
      name ∉ Entries.keys members → FieldAt name place (.object members) none
  | element (elements : List Json) : FieldAt name place (.array elements) elements[place]?

/-! ## Fields -/

variable {σ β : Type}

/-- A field has no say in a part of its record. -/
def Field.Leaves (f : Field σ) (part : σ → β) : Prop :=
  ∀ {json : Json} {update : σ → σ} (t : σ), f.update.ofJson json = .ok update →
    part (update t) = part t

section
variable {α : Type} (name : String) (value : Decoder α) (set : α → σ → σ)

@[simp]
theorem Field.mandatory_leaves {part : σ → β} (h : ∀ a t, part (set a t) = part t) :
    (mandatory name value set).Leaves part := by
  intro json update t hupdate
  rcases map_eq_ok_iff.1 hupdate with ⟨a, _, rfl⟩
  exact h a t

@[simp]
theorem Field.defaulted_leaves {part : σ → β} (h : ∀ a t, part (set a t) = part t) :
    (defaulted name value set).Leaves part :=
  mandatory_leaves name value set h

end

namespace Record

variable {r : Record σ}

/-- A field of a record alone has a say in a part of it. -/
structure Governs (r : Record σ) (place : Nat) (f : Field σ) (part : σ → β) : Prop where
  field : r.fields[place]? = some f
  names : (r.fields.map (·.name)).Nodup
  others : ∀ g ∈ r.fields, g.name ≠ f.name → g.Leaves part

/-- Members are taken in one after the other. -/
theorem takeMembers_cons_eq_ok_iff {p q : Progress σ} {member : String × Json}
    {rest others : List (String × Json)} :
    r.takeMembers p (member :: rest) = .ok (q, others) ↔
      ∃ p' other others', r.takeMember p member = .ok (p', other) ∧
        r.takeMembers p' rest = .ok (q, others') ∧ others = other.toList ++ others' := by
  rw [takeMembers, bind_eq_ok_iff]
  constructor
  · rintro ⟨⟨p', other⟩, hfirst, htail⟩
    rcases bind_eq_ok_iff.1 htail with ⟨⟨q', others'⟩, hrest, heq⟩
    obtain ⟨rfl, rfl⟩ := Prod.mk.inj (Except.ok.inj heq)
    exact ⟨p', other, others', hfirst, hrest, rfl⟩
  · rintro ⟨p', other, others', hfirst, hrest, rfl⟩
    exact ⟨(p', other), hfirst, bind_eq_ok_iff.2 ⟨(q, others'), hrest, rfl⟩⟩

namespace Governs

variable {place : Nat} {f : Field σ} {part : σ → β} (h : r.Governs place f part)
include h

theorem mem : f ∈ r.fields :=
  List.mem_of_getElem? h.field

theorem eq_of_name_eq {g : Field σ} (hg : g ∈ r.fields) (hname : g.name = f.name) : g = f :=
  List.inj_on_of_nodup_map h.names hg h.mem hname

theorem field?_name : r.field? f.name = some f := by
  cases hfind : r.field? f.name with
  | none => exact absurd (List.find?_eq_none.1 hfind f h.mem) (by simp)
  | some g =>
    have hname : g.name = f.name := by simpa using List.find?_some hfind
    rw [h.eq_of_name_eq (List.mem_of_find?_eq_some hfind) hname]

/-! ## Objects -/

section
variable {p q : Progress σ}

/-- A member of another name neither changes the part nor lets the field be seen. -/
theorem of_takeMember_of_ne {member : String × Json} {other : Option (String × Json)}
    (hne : member.1 ≠ f.name) (htake : r.takeMember p member = .ok (q, other)) :
    part q.value = part p.value ∧ (f.name ∈ q.seen ↔ f.name ∈ p.seen) := by
  unfold takeMember at htake
  split at htake
  · cases htake
    exact ⟨rfl, Iff.rfl⟩
  rename_i g hfind
  split at htake
  · cases htake
  rcases bind_eq_ok_iff.1 htake with ⟨update, hupdate, heq⟩
  cases heq
  have hname : g.name = member.1 := by simpa using List.find?_some hfind
  have hg : g.name ≠ f.name := hname ▸ hne
  refine ⟨h.others g (List.mem_of_find?_eq_some hfind) hg p.value hupdate, ?_⟩
  simp [seeField, Ne.symm hg]

/-- A member of its name settles the part, if the field has not been seen. -/
theorem of_takeMember_self {json : Json} {other : Option (String × Json)}
    (htake : r.takeMember p (f.name, json) = .ok (q, other)) :
    f.name ∉ p.seen ∧ f.name ∈ q.seen ∧
      ∃ update, f.update.ofJson json = .ok update ∧ q.value = update p.value := by
  unfold takeMember at htake
  rw [h.field?_name] at htake
  dsimp only at htake
  split at htake
  · cases htake
  rename_i hseen
  rcases bind_eq_ok_iff.1 htake with ⟨update, hupdate, heq⟩
  cases heq
  exact ⟨by simpa using hseen, List.mem_cons_self, update, hupdate, rfl⟩

/-- Behind a member of its name there is no other one. -/
theorem of_takeMembers_of_seen (hseen : f.name ∈ p.seen) {members others : List (String × Json)}
    (htake : r.takeMembers p members = .ok (q, others)) :
    f.name ∉ Entries.keys members ∧ part q.value = part p.value := by
  induction members generalizing p others with
  | nil =>
    obtain ⟨rfl, _⟩ := Prod.mk.inj (Except.ok.inj htake)
    exact ⟨List.not_mem_nil, rfl⟩
  | cons member rest ih =>
    rcases takeMembers_cons_eq_ok_iff.1 htake with ⟨p', other, others', hmember, hrest, _⟩
    rcases member with ⟨key, json⟩
    by_cases hkey : key = f.name
    · subst hkey
      exact absurd hseen (h.of_takeMember_self hmember).1
    · rcases h.of_takeMember_of_ne hkey hmember with ⟨hpart, hseen'⟩
      rcases ih (hseen'.2 hseen) hrest with ⟨hkeys, hpart'⟩
      exact ⟨fun hmem => hkeys ((List.mem_cons.1 hmem).resolve_left (Ne.symm hkey)),
        hpart'.trans hpart⟩

/-- The members of an object settle the part by the only one of its name. -/
theorem of_takeMembers (hseen : f.name ∉ p.seen) {members others : List (String × Json)}
    (htake : r.takeMembers p members = .ok (q, others)) :
    (∃ before json after update t, members = before ++ (f.name, json) :: after ∧
        f.name ∉ Entries.keys before ∧ f.name ∉ Entries.keys after ∧
        f.update.ofJson json = .ok update ∧ part q.value = part (update t)) ∨
      (f.name ∉ Entries.keys members ∧ f.name ∉ q.seen ∧ part q.value = part p.value) := by
  induction members generalizing p others with
  | nil =>
    obtain ⟨rfl, _⟩ := Prod.mk.inj (Except.ok.inj htake)
    exact .inr ⟨List.not_mem_nil, hseen, rfl⟩
  | cons member rest ih =>
    rcases takeMembers_cons_eq_ok_iff.1 htake with ⟨p', other, others', hmember, hrest, _⟩
    rcases member with ⟨key, json⟩
    by_cases hkey : key = f.name
    · subst hkey
      rcases h.of_takeMember_self hmember with ⟨_, hseen', update, hupdate, hvalue⟩
      rcases h.of_takeMembers_of_seen hseen' hrest with ⟨hkeys, hpart⟩
      exact .inl ⟨[], json, rest, update, p.value, rfl, List.not_mem_nil, hkeys, hupdate,
        hvalue ▸ hpart⟩
    · rcases h.of_takeMember_of_ne hkey hmember with ⟨hpart, hseen'⟩
      have hcons {entries : List (String × Json)} (hkeys : f.name ∉ Entries.keys entries) :
          f.name ∉ Entries.keys ((key, json) :: entries) :=
        fun hmem => hkeys ((List.mem_cons.1 hmem).resolve_left (Ne.symm hkey))
      rcases ih (fun hmem => hseen (hseen'.1 hmem)) hrest with
        ⟨before, json', after, update, t, rfl, hbefore, hafter, hupdate, hpart'⟩ |
          ⟨hkeys, hunseen, hpart'⟩
      · exact .inl ⟨(key, json) :: before, json', after, update, t, rfl, hcons hbefore, hafter,
          hupdate, hpart'⟩
      · exact .inr ⟨hcons hkeys, hunseen, hpart'.trans hpart⟩

end

/-! ## Lists -/

omit h in
/-- Fields that have no say in the part do not change it. -/
theorem of_ofElements_others {fields : List (Field σ)} {count index : Nat} {t x : σ}
    {elements : List Json} (hothers : ∀ g ∈ fields, g.Leaves part)
    (hx : r.ofElements count fields index t elements = .ok x) : part x = part t := by
  induction fields generalizing index t elements with
  | nil =>
    cases elements with
    | nil =>
      cases hx
      rfl
    | cons _ _ => cases hx
  | cons g fields ih =>
    cases elements with
    | nil =>
      rw [ofElements] at hx
      split at hx
      · cases hx
      · cases hx
        rfl
    | cons element rest =>
      rcases bind_eq_ok_iff.1 hx with ⟨update, hupdate, hrest⟩
      have hpart := ih (fun g hg => hothers g (List.mem_cons_of_mem _ hg)) hrest
      exact hpart.trans (hothers g List.mem_cons_self t hupdate)

omit h in
/-- The elements of a list settle the part by the one at the place of its field. -/
theorem of_ofElements {fields : List (Field σ)} {place count index : Nat} {t x : σ}
    {elements : List Json} (hfield : fields[place]? = some f)
    (hnames : (fields.map (·.name)).Nodup)
    (hothers : ∀ g ∈ fields, g.name ≠ f.name → g.Leaves part)
    (hx : r.ofElements count fields index t elements = .ok x) :
    (∃ json update t, elements[place]? = some json ∧ f.update.ofJson json = .ok update ∧
        part x = part (update t)) ∨
      (elements[place]? = none ∧ f.required = false ∧ part x = part t) := by
  induction fields generalizing place index t elements with
  | nil => simp at hfield
  | cons g fields ih =>
    rcases List.nodup_cons.1 hnames with ⟨hfresh, hnames⟩
    cases elements with
    | nil =>
      rw [ofElements] at hx
      split at hx
      · cases hx
      · rename_i hrequired
        cases hx
        have hnone := List.findIdx?_eq_none_iff.1 hrequired f (List.mem_of_getElem? hfield)
        exact .inr ⟨rfl, hnone, rfl⟩
    | cons element rest =>
      rcases bind_eq_ok_iff.1 hx with ⟨update, hupdate, hrest⟩
      cases place with
      | zero =>
        obtain rfl : g = f := by simpa using hfield
        refine .inl ⟨element, update, t, rfl, hupdate, ?_⟩
        refine of_ofElements_others (fun g' hg' => ?_) hrest
        exact hothers g' (List.mem_cons_of_mem _ hg')
          fun heq => hfresh (List.mem_map.2 ⟨g', hg', heq⟩)
      | succ place =>
        rw [List.getElem?_cons_succ] at hfield
        have hg : g.name ≠ f.name := fun heq =>
          hfresh (List.mem_map.2 ⟨f, List.mem_of_getElem? hfield, heq.symm⟩)
        have hpart := hothers g List.mem_cons_self hg t hupdate
        rw [List.getElem?_cons_succ, ← hpart]
        exact ih hfield hnames (fun g' hg' => hothers g' (List.mem_cons_of_mem _ hg')) hrest

/-! ## Values -/

/-- What a value holds for the field settles the part. -/
theorem of_ofJson {json : Json} {x : σ} (hx : r.decoder.ofJson json = .ok x) :
    (∃ found update t, FieldAt f.name place json (some found) ∧
        f.update.ofJson found = .ok update ∧ part x = part (update t)) ∨
      (FieldAt f.name place json none ∧ f.required = false ∧ part x = part r.initial) := by
  cases json with
  | object members =>
    rcases bind_eq_ok_iff.1 hx with ⟨⟨p, others⟩, htake, hfinish⟩
    dsimp only [finish] at hfinish
    split at hfinish
    · cases hfinish
    rename_i hmissing
    cases hfinish
    rcases h.of_takeMembers List.not_mem_nil htake with
      ⟨before, found, after, update, t, rfl, hbefore, hafter, hupdate, hpart⟩ |
        ⟨hkeys, hunseen, hpart⟩
    · exact .inl ⟨found, update, t, .member hbefore hafter, hupdate, hpart⟩
    · refine .inr ⟨.noMember hkeys, ?_, hpart⟩
      exact Bool.eq_false_iff.2 fun hrequired =>
        hunseen (missing?_eq_none_iff.1 hmissing f h.mem hrequired)
  | array elements =>
    rcases of_ofElements h.field h.names h.others hx with
      ⟨found, update, t, hfound, hupdate, hpart⟩ | ⟨hnone, hrequired, hpart⟩
    · exact .inl ⟨found, update, t, hfound ▸ .element elements, hupdate, hpart⟩
    · exact .inr ⟨hnone ▸ .element elements, hrequired, hpart⟩
  | _ => cases hx

end Governs

section
variable {α : Type} {place : Nat} {name : String} {value : Decoder α} {set : α → σ → σ}
  {json : Json} {x : σ}

/-- A field that has to be there is found and settles the part. -/
theorem Governs.mandatory {part : σ → α} (h : r.Governs place (.mandatory name value set) part)
    (hset : ∀ a t, part (set a t) = a) (hx : r.decoder.ofJson json = .ok x) :
    ∃ found, FieldAt name place json (some found) ∧ value.ofJson found = .ok (part x) := by
  rcases h.of_ofJson hx with ⟨found, update, t, hfound, hupdate, hpart⟩ | ⟨_, hrequired, _⟩
  · rcases map_eq_ok_iff.1 hupdate with ⟨a, ha, rfl⟩
    rw [hset] at hpart
    exact ⟨found, hfound, hpart ▸ ha⟩
  · cases hrequired

/-- A field that may be left out settles the part if it is found; otherwise the part is as it was
initially. -/
theorem Governs.defaulted {part : σ → β} {settled : α → β}
    (h : r.Governs place (.defaulted name value set) part)
    (hset : ∀ a t, part (set a t) = settled a) (hx : r.decoder.ofJson json = .ok x) :
    (∃ found a, FieldAt name place json (some found) ∧ value.ofJson found = .ok a ∧
        part x = settled a) ∨
      (FieldAt name place json none ∧ part x = part r.initial) := by
  rcases h.of_ofJson hx with ⟨found, update, t, hfound, hupdate, hpart⟩ | ⟨hnone, _, hpart⟩
  · rcases map_eq_ok_iff.1 hupdate with ⟨a, ha, rfl⟩
    exact .inl ⟨found, a, hfound, ha, hpart.trans (hset a t)⟩
  · exact .inr ⟨hnone, hpart⟩

end

end Record
end Json
end NodeApi
