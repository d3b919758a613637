import NodeApi.Schema.Resolution

/-!
# Outlines of type names

What a type name is taken apart into depends on its text and on where it stands, not on what is
registered.  The names that come out stand inside of the whole name.

Main results:

- Theorem `ProperPart.utf8ByteSize_lt`: a proper part of a name is shorter, in characters and in
  bytes.
- Theorem `tuple?_properPart`: the elements of a tuple name are proper parts of it.
- Theorem `outline_inside`: items and elements are proper parts of the name, and what is not taken
  apart is a part of it.
-/

namespace NodeApi
namespace TypeName

/-! ## Parts of a name -/

/-- A name that stands somewhere inside of another one, or is the whole of it. -/
def PartOf (inner outer : String) : Prop :=
  inner.toList <:+: outer.toList

/-- A part of a name that is not the whole of it. -/
def ProperPart (inner outer : String) : Prop :=
  PartOf inner outer ∧ inner.length < outer.length

theorem PartOf.refl (name : String) : PartOf name name :=
  List.infix_refl _

theorem PartOf.trans {a b c : String} (hab : PartOf a b) (hbc : PartOf b c) : PartOf a c :=
  List.IsInfix.trans hab hbc

theorem PartOf.length_le {inner outer : String} (h : PartOf inner outer) :
    inner.length ≤ outer.length := by
  have hle := List.IsInfix.length_le h
  simpa only [String.length_toList] using hle

theorem PartOf.trans_proper {a b c : String} (hab : PartOf a b) (hbc : ProperPart b c) :
    ProperPart a c := by
  refine ⟨hab.trans hbc.1, ?_⟩
  have hle := hab.length_le
  have hlt := hbc.2
  omega

theorem ProperPart.trans_part {a b c : String} (hab : ProperPart a b) (hbc : PartOf b c) :
    ProperPart a c := by
  refine ⟨hab.1.trans hbc, ?_⟩
  have hlt := hab.2
  have hle := hbc.length_le
  omega

/-- A part of a name other than the name itself is a proper part. -/
theorem PartOf.proper_of_ne {inner outer : String} (h : PartOf inner outer)
    (hne : inner ≠ outer) : ProperPart inner outer := by
  refine ⟨h, ?_⟩
  have hle := h.length_le
  have hlen : inner.length ≠ outer.length := by
    intro heq
    apply hne
    rw [← String.toList_inj]
    apply List.IsInfix.eq_of_length h
    simpa only [String.length_toList] using heq
  omega

theorem utf8ByteSize_ofList_pos (cs : List Char) (h : 0 < cs.length) :
    0 < (String.ofList cs).utf8ByteSize := by
  rw [Nat.pos_iff_ne_zero]
  intro hzero
  rw [String.utf8ByteSize_eq_zero_iff, String.ofList_eq_empty_iff] at hzero
  rw [hzero] at h
  exact Nat.lt_irrefl 0 h

/-- A proper part of a name has fewer bytes. -/
theorem ProperPart.utf8ByteSize_lt {inner outer : String} (h : ProperPart inner outer) :
    inner.utf8ByteSize < outer.utf8ByteSize := by
  rcases h with ⟨⟨before, after, heq⟩, hlt⟩
  have houter : outer = String.ofList before ++ inner ++ String.ofList after := by
    rw [← String.toList_inj]
    simpa using heq.symm
  have hlen := congrArg String.length houter
  have hsize := congrArg String.utf8ByteSize houter
  simp only [String.length_append, String.length_ofList, String.utf8ByteSize_append] at hlen hsize
  -- the characters around the part are not all missing
  by_cases hbefore : before.length = 0
  · have hafter := utf8ByteSize_ofList_pos after (by omega)
    omega
  · have hbefore' := utf8ByteSize_ofList_pos before (by omega)
    omega

/-- What is inside of a wrapper is a proper part of the whole. -/
theorem unwrap?_properPart {wrapper name inner : String} (h : unwrap? wrapper name = some inner) :
    ProperPart inner name := by
  refine ⟨?_, length_unwrap? h⟩
  rcases unwrap?_eq_some_iff.1 h with ⟨_, rfl⟩
  exact ⟨(wrapper ++ "<").toList, ">".toList, by simp [wrap]⟩

/-- A name that is freed of a wrapper, or had none, is a part of the whole. -/
theorem peel_partOf (wrapper : Wrapper) (name : String) : PartOf (peel wrapper name).2 name := by
  unfold peel
  split
  · rename_i inner h
    exact (unwrap?_properPart h).1
  · exact PartOf.refl name

/-! ## Elements of tuple names -/

theorem infix_trim (cs : List Char) : Text.trim cs <:+: cs := by
  obtain ⟨front, back, h, -, -⟩ := Text.exists_eq_append_trim cs
  exact ⟨front, back, h.symm⟩

theorem infix_intercalate {separator piece : List Char} {pieces : List (List Char)}
    (h : piece ∈ pieces) : piece <:+: separator.intercalate pieces := by
  induction pieces with
  | nil => simp at h
  | cons first rest ih =>
    cases rest with
    | nil =>
      rw [List.mem_singleton.1 h]
      simp [List.intercalate]
    | cons second rest =>
      have hstep : separator.intercalate (first :: second :: rest) =
          first ++ separator ++ separator.intercalate (second :: rest) := by
        simp [List.intercalate]
      rw [hstep]
      rcases List.mem_cons.1 h with rfl | h
      · exact ⟨[], separator ++ separator.intercalate (second :: rest), by simp⟩
      · exact List.IsInfix.trans (ih h) (List.suffix_append _ _).isInfix

/-- The elements of a tuple name stand between its parentheses. -/
theorem tuple?_properPart {name element : String} {elements : List String}
    (h : tuple? name = some elements) (helement : element ∈ elements) :
    ProperPart element name := by
  simp only [tuple?, Option.bind_eq_bind, Option.bind_eq_some_iff] at h
  rcases h with ⟨inner, hinner, pieces, hpieces, h⟩
  split at h
  · simp at h
  · have heq := Option.some.inj h
    rw [← heq] at helement
    rcases List.mem_map.1 helement with ⟨trimmed, htrimmed, rfl⟩
    rcases List.mem_map.1 htrimmed with ⟨piece, hpiece, rfl⟩
    have hname : name.toList = ['('] ++ inner ++ [')'] := between?_eq_some_iff.1 hinner
    have hinside : Text.trim piece <:+: inner := by
      rw [← intercalate_pieces hpieces]
      exact List.IsInfix.trans (infix_trim piece) (infix_intercalate hpiece)
    constructor
    · rw [PartOf, String.toList_ofList, hname]
      exact List.IsInfix.trans hinside ⟨['('], [')'], rfl⟩
    · have hle := hinside.length_le
      rw [String.length_ofList, ← String.length_toList, hname]
      simp only [List.length_append, List.length_singleton]
      omega

/-! ## Outlines -/

/-- What a type name is taken apart into. -/
inductive Outline where
  /-- A list with the name of its items. -/
  | list (item : String)
  /-- A tuple with the names of its elements. -/
  | tuple (elements : List String)
  /-- What is left of a name that is neither. -/
  | name (core : String)
deriving DecidableEq

/-- Takes a type name apart: an option and a compact form are passed over, and tuples are known for
call fields only. -/
def outline (site : Site) (name : String) : Outline :=
  let body := (peel .option name).2
  match unwrap? Wrapper.vec.name body with
  | some item => .list item
  | none =>
    let core := (peel .compact body).2
    match site, tuple? core with
    | .call, some elements => .tuple elements
    | _, _ => .name core

/-- The names of an outline stand inside of a name. -/
def Outline.Inside (name : String) : Outline → Prop
  | list item => ProperPart item name
  | tuple elements => ∀ element ∈ elements, ProperPart element name
  | .name core => PartOf core name

/-- A name is taken apart into names that stand inside of it. -/
theorem outline_inside (site : Site) (name : String) : (outline site name).Inside name := by
  have hbody : PartOf (peel .option name).2 name := peel_partOf .option name
  have hcore : PartOf (peel .compact (peel .option name).2).2 name :=
    (peel_partOf .compact _).trans hbody
  unfold outline
  dsimp only
  split
  · rename_i item hitem
    exact (unwrap?_properPart hitem).trans_part hbody
  · split
    · rename_i elements helements
      intro element helement
      exact (tuple?_properPart helements helement).trans_part hcore
    · exact hcore

end TypeName
end NodeApi
