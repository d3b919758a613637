import NodeApi.Proofs.Document.Text
import NodeApi.Proofs.Sorting

/-!
# The listing of a registry

The schemas of a document are listed by the small letters of their names, and names that differ in
their capitals only by the names themselves.  No two names have the same place in this order, so
there is one listing of a registry, whatever was registered first.

Main results:

- Theorem `ListedBefore.eq_or`: names are the same or one is listed before the other one.
- Theorem `pairwise_sorted`: a registry lists its names strictly ascending.
- Theorem `eq_sorted`: there is no other listing of a registry.
- Theorem `get?_registerAll`: the first registration of a name counts.
- Theorem `toJson_registerAll`: what is registered is written in one order, whatever was registered
  first.
-/

namespace NodeApi
namespace Registry

/-! ## The order of names -/

/-- A name is listed before another one if its small letters come first or, with the same small
letters, the name itself.  Texts are compared by their bytes. -/
def ListedBefore (a b : String) : Prop :=
  Prod.Lex (· < ·) (· < ·) (Text.bytes (Text.lowercase a), Text.bytes a)
    (Text.bytes (Text.lowercase b), Text.bytes b)

theorem listedBefore_iff {a b : String} :
    ListedBefore a b ↔ Text.lowercase a < Text.lowercase b ∨
      Text.lowercase a = Text.lowercase b ∧ a < b := by
  rw [ListedBefore, Prod.lex_def, Text.lt_iff_bytes_lt, Text.lt_iff_bytes_lt, Text.bytes_inj]

instance (a b : String) : Decidable (ListedBefore a b) :=
  decidable_of_iff _ listedBefore_iff.symm

theorem ListedBefore.irrefl (a : String) : ¬ ListedBefore a a := by
  rw [listedBefore_iff]
  rintro (h | ⟨_, h⟩)
  · exact Std.lt_irrefl h
  · exact Std.lt_irrefl h

theorem ListedBefore.trans {a b c : String} (hab : ListedBefore a b) (hbc : ListedBefore b c) :
    ListedBefore a c := by
  rw [listedBefore_iff] at hab hbc ⊢
  rcases hab with hab | ⟨hab, hab'⟩
  · rcases hbc with hbc | ⟨hbc, _⟩
    · exact Or.inl (Std.lt_trans hab hbc)
    · exact Or.inl (hbc ▸ hab)
  · rcases hbc with hbc | ⟨hbc, hbc'⟩
    · exact Or.inl (hab ▸ hbc)
    · exact Or.inr ⟨hab.trans hbc, Std.lt_trans hab' hbc'⟩

/-- Names are the same, or one is listed before the other one. -/
theorem ListedBefore.eq_or (a b : String) : a = b ∨ ListedBefore a b ∨ ListedBefore b a := by
  simp only [listedBefore_iff]
  rcases Std.lt_trichotomy (Text.lowercase a) (Text.lowercase b) with h | h | h
  · exact Or.inr (Or.inl (Or.inl h))
  · rcases Std.lt_trichotomy a b with h' | h' | h'
    · exact Or.inr (Or.inl (Or.inr ⟨h, h'⟩))
    · exact Or.inl h'
    · exact Or.inr (Or.inr (Or.inr ⟨h.symm, h'⟩))
  · exact Or.inr (Or.inr (Or.inl h))

/-- Entries are sorted by the order of their names. -/
theorem nameLE_iff {a b : String} : nameLE a b = true ↔ a = b ∨ ListedBefore a b := by
  have hle : a ≤ b ↔ a < b ∨ a = b := Std.le_iff_lt_or_eq
  simp only [nameLE, Bool.or_eq_true, Bool.and_eq_true, decide_eq_true_iff, beq_iff_eq,
    listedBefore_iff, hle]
  constructor
  · rintro (h | ⟨h, h' | rfl⟩)
    · exact Or.inr (Or.inl h)
    · exact Or.inr (Or.inr ⟨h, h'⟩)
    · exact Or.inl rfl
  · rintro (rfl | h | ⟨h, h'⟩)
    · exact Or.inr ⟨rfl, Or.inr rfl⟩
    · exact Or.inl h
    · exact Or.inr ⟨h, Or.inl h'⟩

/-! ## The listing -/

/-- The entries of a registry are listed strictly ascending. -/
theorem pairwise_sorted (r : Registry) : r.sorted.Pairwise fun a b => ListedBefore a.1 b.1 := by
  have hsorted : r.sorted.Pairwise fun a b => nameLE a.1 b.1 = true := by
    apply List.pairwise_mergeSort
    · intro a b c hab hbc
      rw [nameLE_iff] at hab hbc ⊢
      rcases hab with hab | hab
      · exact hab ▸ hbc
      · rcases hbc with hbc | hbc
        · exact Or.inr (hbc ▸ hab)
        · exact Or.inr (hab.trans hbc)
    · intro a b
      rw [Bool.or_eq_true, nameLE_iff, nameLE_iff]
      rcases ListedBefore.eq_or a.1 b.1 with h | h | h
      · exact Or.inl (Or.inl h)
      · exact Or.inl (Or.inr h)
      · exact Or.inr (Or.inr h)
  have hdistinct : r.sorted.Pairwise fun a b => a.1 ≠ b.1 :=
    List.pairwise_map.1 r.nodup_keys_sorted
  refine (hsorted.and hdistinct).imp ?_
  rintro a b ⟨hle, hne⟩
  exact (nameLE_iff.1 hle).resolve_left hne

theorem mem_sorted_iff (r : Registry) {name : String} {schema : Schema} :
    (name, schema) ∈ r.sorted ↔ r.get? name = some schema :=
  r.sorted_perm.mem_iff.trans (Table.mem_entries_iff r.entries)

/-- There is no other strictly ascending list of the entries of a registry. -/
theorem eq_sorted {r : Registry} {listing : List (String × Schema)}
    (hascending : listing.Pairwise fun a b => ListedBefore a.1 b.1)
    (hmem : ∀ name schema, (name, schema) ∈ listing ↔ r.get? name = some schema) :
    listing = r.sorted := by
  have hdistinct : ∀ {a b : String × Schema}, ListedBefore a.1 b.1 → a ≠ b := by
    rintro a _ h rfl
    exact ListedBefore.irrefl _ h
  have hperm : listing.Perm r.sorted := by
    rw [List.perm_ext_iff_of_nodup (hascending.imp hdistinct) (r.pairwise_sorted.imp hdistinct)]
    rintro ⟨name, schema⟩
    rw [hmem, mem_sorted_iff]
  apply List.Perm.eq_of_pairwise _ hascending r.pairwise_sorted hperm
  intro a b _ _ hab hba
  exact absurd (hab.trans hba) (ListedBefore.irrefl _)

/-- Registries that hold the same have the same listing. -/
theorem sorted_congr {r r' : Registry} (h : ∀ name, r.get? name = r'.get? name) :
    r.sorted = r'.sorted := by
  apply eq_sorted r.pairwise_sorted
  intro name schema
  rw [mem_sorted_iff, h]

/-! ## Registrations -/

/-- Registers names one after the other. -/
def registerAll (r : Registry) (entries : List (String × Schema)) : Registry :=
  entries.foldl (fun r entry => (r.register entry.1 entry.2).2) r

/-- What was registered before stays, and of several registrations of a name the first one
counts. -/
theorem get?_registerAll (r : Registry) (entries : List (String × Schema)) (name : String) :
    (r.registerAll entries).get? name = (r.get? name).or (Table.valueOf name entries) := by
  induction entries generalizing r with
  | nil => exact Option.or_none.symm
  | cons entry rest ih =>
    have hstep : (r.registerAll (entry :: rest)).get? name =
        ((r.register entry.1 entry.2).2.registerAll rest).get? name := rfl
    rw [hstep, ih, get?_register, Table.valueOf]
    by_cases hname : name = entry.1
    · rw [if_pos hname, if_pos hname, hname]
      cases r.get? entry.1 <;> rfl
    · rw [if_neg hname, if_neg hname]

/-- Names that are registered once may be registered in any order. -/
theorem get?_registerAll_perm (r : Registry) {entries entries' : List (String × Schema)}
    (hperm : entries.Perm entries') (hnodup : (Entries.keys entries).Nodup) (name : String) :
    (r.registerAll entries).get? name = (r.registerAll entries').get? name := by
  rw [get?_registerAll, get?_registerAll, Table.valueOf_perm hperm hnodup]

/-- What has been registered is written in one order.  After any registrations, from whatever
registry they began with:

- the listing holds every name once, with its schema, strictly ascending by the bytes of its small
  letters and then of the name itself, and no other list does;
- the written schemas have these keys in this order;
- other registrations after which the names have the same schemas leave the same text, and so do the
  same registrations of distinct names in another order. -/
theorem toJson_registerAll (r : Registry) (entries : List (String × Schema)) :
    let registered := r.registerAll entries
    ((∀ name schema, (name, schema) ∈ registered.sorted ↔ registered.get? name = some schema) ∧
      (Entries.keys registered.sorted).Nodup ∧
      (Entries.keys registered.sorted).Pairwise ListedBefore ∧
      ∀ listing : List (String × Schema), (Entries.keys listing).Pairwise ListedBefore →
        (∀ name schema, (name, schema) ∈ listing ↔ registered.get? name = some schema) →
          listing = registered.sorted) ∧
    (∃ members : List (String × Json), registered.toJson = .object members ∧
      Entries.keys members = Entries.keys registered.sorted) ∧
    (∀ (r' : Registry) (entries' : List (String × Schema)),
      (∀ name, registered.get? name = (r'.registerAll entries').get? name) →
        ∀ layout, registered.toJson.print layout = (r'.registerAll entries').toJson.print layout) ∧
    ∀ entries' : List (String × Schema), entries.Perm entries' → (Entries.keys entries).Nodup →
      ∀ layout, registered.toJson.print layout = (r.registerAll entries').toJson.print layout := by
  intro registered
  have htext : ∀ (r' : Registry) (entries' : List (String × Schema)),
      (∀ name, registered.get? name = (r'.registerAll entries').get? name) →
        ∀ layout,
          registered.toJson.print layout = (r'.registerAll entries').toJson.print layout := by
    intro r' entries' hget layout
    rw [toJson, toJson, sorted_congr hget]
  refine ⟨⟨fun _ _ => registered.mem_sorted_iff, registered.nodup_keys_sorted,
    List.pairwise_map.2 registered.pairwise_sorted, ?_⟩, ?_, htext, ?_⟩
  · intro listing hascending hmem
    exact eq_sorted (List.pairwise_map.1 hascending) hmem
  · refine ⟨_, rfl, ?_⟩
    simp [Entries.keys, Function.comp_def]
  · intro entries' hperm hnodup
    exact htext r entries' (r.get?_registerAll_perm hperm hnodup)

/-- Names that differ in their capitals only stand next to each other, each time the capital one
first, in whatever order they are registered; so a small letter may stand before a later one that is
capital. -/
theorem toJson_registerAll_capitals :
    let entries : List (String × Schema) :=
      [("b", .reference "b"), ("a", .reference "a"), ("σ", .reference "T"), ("B", .reference "b"),
        ("A", .reference "a"), ("Σ", .reference "T")]
    let listing : List (String × Schema) :=
      [("A", .reference "a"), ("a", .reference "a"), ("B", .reference "b"), ("b", .reference "b"),
        ("Σ", .reference "T"), ("σ", .reference "T")]
    let registered := empty.registerAll entries
    registered.sorted = listing ∧
      entries.Perm entries.reverse ∧ (Entries.keys entries).Nodup ∧
        ∀ layout, registered.toJson.print layout =
          (empty.registerAll entries.reverse).toJson.print layout := by
  intro entries listing registered
  have hnodup : (Entries.keys entries).Nodup := by decide +kernel
  have hlisting : entries.Perm listing := by decide +kernel
  have hascending : (Entries.keys listing).Pairwise ListedBefore := by decide +kernel
  have hmem : ∀ name schema, (name, schema) ∈ listing ↔ registered.get? name = some schema := by
    intro name schema
    rw [get?_registerAll, get?_empty, Option.none_or, Table.valueOf_perm hlisting hnodup]
    exact Table.mem_iff_valueOf ((hlisting.map _).nodup hnodup)
  have hperm : entries.Perm entries.reverse := (List.reverse_perm entries).symm
  rcases toJson_registerAll empty entries with ⟨⟨_, _, _, hunique⟩, _, _, hreordered⟩
  exact ⟨(hunique listing hascending hmem).symm, hperm, hnodup,
    hreordered entries.reverse hperm hnodup⟩

end Registry
end NodeApi
