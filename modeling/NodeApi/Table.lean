/-!
# Tables sorted by key

A table holds one value for each of finitely many keys, its entries in ascending order of the key.
Since the order and the absence of repetitions are part of the type, two tables with the same
entries are equal.

Main results:

- Theorem `Table.get?_insert`: writing a key changes the value of this key and of no other.
- Theorem `Table.get?_insertNew`: adding a key leaves the keys that were there as they are.
- Theorem `Table.ext_get?`: a table is determined by its values.
-/

namespace NodeApi

/-- One value for each of finitely many keys, ascending. -/
structure Table (κ α : Type) [LT κ] where
  entries : List (κ × α)
  sorted : entries.Pairwise (·.1 < ·.1)

namespace Table

variable {κ α : Type} [LE κ] [LT κ] [DecidableLT κ] [DecidableEq κ] [Std.IsLinearOrder κ]
  [Std.LawfulOrderLT κ]

/-- The table without entries. -/
def empty : Table κ α where
  entries := []
  sorted := .nil

instance : Inhabited (Table κ α) :=
  ⟨empty⟩

instance [DecidableEq α] : DecidableEq (Table κ α) := fun s t =>
  decidable_of_iff (s.entries = t.entries)
    ⟨fun h => by cases s; cases t; cases h; rfl, fun h => h ▸ rfl⟩

/-- The entries with one more, at its place in the order; an entry with this key is replaced. -/
def place (key : κ) (value : α) : List (κ × α) → List (κ × α)
  | [] => [(key, value)]
  | entry :: rest =>
    if key < entry.1 then (key, value) :: entry :: rest
    else if entry.1 < key then entry :: place key value rest
    else (key, value) :: rest

omit [LE κ] [DecidableEq κ] [Std.IsLinearOrder κ] [Std.LawfulOrderLT κ] in
theorem mem_place {key : κ} {value : α} {entries : List (κ × α)} {e : κ × α}
    (h : e ∈ place key value entries) : e = (key, value) ∨ e ∈ entries := by
  induction entries with
  | nil => exact .inl (List.mem_singleton.1 h)
  | cons entry rest ih =>
    unfold place at h
    split at h
    · exact (List.mem_cons.1 h)
    · split at h
      · rcases List.mem_cons.1 h with rfl | h
        · exact .inr List.mem_cons_self
        · exact (ih h).imp_right (List.mem_cons_of_mem _)
      · exact (List.mem_cons.1 h).imp_right (List.mem_cons_of_mem _)

omit [DecidableEq κ] in
theorem sorted_place (key : κ) (value : α) {entries : List (κ × α)}
    (h : entries.Pairwise (·.1 < ·.1)) : (place key value entries).Pairwise (·.1 < ·.1) := by
  induction entries with
  | nil => exact List.pairwise_singleton _ _
  | cons entry rest ih =>
    obtain ⟨hhead, htail⟩ := List.pairwise_cons.1 h
    unfold place
    split
    · rename_i hlt
      refine List.pairwise_cons.2 ⟨fun e he => ?_, h⟩
      rcases List.mem_cons.1 he with rfl | he
      · exact hlt
      · exact Std.lt_trans hlt (hhead e he)
    · rename_i hnlt
      split
      · rename_i hgt
        refine List.pairwise_cons.2 ⟨fun e he => ?_, ih htail⟩
        rcases mem_place he with rfl | he
        · exact hgt
        · exact hhead e he
      · rename_i hngt
        have heq : key = entry.1 := Std.le_antisymm (Std.not_lt.1 hngt) (Std.not_lt.1 hnlt)
        exact List.pairwise_cons.2 ⟨fun e he => heq ▸ hhead e he, htail⟩

/-- The value of the first entry with a key. -/
def valueOf (key : κ) : List (κ × α) → Option α
  | [] => none
  | entry :: rest => if key = entry.1 then some entry.2 else valueOf key rest

/-- The value of a key. -/
def get? (t : Table κ α) (key : κ) : Option α :=
  valueOf key t.entries

/-- Whether the table has a key. -/
def contains (t : Table κ α) (key : κ) : Bool :=
  (t.get? key).isSome

/-- The table with a value written to a key. -/
def insert (t : Table κ α) (key : κ) (value : α) : Table κ α where
  entries := place key value t.entries
  sorted := sorted_place key value t.sorted

/-- The table with a value for a key that had none; the first value of a key stays. -/
def insertNew (t : Table κ α) (key : κ) (value : α) : Table κ α :=
  if t.contains key then t else t.insert key value

/-- The table of a list of entries; of two with one key, the last counts. -/
def ofList (entries : List (κ × α)) : Table κ α :=
  entries.foldl (fun t entry => t.insert entry.1 entry.2) empty

/-- The keys, ascending. -/
def keys (t : Table κ α) : List κ :=
  t.entries.map (·.1)

/-- The number of keys. -/
def size (t : Table κ α) : Nat :=
  t.entries.length

/-- Whether there is no key. -/
def isEmpty (t : Table κ α) : Bool :=
  t.entries.isEmpty

theorem valueOf_place (key : κ) (value : α) {entries : List (κ × α)}
    (h : entries.Pairwise (·.1 < ·.1)) (k : κ) :
    valueOf k (place key value entries) = if k = key then some value else valueOf k entries := by
  induction entries with
  | nil => rfl
  | cons entry rest ih =>
    obtain ⟨hhead, htail⟩ := List.pairwise_cons.1 h
    unfold place
    split
    · rfl
    · rename_i hnlt
      split
      · rename_i hgt
        by_cases hke : k = entry.1
        · have hne : entry.1 ≠ key := fun heq => Std.lt_irrefl (heq ▸ hgt)
          simp [valueOf, hke, hne]
        · simp [valueOf, hke, ih htail]
      · rename_i hngt
        have heq : key = entry.1 := Std.le_antisymm (Std.not_lt.1 hngt) (Std.not_lt.1 hnlt)
        by_cases hk : k = key
        · simp [valueOf, hk]
        · have hke : k ≠ entry.1 := heq ▸ hk
          simp [valueOf, hk, hke]

/-- Writing a key changes the value of this key only. -/
theorem get?_insert (t : Table κ α) (key : κ) (value : α) (k : κ) :
    (t.insert key value).get? k = if k = key then some value else t.get? k :=
  valueOf_place key value t.sorted k

/-- Adding a key changes no value that is there. -/
theorem get?_insertNew (t : Table κ α) (key : κ) (value : α) (k : κ) :
    (t.insertNew key value).get? k =
      if k = key then some ((t.get? key).getD value) else t.get? k := by
  unfold insertNew contains
  cases hkey : t.get? key with
  | none => simp [get?_insert]
  | some old =>
    by_cases hk : k = key
    · simp [hk, hkey]
    · simp [hk]

omit [DecidableLT κ] [Std.IsLinearOrder κ] in
theorem valueOf_eq_none_of_lt {entries : List (κ × α)} {k : κ} (h : ∀ e ∈ entries, k < e.1) :
    valueOf k entries = none := by
  induction entries with
  | nil => rfl
  | cons entry rest ih =>
    have hlt := h entry List.mem_cons_self
    have hne : k ≠ entry.1 := fun heq => Std.lt_irrefl (heq ▸ hlt)
    have hrest := ih fun e he => h e (List.mem_cons_of_mem _ he)
    simp [valueOf, hne, hrest]

omit [DecidableLT κ] in
theorem head_le_of_valueOf_eq {x y : κ × α} {xs ys : List (κ × α)} (hx : ∀ e ∈ xs, x.1 < e.1)
    (h : valueOf y.1 (x :: xs) = valueOf y.1 (y :: ys)) : x.1 ≤ y.1 := by
  refine Std.not_lt.1 fun hlt => ?_
  have hnone : valueOf y.1 (x :: xs) = none := valueOf_eq_none_of_lt fun e he => by
    rcases List.mem_cons.1 he with rfl | he
    · exact hlt
    · exact Std.lt_trans hlt (hx e he)
  rw [hnone] at h
  simp [valueOf] at h

omit [DecidableLT κ] in
theorem eq_of_valueOf_eq {xs ys : List (κ × α)} (hxs : xs.Pairwise (·.1 < ·.1))
    (hys : ys.Pairwise (·.1 < ·.1)) (h : ∀ k, valueOf k xs = valueOf k ys) : xs = ys := by
  induction xs generalizing ys with
  | nil =>
    cases ys with
    | nil => rfl
    | cons y ys => simpa [valueOf] using h y.1
  | cons x xs ih =>
    cases ys with
    | nil => simpa [valueOf] using h x.1
    | cons y ys =>
      obtain ⟨hx, hxs⟩ := List.pairwise_cons.1 hxs
      obtain ⟨hy, hys⟩ := List.pairwise_cons.1 hys
      have hkeys : x.1 = y.1 :=
        Std.le_antisymm (head_le_of_valueOf_eq hx (h y.1)) (head_le_of_valueOf_eq hy (h x.1).symm)
      have hvalues : x.2 = y.2 := by simpa [valueOf, hkeys] using h x.1
      have hrest : xs = ys := by
        refine ih hxs hys fun k => ?_
        by_cases hk : k = x.1
        · rw [hk, valueOf_eq_none_of_lt hx, valueOf_eq_none_of_lt (hkeys ▸ hy)]
        · simpa [valueOf, hk, ← hkeys] using h k
      rw [Prod.ext hkeys hvalues, hrest]

omit [DecidableLT κ] in
/-- A table is determined by its values. -/
theorem ext_get? {s t : Table κ α} (h : ∀ k, s.get? k = t.get? k) : s = t := by
  cases s
  cases t
  congr 1
  exact eq_of_valueOf_eq ‹_› ‹_› h

end Table
end NodeApi
