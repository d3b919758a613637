import NodeApi.Entries
import NodeApi.Table

/-!
# The entries of a table

What a table answers for a key and what stands in its list of entries are the same.  A table that is
made from a list answers the last value that the list has for a key, so only the order of equal keys
matters.

Main results:

- Theorem `Table.mem_entries_iff`: the entries of a table are what it answers.
- Theorem `Table.entries_insertNew_perm`: a new key makes one more entry.
- Theorem `Table.get?_ofList`: a table that is made from a list answers the last value of a key.
- Theorem `Table.ofList_perm`: lists without repeated keys make the same table in any order.
-/

namespace NodeApi
namespace Table

/-! ## Lists of entries -/

section
variable {κ α : Type} [DecidableEq κ]

theorem mem_of_valueOf {entries : List (κ × α)} {key : κ} {value : α}
    (h : valueOf key entries = some value) : (key, value) ∈ entries := by
  induction entries with
  | nil => simp [valueOf] at h
  | cons entry rest ih =>
    rw [valueOf] at h
    by_cases hkey : key = entry.1
    · rw [if_pos hkey] at h
      rw [hkey, ← Option.some.inj h]
      exact List.mem_cons_self
    · rw [if_neg hkey] at h
      exact List.mem_cons_of_mem _ (ih h)

/-- In a list that mentions no key twice, the entries are what the list answers. -/
theorem mem_iff_valueOf {entries : List (κ × α)} (hnodup : (Entries.keys entries).Nodup) {key : κ}
    {value : α} : (key, value) ∈ entries ↔ valueOf key entries = some value := by
  constructor
  · intro hmem
    induction entries with
    | nil => exact absurd hmem List.not_mem_nil
    | cons entry rest ih =>
      rcases List.nodup_cons.1 hnodup with ⟨hhead, hrest⟩
      rcases List.mem_cons.1 hmem with rfl | hmem
      · rw [valueOf, if_pos rfl]
      · have hne : key ≠ entry.1 := by
          intro heq
          exact hhead (List.mem_map.2 ⟨(key, value), hmem, heq⟩)
        rw [valueOf, if_neg hne]
        exact ih hrest hmem
  · exact mem_of_valueOf

/-- Without repeated keys a list answers the same in any order. -/
theorem valueOf_perm {entries entries' : List (κ × α)} (hperm : entries.Perm entries')
    (hnodup : (Entries.keys entries).Nodup) (key : κ) :
    valueOf key entries = valueOf key entries' := by
  have hnodup' : (Entries.keys entries').Nodup := (hperm.map _).nodup hnodup
  apply Option.ext
  intro value
  rw [← mem_iff_valueOf hnodup, ← mem_iff_valueOf hnodup', hperm.mem_iff]

end

/-! ## Tables -/

variable {κ α : Type} [LE κ] [LT κ] [DecidableLT κ] [DecidableEq κ] [Std.IsLinearOrder κ]
  [Std.LawfulOrderLT κ]

omit [DecidableLT κ] [DecidableEq κ] [Std.IsLinearOrder κ] in
/-- A table mentions no key twice. -/
theorem nodup_keys (t : Table κ α) : (Entries.keys t.entries).Nodup := by
  rw [Entries.keys, List.Nodup, List.pairwise_map]
  refine t.sorted.imp ?_
  intro a b hlt heq
  rw [heq] at hlt
  exact Std.lt_irrefl hlt

omit [DecidableLT κ] [Std.IsLinearOrder κ] in
/-- The entries of a table are what it answers. -/
theorem mem_entries_iff (t : Table κ α) {key : κ} {value : α} :
    (key, value) ∈ t.entries ↔ t.get? key = some value :=
  mem_iff_valueOf t.nodup_keys

omit [DecidableEq κ] in
theorem place_perm {key : κ} (value : α) {entries : List (κ × α)}
    (h : key ∉ Entries.keys entries) :
    (place key value entries).Perm ((key, value) :: entries) := by
  induction entries with
  | nil => exact .refl _
  | cons entry rest ih =>
    rw [Entries.keys, List.map_cons, List.mem_cons, not_or] at h
    unfold place
    split
    · exact .refl _
    · rename_i hnlt
      split
      · exact ((ih h.2).cons entry).trans (.swap _ _ _)
      · rename_i hngt
        exact absurd (Std.le_antisymm (Std.not_lt.1 hngt) (Std.not_lt.1 hnlt)) h.1

/-- A new key makes one more entry. -/
theorem entries_insertNew_perm {t : Table κ α} {key : κ} (value : α) (h : t.get? key = none) :
    (t.insertNew key value).entries.Perm ((key, value) :: t.entries) := by
  have hnew : t.contains key = false := by rw [contains, h, Option.isSome_none]
  rw [insertNew, hnew]
  apply place_perm
  intro hmem
  rcases List.mem_map.1 hmem with ⟨⟨_, old⟩, hentry, rfl⟩
  rw [(mem_entries_iff t).1 hentry] at h
  exact absurd h (by simp)

/-- A table that is made from a list answers the last value of a key. -/
theorem get?_ofList (entries : List (κ × α)) (key : κ) :
    (ofList entries).get? key = valueOf key entries.reverse := by
  rw [ofList, List.foldl_eq_foldr_reverse]
  induction entries.reverse with
  | nil => rfl
  | cons entry rest ih => rw [List.foldr_cons, get?_insert, ih, valueOf]

/-- A table that is made from a list answers nothing else. -/
theorem mem_of_get?_ofList {entries : List (κ × α)} {key : κ} {value : α}
    (h : (ofList entries).get? key = some value) : (key, value) ∈ entries := by
  rw [get?_ofList] at h
  exact List.mem_reverse.1 (mem_of_valueOf h)

/-- Lists without repeated keys make the same table in any order. -/
theorem ofList_perm {entries entries' : List (κ × α)} (hperm : entries.Perm entries')
    (hnodup : (Entries.keys entries).Nodup) : ofList entries = ofList entries' := by
  apply ext_get?
  intro key
  rw [get?_ofList, get?_ofList]
  apply valueOf_perm
  · exact (List.reverse_perm entries).trans (hperm.trans (List.reverse_perm entries').symm)
  · exact ((List.reverse_perm entries).symm.map _).nodup hnodup

end Table
end NodeApi
