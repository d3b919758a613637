import Mathlib.Data.List.Induction
import NodeApi.Proofs.Table

/-!
# Repeated keys

Where a key comes up again, its last value counts.  A list that is settled answers this value and
keeps the key where it is first mentioned.

Main results:

- Theorem `Entries.isLast_iff`: the last value of a key is what the reversed list answers.
- Theorem `Entries.settles_settle`: to settle a list is to keep every key once, at its first place
  and with its last value.
-/

namespace NodeApi
namespace Entries

open Table (valueOf)

variable {κ α β : Type} [DecidableEq κ]

/-! ## Last values -/

omit [DecidableEq κ] in
/-- The value is the last one that the entries have for the key. -/
def IsLast (key : κ) (value : α) (entries : List (κ × α)) : Prop :=
  ∃ before after, entries = before ++ (key, value) :: after ∧ key ∉ keys after

theorem valueOf_eq_some_iff {key : κ} {value : α} {entries : List (κ × α)} :
    valueOf key entries = some value ↔
      ∃ before after, entries = before ++ (key, value) :: after ∧ key ∉ keys before := by
  induction entries with
  | nil => simp [valueOf]
  | cons entry rest ih =>
    rw [valueOf]
    by_cases hkey : key = entry.1
    · rw [if_pos hkey]
      constructor
      · intro hvalue
        refine ⟨[], rest, ?_, by simp [keys]⟩
        rw [List.nil_append, hkey, ← Option.some.inj hvalue]
      · rintro ⟨before, after, hentries, hbefore⟩
        cases before with
        | nil => rw [(List.cons.inj hentries).1]
        | cons first before =>
          rw [(List.cons.inj hentries).1] at hkey
          exact absurd (hkey ▸ List.mem_cons_self) hbefore
    · rw [if_neg hkey, ih]
      constructor
      · rintro ⟨before, after, rfl, hbefore⟩
        exact ⟨entry :: before, after, rfl, fun hmem => by
          rcases List.mem_cons.1 hmem with heq | hmem
          · exact hkey heq
          · exact hbefore hmem⟩
      · rintro ⟨before, after, hentries, hbefore⟩
        cases before with
        | nil => exact absurd (by rw [(List.cons.inj hentries).1]) hkey
        | cons first before =>
          exact ⟨before, after, (List.cons.inj hentries).2,
            fun hmem => hbefore (List.mem_cons_of_mem _ hmem)⟩

/-- The last value of a key is what the reversed list answers. -/
theorem isLast_iff {key : κ} {value : α} {entries : List (κ × α)} :
    IsLast key value entries ↔ valueOf key entries.reverse = some value := by
  rw [valueOf_eq_some_iff]
  constructor
  · rintro ⟨before, after, rfl, hafter⟩
    refine ⟨after.reverse, before.reverse, by simp, ?_⟩
    rwa [keys, List.map_reverse, List.mem_reverse]
  · rintro ⟨before, after, hentries, hbefore⟩
    refine ⟨after.reverse, before.reverse, ?_, ?_⟩
    · rw [← List.reverse_reverse entries, hentries]
      simp
    · rwa [keys, List.map_reverse, List.mem_reverse]

/-- A key that is mentioned has a last value. -/
theorem mem_keys_iff {key : κ} {entries : List (κ × α)} :
    key ∈ keys entries ↔ ∃ value, IsLast key value entries := by
  constructor
  · intro hmem
    induction entries with
    | nil => exact absurd hmem List.not_mem_nil
    | cons entry rest ih =>
      by_cases hrest : key ∈ keys rest
      · rcases ih hrest with ⟨value, before, after, rfl, hafter⟩
        exact ⟨value, entry :: before, after, rfl, hafter⟩
      · have hkey : key = entry.1 := (List.mem_cons.1 hmem).resolve_right hrest
        exact ⟨entry.2, [], rest, hkey ▸ rfl, hrest⟩
  · rintro ⟨value, before, after, rfl, -⟩
    simp [keys]

theorem valueOf_map (f : α → β) (key : κ) (entries : List (κ × α)) :
    valueOf key (entries.map (Prod.map id f)) = (valueOf key entries).map f := by
  induction entries with
  | nil => rfl
  | cons entry rest ih =>
    rw [List.map_cons, valueOf, valueOf, ih]
    dsimp only [Prod.map, id]
    split <;> rfl

/-! ## Settled lists -/

/-- A list keeps the keys of another one, each once, at its first place and with its last value. -/
structure Settles (entries settled : List (κ × α)) : Prop where
  keys : keys settled = (keys entries).eraseDups
  last : ∀ entry ∈ settled, IsLast entry.1 entry.2 entries

theorem settle_append_singleton (entries : List (κ × α)) (entry : κ × α) :
    settle (entries ++ [entry]) = put entry.1 entry.2 (settle entries) := by
  rw [settle, settle, List.foldl_append, List.foldl_cons, List.foldl_nil]

theorem valueOf_put (key : κ) (value : α) (entries : List (κ × α)) (k : κ) :
    valueOf k (put key value entries) = if k = key then some value else valueOf k entries := by
  induction entries with
  | nil => rfl
  | cons entry rest ih =>
    rw [put]
    by_cases hkey : entry.1 = key
    · rw [if_pos hkey, valueOf, valueOf, hkey]
      by_cases hk : k = key
      · rw [if_pos hk, if_pos hk]
      · rw [if_neg hk, if_neg hk, if_neg hk]
    · rw [if_neg hkey, valueOf, valueOf, ih]
      by_cases hk : k = key
      · have hne : k ≠ entry.1 := hk ▸ Ne.symm hkey
        rw [if_neg hne, if_pos hk, if_pos hk]
      · rw [if_neg hk, if_neg hk]

/-- A settled list answers the last value of a key. -/
theorem valueOf_settle (entries : List (κ × α)) (key : κ) :
    valueOf key (settle entries) = valueOf key entries.reverse := by
  induction entries using List.reverseRecOn with
  | nil => rfl
  | append_singleton entries entry ih =>
    rw [settle_append_singleton, valueOf_put, ih, List.reverse_append, List.reverse_singleton,
      List.singleton_append, valueOf]

theorem keys_settle (entries : List (κ × α)) :
    keys (settle entries) = (keys entries).eraseDups := by
  induction entries using List.reverseRecOn with
  | nil => rfl
  | append_singleton entries entry ih =>
    have hkeys : keys (entries ++ [entry]) = keys entries ++ [entry.1] := by
      rw [keys, List.map_append, List.map_singleton, keys]
    rw [settle_append_singleton, keys_put, ih, hkeys, List.eraseDups_append]
    -- of the new key something is left only if it is really new
    by_cases hmem : entry.1 ∈ keys entries
    · rw [if_pos (List.mem_eraseDups.2 hmem)]
      simp [List.removeAll, hmem]
    · rw [if_neg fun h => hmem (List.mem_eraseDups.1 h)]
      simp [List.removeAll, List.eraseDups_cons, hmem]

/-- To settle a list is to keep every key once, at its first place and with its last value. -/
theorem settles_settle (entries : List (κ × α)) : Settles entries (settle entries) where
  keys := keys_settle entries
  last entry hentry := by
    rw [isLast_iff, ← valueOf_settle]
    exact (Table.mem_iff_valueOf (nodup_keys_settle entries)).1 hentry

/-- To settle a list brings in no entries. -/
theorem mem_of_mem_settle {entries : List (κ × α)} {entry : κ × α} (h : entry ∈ settle entries) :
    entry ∈ entries := by
  rcases (settles_settle entries).last entry h with ⟨before, after, hentries, _⟩
  rw [hentries]
  exact List.mem_append_right before List.mem_cons_self

end Entries
end NodeApi
