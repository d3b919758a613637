/-!
# Entries in order of first mention

A list of entries in which a key comes up again keeps the key at its first place and gives it its
last value.

Main results:

- Theorem `Entries.keys_put`: putting a key that is there moves nothing, a new one goes to the end.
- Theorem `Entries.nodup_keys_settle`: a settled list mentions no key twice.
- Theorem `Entries.settle_of_nodup`: a list that mentions no key twice is settled.
-/

namespace NodeApi
namespace Entries

variable {κ α : Type} [DecidableEq κ]

/-- The keys, in order. -/
def keys (entries : List (κ × α)) : List κ :=
  entries.map (·.1)

/-- Gives a key its new value, at the place of the old one or else at the end. -/
def put (key : κ) (value : α) : List (κ × α) → List (κ × α)
  | [] => [(key, value)]
  | entry :: rest =>
    if entry.1 = key then (key, value) :: rest else entry :: put key value rest

/-- Every key once, at its first place and with its last value. -/
def settle (entries : List (κ × α)) : List (κ × α) :=
  entries.foldl (fun settled entry => put entry.1 entry.2 settled) []

theorem keys_put (key : κ) (value : α) (entries : List (κ × α)) :
    keys (put key value entries) =
      if key ∈ keys entries then keys entries else keys entries ++ [key] := by
  induction entries with
  | nil => simp [put, keys]
  | cons entry rest ih =>
    by_cases h : entry.1 = key
    · simp [put, keys, h]
    · have hne : key ≠ entry.1 := Ne.symm h
      simp only [keys, put, h, if_false, List.map_cons, List.mem_cons, hne, false_or] at ih ⊢
      rw [ih]
      by_cases hkey : key ∈ rest.map (·.1)
      · simp only [hkey, if_true]
      · simp only [hkey, if_false, List.cons_append]

theorem nodup_keys_put {key : κ} {value : α} {entries : List (κ × α)} (h : (keys entries).Nodup) :
    (keys (put key value entries)).Nodup := by
  rw [keys_put]
  split
  · exact h
  · rename_i hkey
    refine List.nodup_append.2 ⟨h, by simp, ?_⟩
    rintro a ha b hb rfl
    exact hkey (List.mem_singleton.1 hb ▸ ha)

/-- A settled list mentions no key twice. -/
theorem nodup_keys_settle (entries : List (κ × α)) : (keys (settle entries)).Nodup := by
  unfold settle
  suffices ∀ settled : List (κ × α), (keys settled).Nodup →
      (keys (entries.foldl (fun settled entry => put entry.1 entry.2 settled) settled)).Nodup from
    this [] (by simp [keys])
  induction entries with
  | nil => exact fun _ h => h
  | cons entry rest ih => exact fun settled h => ih _ (nodup_keys_put h)

theorem put_of_not_mem {key : κ} (value : α) {entries : List (κ × α)} (h : key ∉ keys entries) :
    put key value entries = entries ++ [(key, value)] := by
  induction entries with
  | nil => rfl
  | cons entry rest ih =>
    simp only [keys, List.map_cons, List.mem_cons, not_or] at h
    rw [put, if_neg (Ne.symm h.1), ih h.2, List.cons_append]

/-- A list that mentions no key twice is settled. -/
theorem settle_of_nodup {entries : List (κ × α)} (h : (keys entries).Nodup) :
    settle entries = entries := by
  unfold settle
  suffices ∀ settled : List (κ × α), (keys (settled ++ entries)).Nodup →
      entries.foldl (fun settled entry => put entry.1 entry.2 settled) settled =
        settled ++ entries from this [] h
  clear h
  induction entries with
  | nil =>
    intro settled _
    rw [List.foldl_nil, List.append_nil]
  | cons entry rest ih =>
    intro settled hnodup
    have hnew : entry.1 ∉ keys settled := by
      intro hmem
      simp only [keys, List.map_append, List.map_cons] at hnodup hmem
      exact (List.nodup_append.1 hnodup).2.2 _ hmem _ List.mem_cons_self rfl
    have hsplit : settled ++ entry :: rest = (settled ++ [entry]) ++ rest := by simp
    rw [List.foldl_cons, put_of_not_mem entry.2 hnew, hsplit]
    exact ih (settled ++ [entry]) (hsplit ▸ hnodup)

end Entries
end NodeApi
