import NodeApi.Json.Reader
import NodeApi.Proofs.Json.Outcome

/-!
# Reading items in a row

Lists and objects are read by one loop, which puts every item before those that have been read.
Such a loop commutes with a map: what it gathers can be mapped item by item or at the end.  And what
holds of every item that can be read holds of all items that it gathers.

Main results:

- Theorems `readItems_map` and `readMember_map`: items are mapped one by one, members by their
  values.
- Theorem `foldItems_cons_eq_ok`: what one round of the loop does.
- Theorem `foldItems_keeps`: what every step of the loop keeps, the loop keeps.
- Theorems `readElements_forall` and `readMembers_forall`: what holds of all elements and members
  that are read.
-/

namespace NodeApi
namespace Json

/-! ## Keywords -/

/-- A keyword is read if the text begins with it. -/
theorem readKeyword_eq_ok_iff {α : Type} {value x : α} {letters s rest : List Char} :
    readKeyword value letters s = .ok (x, rest) ↔ x = value ∧ s = letters ++ rest := by
  induction letters generalizing s with
  | nil =>
    rw [readKeyword, Except.ok.injEq, Prod.mk.injEq, List.nil_append]
    exact and_congr_left' eq_comm
  | cons k ks ih =>
    cases s with
    | nil => simp [readKeyword, stopAt]
    | cons c s =>
      rw [readKeyword]
      by_cases hc : c = k
      · simp [hc, ih]
      · simp [hc, stopAt]

/-! ## Gathering -/

theorem gather_of_ok {α : Type} {item : Reader α} {s rest : List Char} {x : α}
    (h : item s = .ok (x, rest)) (gathered : List α) :
    gather item gathered s = .ok (x :: gathered, rest) := by
  rw [gather, h]
  rfl

theorem gather_of_stopAt {α : Type} {item : Reader α} {s unread : List Char} {what : Malformation}
    (h : item s = stopAt what unread) (gathered : List α) :
    gather item gathered s = stopAt what unread := by
  rw [gather, h]
  rfl

section
variable {next : Bool → List Char → Except Fault Upcoming} {missing : Malformation}

/-! ## Maps -/

/-- A loop over items commutes with a map if its step does. -/
theorem foldItems_map {σ τ : Type} {g : τ → σ} {step : σ → Reader σ} {step' : τ → Reader τ}
    (h : ∀ t s, step (g t) s = (step' t s).map (Prod.map g id)) (bound : List Char) (first : Bool)
    (t : τ) (s : List Char) :
    foldItems next missing step bound first (g t) s =
      (foldItems next missing step' bound first t s).map (Prod.map g id) := by
  induction bound generalizing first t s with
  | nil => rfl
  | cons _ bound ih =>
    rw [foldItems, foldItems]
    cases next first s with
    | error fault => rfl
    | ok upcoming =>
      cases upcoming with
      | closed rest => rfl
      | item s =>
        dsimp only
        rw [h]
        cases step' t s with
        | error fault => rfl
        | ok result => exact ih false result.1 result.2

theorem gather_map {α β : Type} {f : α → β} {item : Reader α} {item' : Reader β}
    (h : ∀ s, item' s = (item s).map (Prod.map f id)) (gathered : List α) (s : List Char) :
    gather item' (gathered.map f) s = (gather item gathered s).map (Prod.map (List.map f) id) := by
  rw [gather, gather, h]
  cases item s <;> rfl

/-- Items are mapped one by one. -/
theorem readItems_map {α β : Type} {f : α → β} {item : Reader α} {item' : Reader β}
    (h : ∀ s, item' s = (item s).map (Prod.map f id)) (s : List Char) :
    readItems next missing item' s =
      (readItems next missing item s).map (Prod.map (List.map f) id) := by
  have hfold : foldItems next missing (gather item') s true [] s =
      (foldItems next missing (gather item) s true [] s).map (Prod.map (List.map f) id) :=
    foldItems_map (gather_map h) s true [] s
  rw [readItems, readItems, hfold]
  cases foldItems next missing (gather item) s true [] s with
  | error fault => rfl
  | ok result => exact congrArg (fun ys => Except.ok (ys, result.2)) List.map_reverse.symm

/-! ## What all items have in common -/

/-- One round of the loop goes behind the closing bracket, or takes in an item and goes on. -/
theorem foldItems_cons_eq_ok {σ : Type} {step : σ → Reader σ} {b : Char} {bound : List Char}
    {first : Bool} {t u : σ} {s rest : List Char}
    (h : foldItems next missing step (b :: bound) first t s = .ok (u, rest)) :
    (next first s = .ok (.closed rest) ∧ u = t) ∨
      ∃ item t' s', next first s = .ok (.item item) ∧ step t item = .ok (t', s') ∧
        foldItems next missing step bound false t' s' = .ok (u, rest) := by
  rw [foldItems] at h
  split at h
  · cases h
  · rename_i hclosed
    cases h
    exact .inl ⟨hclosed, rfl⟩
  · rename_i item hitem
    split at h
    · cases h
    · rename_i t' s' hstep
      exact .inr ⟨item, t', s', hitem, hstep, h⟩

/-- What every step of a loop over items keeps, the loop keeps. -/
theorem foldItems_keeps {σ : Type} {P : σ → Prop} {step : σ → Reader σ}
    (hstep : ∀ {t s u rest}, P t → step t s = .ok (u, rest) → P u) {bound : List Char}
    {first : Bool} {t u : σ} {s rest : List Char} (ht : P t)
    (h : foldItems next missing step bound first t s = .ok (u, rest)) : P u := by
  induction bound generalizing first t s with
  | nil => cases h
  | cons _ bound ih =>
    rcases foldItems_cons_eq_ok h with ⟨_, rfl⟩ | ⟨_, _, _, _, hread, h⟩
    · exact ht
    · exact ih (hstep ht hread) h

theorem gather_forall {α : Type} {P : α → Prop} {item : Reader α}
    (hitem : ∀ {s x rest}, item s = .ok (x, rest) → P x) {gathered xs : List α}
    {s rest : List Char} (hgathered : ∀ x ∈ gathered, P x)
    (h : gather item gathered s = .ok (xs, rest)) : ∀ x ∈ xs, P x := by
  rcases bind_eq_ok_iff.1 h with ⟨⟨x, rest'⟩, hread, heq⟩
  cases heq
  exact List.forall_mem_cons.2 ⟨hitem hread, hgathered⟩

/-- What holds of every item that can be read holds of all items in a row. -/
theorem readItems_forall {α : Type} {P : α → Prop} {item : Reader α}
    (hitem : ∀ {s x rest}, item s = .ok (x, rest) → P x) {xs : List α} {s rest : List Char}
    (h : readItems next missing item s = .ok (xs, rest)) : ∀ x ∈ xs, P x := by
  rcases map_eq_ok_iff.1 h with ⟨⟨gathered, _⟩, hfold, heq⟩
  cases heq
  have hall : ∀ x ∈ gathered, P x :=
    foldItems_keeps (P := fun xs => ∀ x ∈ xs, P x) (gather_forall hitem) (by simp) hfold
  exact fun x hx => hall x (List.mem_reverse.1 hx)

end

/-! ## Lists and objects -/

section
variable {α β : Type} {f : α → β} {read : Reader α} {read' : Reader β}
  (h : ∀ s, read' s = (read s).map (Prod.map f id))
include h

/-- A member is mapped if its value is. -/
theorem readMember_map (s : List Char) :
    readMember read' s = (readMember read s).map (Prod.map (Prod.map id f) id) := by
  unfold readMember
  cases readLiteral s with
  | error fault => rfl
  | ok key =>
    cases hcolon : readColon key.2 with
    | error fault => simp only [bind, Except.bind, hcolon, Except.map]
    | ok s =>
      simp only [bind, Except.bind, hcolon, h]
      cases read s <;> rfl

/-- A text is mapped if its value is. -/
theorem readAll_map (text : String) : readAll read' text = (readAll read text).map f := by
  unfold readAll
  rw [h]
  cases read text.toList with
  | error fault => rfl
  | ok result =>
    dsimp only [Except.map, Prod.map, id]
    split <;> rfl

end

section
variable {α : Type} {P : α → Prop} {read : Reader α}
  (hread : ∀ {s x rest}, read s = .ok (x, rest) → P x) {s rest : List Char}
include hread

/-- What holds of every value that can be read holds of all elements of a list. -/
theorem readElements_forall {xs : List α} (h : readElements read s = .ok (xs, rest)) :
    ∀ x ∈ xs, P x := by
  exact readItems_forall hread h

/-- What holds of every value that can be read holds of the value of a member. -/
theorem readMember_forall {member : String × α} (h : readMember read s = .ok (member, rest)) :
    P member.2 := by
  rcases bind_eq_ok_iff.1 h with ⟨⟨key, _⟩, _, h⟩
  rcases bind_eq_ok_iff.1 h with ⟨_, _, h⟩
  rcases bind_eq_ok_iff.1 h with ⟨⟨x, _⟩, hvalue, heq⟩
  cases heq
  exact hread hvalue

/-- What holds of every value that can be read holds of all member values of an object. -/
theorem readMembers_forall {members : List (String × α)}
    (h : readMembers (readMember read) s = .ok (members, rest)) :
    ∀ member ∈ members, P member.2 := by
  exact readItems_forall (P := fun member => P member.2) (readMember_forall hread) h

end

end Json
end NodeApi
