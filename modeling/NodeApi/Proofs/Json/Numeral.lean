import NodeApi.Json.Numeral
import NodeApi.Proofs.Json.Outcome

/-!
# What a number spells

A number has digits, before them a minus if it is negative, and behind them a point with digits and
an exponent with digits, if it has these.  Every run of digits goes on as long as there are digits,
and a zero before the point stands alone.

Main results:

- Theorem `readDigits_eq_ok_iff`: a run of digits is read whole.
- Theorem `readNumeral_eq_ok_iff`: a number is read exactly if it is spelled, cut into its digits.
-/

namespace NodeApi
namespace Json

/-! ## Grammar -/

/-- A run of digits, behind which the text goes on without a digit. -/
structure SpellsDigits (s digits rest : List Char) : Prop where
  eq_append : s = digits ++ rest
  nonempty : digits ≠ []
  isDigit : ∀ d ∈ digits, d.isDigit = true
  ends : ∀ d ∈ rest.head?, d.isDigit = false

/-- The digits before the point.  A zero stands alone. -/
structure SpellsWhole (s digits rest : List Char) : Prop extends SpellsDigits s digits rest where
  alone : digits.head? = some '0' → digits = ['0']

/-- The digits behind the point, none if there is no point. -/
inductive SpellsFraction : List Char → List Char → List Char → Prop where
  | absent {s : List Char} : s.head? ≠ some '.' → SpellsFraction s [] s
  | present {s digits rest : List Char} :
      SpellsDigits s digits rest → SpellsFraction ('.' :: s) digits rest

/-- The minus of a negative number. -/
inductive SpellsMinus : List Char → Bool → List Char → Prop where
  | absent {s : List Char} : s.head? ≠ some '-' → SpellsMinus s false s
  | present {s : List Char} : SpellsMinus ('-' :: s) true s

/-- The sign of an exponent, which may also be a plus. -/
inductive SpellsSign : List Char → Bool → List Char → Prop where
  | plus {s : List Char} : SpellsSign ('+' :: s) false s
  | noPlus {s rest : List Char} {negative : Bool} :
      s.head? ≠ some '+' → SpellsMinus s negative rest → SpellsSign s negative rest

/-- The sign and the digits of the exponent, if there is one. -/
inductive SpellsExponent : List Char → Option (Bool × List Char) → List Char → Prop where
  | absent {s : List Char} :
      s.head? ≠ some 'e' → s.head? ≠ some 'E' → SpellsExponent s none s
  | present {e : Char} {s t digits rest : List Char} {negative : Bool} :
      e = 'e' ∨ e = 'E' → SpellsSign s negative t → SpellsDigits t digits rest →
        SpellsExponent (e :: s) (some (negative, digits)) rest

/-- The front of a text spells a number, behind which the rest of the text stands. -/
inductive SpellsNumeral : List Char → Numeral → List Char → Prop where
  | parts {s t u v rest whole fraction : List Char} {negative : Bool}
      {exponent : Option (Bool × List Char)} :
      SpellsMinus s negative t → SpellsWhole t whole u → SpellsFraction u fraction v →
      SpellsExponent v exponent rest → SpellsNumeral s ⟨negative, whole, fraction, exponent⟩ rest

/-! ## Digits -/

/-- A run of digits is cut off where it ends. -/
theorem spellsDigits_cons_iff {c : Char} {s digits rest : List Char} :
    SpellsDigits (c :: s) digits rest ↔
      c.isDigit = true ∧ digits = c :: s.takeWhile Char.isDigit ∧
        rest = s.dropWhile Char.isDigit := by
  constructor
  · rintro ⟨heq, hne, hdigits, hends⟩
    cases digits with
    | nil => exact absurd rfl hne
    | cons d digits =>
      rw [List.cons_append] at heq
      rcases List.cons.inj heq with ⟨rfl, rfl⟩
      have hinside : ∀ d ∈ digits, d.isDigit = true := fun d hd =>
        hdigits d (List.mem_cons_of_mem _ hd)
      have hstop : rest.takeWhile Char.isDigit = [] ∧ rest.dropWhile Char.isDigit = rest := by
        cases rest with
        | nil => exact ⟨rfl, rfl⟩
        | cons d rest => simp [hends d rfl]
      refine ⟨hdigits c List.mem_cons_self, ?_, ?_⟩
      · rw [List.takeWhile_append_of_pos hinside, hstop.1, List.append_nil]
      · rw [List.dropWhile_append_of_pos hinside, hstop.2]
  · rintro ⟨hc, rfl, rfl⟩
    refine ⟨?_, List.cons_ne_nil _ _, ?_, ?_⟩
    · rw [List.cons_append, List.takeWhile_append_dropWhile]
    · intro d hd
      rcases List.mem_cons.1 hd with rfl | hd
      · exact hc
      · exact List.all_eq_true.1 List.all_takeWhile d hd
    · intro d hd
      have hhead := List.head?_dropWhile_not Char.isDigit s
      rw [Option.mem_def.1 hd] at hhead
      simpa using hhead

theorem SpellsDigits.head {s digits rest : List Char} (h : SpellsDigits s digits rest) :
    ∃ c t, s = c :: t ∧ digits.head? = some c ∧ c.isDigit = true := by
  cases s with
  | nil => exact absurd (List.append_eq_nil_iff.1 h.eq_append.symm).1 h.nonempty
  | cons c t =>
    rcases spellsDigits_cons_iff.1 h with ⟨hc, hdigits, _⟩
    exact ⟨c, t, rfl, by rw [hdigits]; rfl, hc⟩

/-- A number begins with its minus or a digit, and with nothing else. -/
theorem SpellsNumeral.ne_cons {s t rest : List Char} {c : Char} {n : Numeral}
    (h : SpellsNumeral s n rest) (hminus : c ≠ '-') (hdigit : c.isDigit = false) : s ≠ c :: t := by
  rintro rfl
  cases h with
  | parts hsign hwhole _ _ =>
    cases hsign with
    | present => exact hminus rfl
    | absent _ =>
      rw [(spellsDigits_cons_iff.1 hwhole.toSpellsDigits).1] at hdigit
      exact absurd hdigit (by decide)

section
variable {ending : Malformation} {s rest : List Char}

/-- A run of digits is read whole. -/
theorem readDigits_eq_ok_iff {digits : List Char} :
    readDigits ending s = .ok (digits, rest) ↔ SpellsDigits s digits rest := by
  cases s with
  | nil => exact ⟨nofun, fun h => by simpa using h.head⟩
  | cons c s =>
    rw [spellsDigits_cons_iff, readDigits]
    by_cases hc : c.isDigit = true
    · simp [hc, eq_comm]
    · rw [if_neg hc]
      exact ⟨nofun, fun h => absurd h.1 hc⟩

/-- The digits before the point are read as they are spelled. -/
theorem readWhole_eq_ok_iff {digits : List Char} :
    readWhole ending s = .ok (digits, rest) ↔ SpellsWhole s digits rest := by
  constructor
  · intro h
    unfold readWhole at h
    split at h
    · cases h
    rename_i c s
    split at h
    · rename_i hc
      subst hc
      split at h
      · cases h
        exact ⟨spellsDigits_cons_iff.2 ⟨rfl, rfl, rfl⟩, fun _ => rfl⟩
      split at h
      · cases h
      · rename_i hd
        cases h
        exact ⟨spellsDigits_cons_iff.2 ⟨rfl, by simp [hd], by simp [hd]⟩, fun _ => rfl⟩
    split at h
    · rename_i hzero hc
      cases h
      exact ⟨spellsDigits_cons_iff.2 ⟨hc, rfl, rfl⟩, fun hhead =>
        absurd (Option.some.inj hhead) hzero⟩
    · cases h
  · rintro ⟨hdigits, halone⟩
    rcases hdigits.head with ⟨c, t, rfl, hhead, hc⟩
    rcases spellsDigits_cons_iff.1 hdigits with ⟨_, htake, hdrop⟩
    by_cases hzero : c = '0'
    · subst hzero
      have hnone := (List.cons.inj (htake.symm.trans (halone hhead))).2
      rw [halone hhead, hdrop]
      cases t with
      | nil => rfl
      | cons d t =>
        have hd : ¬d.isDigit = true := by simpa [List.takeWhile_cons] using hnone
        simp [readWhole, hd]
    · simp [readWhole, hzero, hc, htake, hdrop]

theorem readFraction_eq_ok_iff {digits : List Char} :
    readFraction ending s = .ok (digits, rest) ↔ SpellsFraction s digits rest := by
  constructor
  · intro h
    unfold readFraction at h
    split at h
    · cases h
      exact .absent nofun
    split at h
    · rename_i hpoint
      exact hpoint ▸ .present (readDigits_eq_ok_iff.1 h)
    · rename_i hpoint
      cases h
      exact .absent fun hhead => hpoint (Option.some.inj hhead)
  · intro h
    cases h with
    | absent hpoint =>
      cases s with
      | nil => rfl
      | cons c s => rw [readFraction, if_neg fun hc => hpoint (congrArg some hc)]
    | present hdigits => rw [readFraction, if_pos rfl, readDigits_eq_ok_iff.2 hdigits]

theorem readMinus_eq_iff {negative : Bool} :
    readMinus s = (negative, rest) ↔ SpellsMinus s negative rest := by
  constructor
  · intro h
    unfold readMinus at h
    split at h
    · cases h
      exact .present
    · rename_i hminus
      cases h
      refine .absent fun hhead => ?_
      rcases List.head?_eq_some_iff.1 hhead with ⟨t, rfl⟩
      exact hminus t rfl
  · intro h
    cases h with
    | present => rfl
    | absent hminus =>
      unfold readMinus
      split
      · exact absurd rfl hminus
      · rfl

theorem readSign_eq_iff {negative : Bool} :
    readSign s = (negative, rest) ↔ SpellsSign s negative rest := by
  constructor
  · intro h
    unfold readSign at h
    split at h
    · cases h
      exact .plus
    · rename_i hplus
      refine .noPlus (fun hhead => ?_) (readMinus_eq_iff.1 h)
      rcases List.head?_eq_some_iff.1 hhead with ⟨t, rfl⟩
      exact hplus t rfl
  · intro h
    cases h with
    | plus => rfl
    | noPlus hplus hminus =>
      unfold readSign
      split
      · exact absurd rfl hplus
      · exact readMinus_eq_iff.2 hminus

theorem readExponent_eq_ok_iff {exponent : Option (Bool × List Char)} :
    readExponent ending s = .ok (exponent, rest) ↔ SpellsExponent s exponent rest := by
  constructor
  · intro h
    unfold readExponent at h
    split at h
    · cases h
      exact .absent nofun nofun
    split at h
    · rename_i he
      dsimp only at h
      split at h
      · rename_i hdigits
        cases h
        exact .present he (readSign_eq_iff.1 rfl) (readDigits_eq_ok_iff.1 hdigits)
      · cases h
    · rename_i he
      cases h
      rw [not_or] at he
      exact .absent (fun hhead => he.1 (Option.some.inj hhead))
        fun hhead => he.2 (Option.some.inj hhead)
  · intro h
    cases h with
    | absent hsmall hcapital =>
      cases s with
      | nil => rfl
      | cons c s =>
        have he : ¬(c = 'e' ∨ c = 'E') := by
          rintro (rfl | rfl)
          · exact hsmall rfl
          · exact hcapital rfl
        rw [readExponent, if_neg he]
    | present he hsign hdigits =>
      rw [readExponent, if_pos he, readSign_eq_iff.2 hsign]
      dsimp only
      rw [readDigits_eq_ok_iff.2 hdigits]

/-- A number is read exactly if it is spelled, cut into its digits. -/
theorem readNumeral_eq_ok_iff {n : Numeral} :
    readNumeral ending s = .ok (n, rest) ↔ SpellsNumeral s n rest := by
  constructor
  · intro h
    unfold readNumeral at h
    dsimp only at h
    rcases bind_eq_ok_iff.1 h with ⟨⟨whole, t⟩, hwhole, h⟩
    rcases bind_eq_ok_iff.1 h with ⟨⟨fraction, u⟩, hfraction, h⟩
    rcases bind_eq_ok_iff.1 h with ⟨⟨exponent, v⟩, hexponent, h⟩
    cases h
    exact .parts (readMinus_eq_iff.1 rfl) (readWhole_eq_ok_iff.1 hwhole)
      (readFraction_eq_ok_iff.1 hfraction) (readExponent_eq_ok_iff.1 hexponent)
  · rintro ⟨hminus, hwhole, hfraction, hexponent⟩
    rw [readNumeral, readMinus_eq_iff.2 hminus]
    dsimp only
    refine bind_eq_ok_iff.2 ⟨_, readWhole_eq_ok_iff.2 hwhole, ?_⟩
    refine bind_eq_ok_iff.2 ⟨_, readFraction_eq_ok_iff.2 hfraction, ?_⟩
    exact bind_eq_ok_iff.2 ⟨_, readExponent_eq_ok_iff.2 hexponent, rfl⟩

end

/-- A text spells one number, with one rest behind it. -/
theorem SpellsNumeral.unique {s rest rest' : List Char} {n n' : Numeral}
    (h : SpellsNumeral s n rest) (h' : SpellsNumeral s n' rest') : n = n' ∧ rest = rest' := by
  have hread : readNumeral .endInValue s = .ok (n, rest) := readNumeral_eq_ok_iff.2 h
  cases hread.symm.trans (readNumeral_eq_ok_iff.2 h')
  exact ⟨rfl, rfl⟩

end Json
end NodeApi
