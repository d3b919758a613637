import NodeApi.Json.Printer
import NodeApi.Json.Reader
import NodeApi.Proofs.Json.Literal
import NodeApi.Proofs.Json.Numeral

/-!
# Strings and integers that are read back

What is printed for a string or an integer is read as this string or integer, whatever text follows
it.  Behind an integer the text must not go on like a number.

Main results:

- Theorem `spells_escaped`: what is printed for a string spells this string.
- Theorem `readLiteral_escaped`: a string is read back from behind its opening quote.
- Theorem `absorb_naturalText`: a count is read back from its digits.
- Theorem `readNumber_integerText`: an integer of 64 bits is read back.
- Theorem `readScalar_integer`: it is read back as a value, too.
-/

namespace NodeApi
namespace Json

/-! ## Strings -/

/-- A string from behind its opening quote up to its closing one. -/
def escaped (s : String) (rest : List Char) : List Char :=
  s.toList.foldr (fun c text => escapeChar c ++ text) ('"' :: rest)

theorem writeString_eq (s : String) (rest : List Char) :
    writeString s rest = '"' :: escaped s rest :=
  rfl

theorem hexDigit_hexChar {n : Nat} (h : n < 16) : HexDigit (hexChar n) n := by
  have hall : ∀ k : Fin 16, hexValue? (hexChar k) = some k.val := by decide
  exact hexValue?_eq_some_iff.1 (hall ⟨n, h⟩)

/-- The escape of a control spells this control. -/
theorem spellsEscape_control {c : Char} (hc : c.toNat < 0x20) (rest : List Char) :
    SpellsEscape ('u' :: '0' :: '0' :: hexChar (c.toNat / 16) :: hexChar (c.toNat % 16) :: rest) c
      rest := by
  have hzero : HexDigit '0' 0 := hexValue?_eq_some_iff.1 rfl
  have hhigh := hexDigit_hexChar (n := c.toNat / 16) (by omega)
  have hlow := hexDigit_hexChar (n := c.toNat % 16) (by omega)
  have hcode : ((0 * 16 + 0) * 16 + c.toNat / 16) * 16 + c.toNat % 16 = c.toNat := by omega
  have hspells : SpellsCode
      ('0' :: '0' :: hexChar (c.toNat / 16) :: hexChar (c.toNat % 16) :: rest) _ rest :=
    .digits hzero hzero hhigh hlow
  rw [hcode] at hspells
  exact .code hspells

/-- A character is printed as an escape that spells this character, or it stands for itself. -/
theorem escapeChar_cases (c : Char) :
    (∃ letters, escapeChar c = '\\' :: letters ∧
      ∀ rest, SpellsEscape (letters ++ rest) c rest) ∨
    (escapeChar c = [c] ∧ c ≠ '"' ∧ c ≠ '\\' ∧ ¬c.toNat < 0x20) := by
  have hletter {e : Char} (h : (e, c) ∈ escapeLetters) (rest : List Char) :
      SpellsEscape ([e] ++ rest) c rest := .letter h
  unfold escapeChar
  by_cases hquote : c = '"'
  · exact Or.inl ⟨['"'], by rw [if_pos hquote], hletter (by rw [hquote]; decide)⟩
  rw [if_neg hquote]
  by_cases hslash : c = '\\'
  · exact Or.inl ⟨['\\'], by rw [if_pos hslash], hletter (by rw [hslash]; decide)⟩
  rw [if_neg hslash]
  by_cases hback : c = '\x08'
  · exact Or.inl ⟨['b'], by rw [if_pos hback], hletter (by rw [hback]; decide)⟩
  rw [if_neg hback]
  by_cases hfeed : c = '\x0c'
  · exact Or.inl ⟨['f'], by rw [if_pos hfeed], hletter (by rw [hfeed]; decide)⟩
  rw [if_neg hfeed]
  by_cases hline : c = '\n'
  · exact Or.inl ⟨['n'], by rw [if_pos hline], hletter (by rw [hline]; decide)⟩
  rw [if_neg hline]
  by_cases hreturn : c = '\r'
  · exact Or.inl ⟨['r'], by rw [if_pos hreturn], hletter (by rw [hreturn]; decide)⟩
  rw [if_neg hreturn]
  by_cases htab : c = '\t'
  · exact Or.inl ⟨['t'], by rw [if_pos htab], hletter (by rw [htab]; decide)⟩
  rw [if_neg htab]
  by_cases hcontrol : c.toNat < 0x20
  · rw [if_pos hcontrol]
    exact Or.inl ⟨_, rfl, spellsEscape_control hcontrol⟩
  · rw [if_neg hcontrol]
    exact Or.inr ⟨rfl, hquote, hslash, hcontrol⟩

/-- What is printed for a string spells this string, whatever text follows it. -/
theorem spells_escaped (s : String) (rest : List Char) :
    SpellsCharacters (escaped s rest) s.toList rest := by
  unfold escaped
  induction s.toList with
  | nil => exact .closed
  | cons c cs ih =>
    rw [List.foldr_cons]
    rcases escapeChar_cases c with ⟨letters, hescape, hspells⟩ | ⟨hself, hquote, hslash, hcontrol⟩
    · rw [hescape]
      exact .escape (hspells _) ih
    · rw [hself]
      exact .itself hquote hslash (Nat.le_of_not_lt hcontrol) ih

theorem length_escaped (s : String) (rest : List Char) :
    s.toList.length + rest.length < (escaped s rest).length :=
  (spells_escaped s rest).length_lt

/-- A string is read back from behind its opening quote. -/
theorem readLiteral_escaped (s : String) (rest : List Char) :
    readLiteral (escaped s rest) = .ok (s, rest) :=
  readLiteral_eq_ok_iff.2 (spells_escaped s rest)

/-! ## Integers -/

/-- A character that a number begins with. -/
def StartsNumber (c : Char) : Prop :=
  c = '-' ∨ c.isDigit = true

theorem StartsNumber.ne {c d : Char} (h : StartsNumber c) (hminus : d ≠ '-')
    (hdigit : d.isDigit = false) : c ≠ d := by
  rintro rfl
  rcases h with rfl | h
  · exact hminus rfl
  · rw [hdigit] at h
    exact absurd h (by decide)

theorem StartsNumber.isBlank_eq_false {c : Char} (h : StartsNumber c) : isBlank c = false := by
  simp [isBlank, h.ne]

/-- A text that does not go on like a number. -/
def EndsNumber (rest : List Char) : Prop :=
  ∀ c ∈ rest.head?, c.isDigit = false ∧ c ≠ '.' ∧ c ≠ 'e' ∧ c ≠ 'E'

theorem endsNumber_nil : EndsNumber [] := by
  simp [EndsNumber]

theorem endsNumber_cons {c : Char} {rest : List Char} :
    EndsNumber (c :: rest) ↔ c.isDigit = false ∧ c ≠ '.' ∧ c ≠ 'e' ∧ c ≠ 'E' := by
  simp [EndsNumber]

theorem isDigit_of_mem_naturalText {n : Nat} {c : Char} (h : c ∈ naturalText n) :
    c.isDigit = true :=
  Nat.isDigit_of_mem_toDigits (by decide) (by decide) h

/-- An integer begins with its sign or a digit. -/
theorem integerText_eq_cons (value : Int) :
    ∃ c digits, integerText value = c :: digits ∧ StartsNumber c := by
  cases value with
  | ofNat n =>
    cases htext : naturalText n with
    | nil => exact absurd htext Nat.toDigits_ne_nil
    | cons c digits =>
      have hmem : c ∈ naturalText n := by rw [htext]; exact List.mem_cons_self
      exact ⟨c, digits, htext, Or.inr (isDigit_of_mem_naturalText hmem)⟩
  | negSucc n => exact ⟨'-', naturalText (n + 1), rfl, Or.inl rfl⟩

/-- The digits of a positive count do not begin with a zero. -/
theorem head?_naturalText_ne {n : Nat} (h : 0 < n) : (naturalText n).head? ≠ some '0' := by
  induction n using Nat.strongRecOn with
  | ind n ih =>
    rw [naturalText, Nat.toDigits_eq_if (by decide)]
    by_cases hdigit : n < 10
    · have hall : ∀ k : Fin 10, 0 < k.val → Nat.digitChar k ≠ '0' := by decide
      rw [if_pos hdigit]
      simpa using hall ⟨n, hdigit⟩ h
    · have hfront := ih (n / 10) (by omega) (by omega)
      rw [naturalText] at hfront
      rw [if_neg hdigit, List.head?_append]
      cases htext : Nat.toDigits 10 (n / 10) with
      | nil => exact absurd htext Nat.toDigits_ne_nil
      | cons c digits => simpa [htext] using hfront

/-- The digits of a count are digits before the point, up to the first character that is none. -/
theorem spellsWhole_naturalText (n : Nat) {rest : List Char} (hrest : EndsNumber rest) :
    SpellsWhole (naturalText n ++ rest) (naturalText n) rest := by
  refine ⟨⟨rfl, Nat.toDigits_ne_nil, fun d => isDigit_of_mem_naturalText, ?_⟩, ?_⟩
  · exact fun d hd => (hrest d hd).1
  · intro hhead
    by_cases hzero : n = 0
    · rw [hzero]
      rfl
    · exact absurd hhead (head?_naturalText_ne (Nat.pos_of_ne_zero hzero))

/-- A count within the limit is read back from its digits. -/
theorem absorb_naturalText {limit n : Nat} (h : n ≤ limit) :
    absorb limit 0 (naturalText n) = (n, []) := by
  have hvalue :
      (naturalText n).foldl (fun total d => 10 * total + (d.toNat - '0'.toNat)) 0 = n := by
    rw [← Nat.ofDigitChars_eq_foldl]
    exact Nat.ofDigitChars_ten_toDigits
  rw [absorb_of_le (by rw [hvalue]; exact h), hvalue]

/-- The digits of a count spell a number without point and exponent, and with a minus before them a
negative one. -/
theorem spellsNumeral_naturalText (n : Nat) {rest : List Char} (hrest : EndsNumber rest) :
    SpellsNumeral (naturalText n ++ rest) ⟨false, naturalText n, [], none⟩ rest ∧
      SpellsNumeral ('-' :: (naturalText n ++ rest)) ⟨true, naturalText n, [], none⟩ rest := by
  have hwhole := spellsWhole_naturalText n hrest
  have hfraction : SpellsFraction rest [] rest :=
    .absent fun hhead => (hrest '.' hhead).2.1 rfl
  have hexponent : SpellsExponent rest none rest :=
    .absent (fun hhead => (hrest 'e' hhead).2.2.1 rfl) fun hhead => (hrest 'E' hhead).2.2.2 rfl
  refine ⟨.parts (.absent fun hhead => ?_) hwhole hfraction hexponent,
    .parts .present hwhole hfraction hexponent⟩
  rcases hwhole.head with ⟨c, t, heq, _, hc⟩
  rw [heq] at hhead
  cases hhead
  exact absurd hc (by decide)

theorem value_naturalText (negative : Bool) {n : Nat} (h : n ≤ maxSignificand) :
    (Numeral.mk negative (naturalText n) [] none).value =
      .ok ((Numeral.mk negative (naturalText n) [] none).plainValue n) := by
  rw [Numeral.value, absorb_naturalText h]
  rfl

/-- An integer of 64 bits is read back. -/
theorem readNumber_integerText {value : Int} (h : Number.Fits value) {rest : List Char}
    (hrest : EndsNumber rest) :
    readNumber (integerText value ++ rest) = .ok (.integer value, rest) := by
  unfold Number.Fits at h
  cases value with
  | ofNat n =>
    have hn : n ≤ maxSignificand := by
      unfold maxSignificand
      rw [Int.ofNat_eq_natCast] at h
      omega
    have hread : readNumeral .endInValue _ = _ :=
      readNumeral_eq_ok_iff.2 (spellsNumeral_naturalText n hrest).1
    simp only [readNumber, integerText, hread, bind, Except.bind, value_naturalText false hn]
    rfl
  | negSucc n =>
    have hn : n + 1 ≤ 0x8000000000000000 := by omega
    have hmax : n + 1 ≤ maxSignificand := by
      unfold maxSignificand
      omega
    have hread : readNumeral .endInValue _ = _ :=
      readNumeral_eq_ok_iff.2 (spellsNumeral_naturalText (n + 1) hrest).2
    simp only [readNumber, integerText, List.cons_append, hread, bind, Except.bind,
      value_naturalText true hmax]
    have hplain : ¬(n + 1 = 0 ∨ 0x8000000000000000 < n + 1) := by omega
    simp only [Numeral.plainValue, Bool.not_true, if_neg hplain]
    rfl

/-- An integer of 64 bits is read back as a value. -/
theorem readScalar_integer {value : Int} (h : Number.Fits value) {rest : List Char}
    (hrest : EndsNumber rest) :
    readScalar (integerText value ++ rest) = .ok (.number (.integer value), rest) := by
  have hread := readNumber_integerText h hrest
  rcases integerText_eq_cons value with ⟨c, digits, htext, hstart⟩
  rw [htext, List.cons_append] at hread ⊢
  have hnumber : c = '-' ∨ c.isDigit = true := hstart
  rw [readScalar, if_neg (hstart.ne (by decide) (by decide)),
    if_neg (hstart.ne (by decide) (by decide)), if_neg (hstart.ne (by decide) (by decide)),
    if_neg (hstart.ne (by decide) (by decide)), if_pos hnumber, hread]
  rfl

end Json
end NodeApi
