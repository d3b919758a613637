import NodeApi.Json.Literal
import NodeApi.Proofs.Json.Outcome

/-!
# What a string spells

Between its quotes a string has characters that stand for themselves and escapes: a backslash with a
letter, or with the code of a character in four hexadecimal digits.  A character beyond the basic
plane takes two codes, the halves of a pair of surrogates.

Main results:

- Theorem `readHex_eq_ok_iff`: four digits are read as the number that they spell.
- Theorem `readEscape_eq_ok_iff`: an escape is read as the character that it spells.
- Theorem `readLiteral_eq_ok_iff`: a string is read exactly if it is spelled, as what it spells.
-/

namespace NodeApi
namespace Json

/-! ## Grammar -/

/-- A hexadecimal digit, in small or capital letters. -/
def HexDigit (c : Char) (n : Nat) : Prop :=
  n < 16 ∧ c.toLower = n.digitChar

/-- Four hexadecimal digits spell a number, behind which the rest of the text stands. -/
inductive SpellsCode : List Char → Nat → List Char → Prop where
  | digits {a b c d : Char} {i j k l : Nat} {rest : List Char} :
      HexDigit a i → HexDigit b j → HexDigit c k → HexDigit d l →
        SpellsCode (a :: b :: c :: d :: rest) (((i * 16 + j) * 16 + k) * 16 + l) rest

/-- The letters that stand for a character behind a backslash. -/
def escapeLetters : List (Char × Char) :=
  [('"', '"'), ('\\', '\\'), ('/', '/'), ('b', '\x08'), ('f', '\x0c'), ('n', '\n'), ('r', '\r'),
    ('t', '\t')]

/-- What stands behind a backslash spells a character. -/
inductive SpellsEscape : List Char → Char → List Char → Prop where
  | letter {e c : Char} {rest : List Char} :
      (e, c) ∈ escapeLetters → SpellsEscape (e :: rest) c rest
  | code {s rest : List Char} {c : Char} :
      SpellsCode s c.toNat rest → SpellsEscape ('u' :: s) c rest
  | pair {s t rest : List Char} {c : Char} {high low : Nat} :
      SpellsCode s high ('\\' :: 'u' :: t) → 0xD800 ≤ high ∧ high ≤ 0xDBFF →
      SpellsCode t low rest → 0xDC00 ≤ low ∧ low ≤ 0xDFFF →
      c.toNat = 0x10000 + (high - 0xD800) * 0x400 + (low - 0xDC00) →
        SpellsEscape ('u' :: s) c rest

/-- A text spells characters up to the closing quote. -/
inductive SpellsCharacters : List Char → List Char → List Char → Prop where
  | closed {rest : List Char} : SpellsCharacters ('"' :: rest) [] rest
  | itself {c : Char} {s characters rest : List Char} :
      c ≠ '"' → c ≠ '\\' → 0x20 ≤ c.toNat → SpellsCharacters s characters rest →
        SpellsCharacters (c :: s) (c :: characters) rest
  | escape {c : Char} {s t characters rest : List Char} :
      SpellsEscape s c t → SpellsCharacters t characters rest →
        SpellsCharacters ('\\' :: s) (c :: characters) rest

/-! ## Digits -/

theorem not_val_le_of_le_toNat {c d : Char} (hc : 128 ≤ c.toNat) (hd : d.toNat < 128) :
    ¬c.val ≤ d.val := by
  rw [UInt32.le_iff_toNat_le, Char.toNat_val, Char.toNat_val]
  omega

theorem hexValue?_eq_none {c : Char} (h : 128 ≤ c.toNat) : hexValue? c = none := by
  have hnine := not_val_le_of_le_toNat h (d := '9') (by decide)
  have hsmall := not_val_le_of_le_toNat h (d := 'f') (by decide)
  have hcapital := not_val_le_of_le_toNat h (d := 'F') (by decide)
  have hdigit : c.isDigit = false := by
    simp only [Char.isDigit, hnine, decide_false, Bool.and_false]
  rw [hexValue?, if_neg (by simp [hdigit]), if_neg fun hrange => hsmall hrange.2,
    if_neg fun hrange => hcapital hrange.2]

theorem not_hexDigit {c : Char} {n : Nat} (h : 128 ≤ c.toNat) : ¬HexDigit c n := by
  rintro ⟨hlt, hlower⟩
  have hcapital := not_val_le_of_le_toNat h (d := 'Z') (by decide)
  have hself : c.toLower = c := dif_neg fun hrange => hcapital hrange.2
  have hall : ∀ m < 16, m.digitChar.toNat < 128 := by decide
  have hascii := hall n hlt
  rw [← hlower, hself] at hascii
  omega

/-- The digits are found among the characters of ASCII, where they can be tried one by one. -/
theorem hexValue?_eq_some_iff {c : Char} {n : Nat} : hexValue? c = some n ↔ HexDigit c n := by
  by_cases hascii : c.toNat < 128
  · have hall : ∀ k < 128, (∀ m < 16, hexValue? (Char.ofNat k) = some m ↔
        (Char.ofNat k).toLower = m.digitChar) ∧
        ((hexValue? (Char.ofNat k)).all fun m => decide (m < 16)) = true := by
      decide +kernel
    have hdigit := hall c.toNat hascii
    rw [Char.ofNat_toNat] at hdigit
    constructor
    · intro h
      have hlt : n < 16 := by simpa [h] using hdigit.2
      exact ⟨hlt, (hdigit.1 n hlt).1 h⟩
    · exact fun h => (hdigit.1 n h.1).2 h.2
  · have hbeyond : 128 ≤ c.toNat := Nat.le_of_not_lt hascii
    rw [hexValue?_eq_none hbeyond]
    exact ⟨nofun, fun h => absurd h (not_hexDigit hbeyond)⟩

/-- Four digits are read as the number that they spell. -/
theorem readHex_eq_ok_iff {s rest : List Char} {code : Nat} :
    readHex s = .ok (code, rest) ↔ SpellsCode s code rest := by
  constructor
  · intro h
    unfold readHex at h
    split at h
    · cases h
    split at h
    · split at h
      · rename_i ha hb hc hd
        cases h
        exact .digits (hexValue?_eq_some_iff.1 ha) (hexValue?_eq_some_iff.1 hb)
          (hexValue?_eq_some_iff.1 hc) (hexValue?_eq_some_iff.1 hd)
      · cases h
    · cases h
  · rintro ⟨ha, hb, hc, hd⟩
    exact readHex_four rest (hexValue?_eq_some_iff.2 ha) (hexValue?_eq_some_iff.2 hb)
      (hexValue?_eq_some_iff.2 hc) (hexValue?_eq_some_iff.2 hd)

theorem SpellsCode.lt {s rest : List Char} {code : Nat} (h : SpellsCode s code rest) :
    code < 0x10000 := by
  cases h with
  | digits ha hb hc hd =>
    have := ha.1
    have := hb.1
    have := hc.1
    have := hd.1
    omega

theorem SpellsCode.length {s rest : List Char} {code : Nat} (h : SpellsCode s code rest) :
    s.length = rest.length + 4 := by
  cases h
  rfl

/-! ## Escapes -/

theorem toNat_ofNat_of_isValidChar {n : Nat} (h : n.isValidChar) : (Char.ofNat n).toNat = n := by
  rw [Char.ofNat, dif_pos h]
  rfl

/-- The code of a character is not that of half a pair. -/
theorem isValidChar_toNat (c : Char) : c.toNat.isValidChar :=
  c.valid

/-- The second half of a pair is read behind a backslash. -/
theorem readLowSurrogate_eq_ok_iff {high : Nat} {s rest : List Char} {c : Char}
    (hhigh : 0xD800 ≤ high ∧ high ≤ 0xDBFF) :
    readLowSurrogate high s = .ok (c, rest) ↔
      ∃ t low, s = '\\' :: 'u' :: t ∧ SpellsCode t low rest ∧ (0xDC00 ≤ low ∧ low ≤ 0xDFFF) ∧
        c.toNat = 0x10000 + (high - 0xD800) * 0x400 + (low - 0xDC00) := by
  have hcode {low : Nat} (hlow : 0xDC00 ≤ low ∧ low ≤ 0xDFFF) :
      (Char.ofNat ((high - 0xD800) * 0x400 + (low - 0xDC00) + 0x10000)).toNat =
        0x10000 + (high - 0xD800) * 0x400 + (low - 0xDC00) := by
    rw [toNat_ofNat_of_isValidChar (.inr (by omega))]
    omega
  constructor
  · intro h
    unfold readLowSurrogate at h
    split at h
    · cases h
    · cases h
    · rename_i t
      rcases bind_eq_ok_iff.1 h with ⟨⟨low, t'⟩, hread, h⟩
      dsimp only at h
      split at h
      · rename_i hlow
        rcases Prod.mk.inj (Except.ok.inj h) with ⟨rfl, rfl⟩
        exact ⟨t, low, rfl, readHex_eq_ok_iff.1 hread, hlow, hcode hlow⟩
      · cases h
    · cases h
    · cases h
  · rintro ⟨t, low, rfl, hread, hlow, hc⟩
    have hchar : Char.ofNat ((high - 0xD800) * 0x400 + (low - 0xDC00) + 0x10000) = c :=
      Char.toNat_inj.1 ((hcode hlow).trans hc.symm)
    refine bind_eq_ok_iff.2 ⟨(low, rest), readHex_eq_ok_iff.2 hread, ?_⟩
    dsimp only
    rw [if_pos hlow, hchar]
    rfl

/-- An escape is read as the character that it spells. -/
theorem readEscape_eq_ok_iff {s rest : List Char} {c : Char} :
    readEscape s = .ok (c, rest) ↔ SpellsEscape s c rest := by
  constructor
  · intro h
    unfold readEscape at h
    split at h
    case h_10 t =>
      rcases bind_eq_ok_iff.1 h with ⟨⟨code, t'⟩, hread, h⟩
      have hcode := readHex_eq_ok_iff.1 hread
      dsimp only at h
      split at h
      · rename_i hhigh
        rcases (readLowSurrogate_eq_ok_iff hhigh).1 h with ⟨u, low, rfl, hu, hlow, hc⟩
        exact .pair hcode hhigh hu hlow hc
      split at h
      · cases h
      · rename_i hhigh hlow
        have hvalid : code.isValidChar := by
          have := hcode.lt
          unfold Nat.isValidChar
          omega
        cases h
        exact .code ((toNat_ofNat_of_isValidChar hvalid).symm ▸ hcode)
    all_goals
      cases h
    all_goals
      exact .letter (by decide)
  · intro h
    cases h with
    | letter hmem =>
      have hall : ∀ letter ∈ escapeLetters,
          readEscape (letter.1 :: rest) = .ok (letter.2, rest) := by
        simp only [escapeLetters, List.forall_mem_cons, List.not_mem_nil, false_implies,
          implies_true, and_true]
        exact ⟨rfl, rfl, rfl, rfl, rfl, rfl, rfl, rfl⟩
      exact hall _ hmem
    | code hcode =>
      have hvalid := isValidChar_toNat c
      unfold Nat.isValidChar at hvalid
      refine bind_eq_ok_iff.2 ⟨(c.toNat, rest), readHex_eq_ok_iff.2 hcode, ?_⟩
      dsimp only
      rw [if_neg (by omega), if_neg (by omega), Char.ofNat_toNat]
      rfl
    | @pair _ t _ _ high low hcode hhigh hu hlow hc =>
      refine bind_eq_ok_iff.2 ⟨(high, '\\' :: 'u' :: t), readHex_eq_ok_iff.2 hcode, ?_⟩
      dsimp only
      rw [if_pos hhigh]
      exact (readLowSurrogate_eq_ok_iff hhigh).2 ⟨t, low, rfl, hu, hlow, hc⟩

theorem SpellsEscape.length_lt {s rest : List Char} {c : Char} (h : SpellsEscape s c rest) :
    rest.length < s.length := by
  cases h with
  | letter => exact Nat.lt_succ_self _
  | code hcode =>
    rw [List.length_cons, hcode.length]
    omega
  | pair hcode _ hu _ _ =>
    have hlength := hcode.length
    simp only [List.length_cons, hu.length] at hlength ⊢
    omega

/-! ## Strings -/

/-- A string takes a character of the text at least for each one of its own. -/
theorem SpellsCharacters.length_lt {s own rest : List Char} (h : SpellsCharacters s own rest) :
    own.length + rest.length < s.length := by
  induction h with
  | closed => simp
  | itself _ _ _ _ ih =>
    simp only [List.length_cons]
    omega
  | escape hescape _ ih =>
    have hlength := hescape.length_lt
    simp only [List.length_cons]
    omega

/-- Whatever is read is spelled, behind what was read before. -/
theorem spells_of_readCharacters {bound gathered s characters rest : List Char}
    (h : readCharacters bound gathered s = .ok (characters, rest)) :
    ∃ own, characters = gathered.reverse ++ own ∧ SpellsCharacters s own rest := by
  induction bound generalizing gathered s with
  | nil => cases h
  | cons b bound ih =>
    cases s with
    | nil => cases h
    | cons c s =>
      have hmore {c : Char} {own : List Char} (heq : characters = (c :: gathered).reverse ++ own) :
          characters = gathered.reverse ++ c :: own := by
        rw [heq, List.reverse_cons, List.append_assoc, List.singleton_append]
      rw [readCharacters] at h
      split at h
      · rename_i hquote
        cases h
        exact ⟨[], (List.append_nil _).symm, hquote ▸ .closed⟩
      rename_i hquote
      split at h
      · rename_i hslash
        subst hslash
        split at h
        · rename_i hescape
          rcases ih h with ⟨own, heq, hown⟩
          exact ⟨_, hmore heq, .escape (readEscape_eq_ok_iff.1 hescape) hown⟩
        · cases h
      · rename_i hslash
        split at h
        · cases h
        · rename_i hcontrol
          rcases ih h with ⟨own, heq, hown⟩
          exact ⟨_, hmore heq, .itself hquote hslash (Nat.le_of_not_lt hcontrol) hown⟩

/-- Whatever is spelled is read, if there are rounds enough. -/
theorem SpellsCharacters.read {s own rest : List Char} (h : SpellsCharacters s own rest)
    {bound : List Char} (hbound : s.length ≤ bound.length) (gathered : List Char) :
    readCharacters bound gathered s = .ok (gathered.reverse ++ own, rest) := by
  induction h generalizing bound gathered with
  | closed =>
    cases bound with
    | nil => simp at hbound
    | cons b bound => rw [readCharacters, if_pos rfl, List.append_nil]
  | itself hquote hslash hplain _ ih =>
    cases bound with
    | nil => simp at hbound
    | cons b bound =>
      rw [readCharacters, if_neg hquote, if_neg hslash, if_neg (by omega),
        ih (Nat.le_of_succ_le_succ hbound), List.reverse_cons, List.append_assoc,
        List.singleton_append]
  | escape hescape _ ih =>
    cases bound with
    | nil => simp at hbound
    | cons b bound =>
      have hlength := hescape.length_lt
      simp only [List.length_cons] at hbound
      rw [readCharacters, if_neg (by decide), if_pos rfl, readEscape_eq_ok_iff.2 hescape]
      dsimp only
      rw [ih (by omega), List.reverse_cons, List.append_assoc, List.singleton_append]

/-- A string is read exactly if it is spelled, as what it spells. -/
theorem readLiteral_eq_ok_iff {s rest : List Char} {text : String} :
    readLiteral s = .ok (text, rest) ↔ SpellsCharacters s text.toList rest := by
  constructor
  · intro h
    rcases bind_eq_ok_iff.1 h with ⟨⟨characters, rest'⟩, hread, heq⟩
    cases heq
    rcases spells_of_readCharacters hread with ⟨own, rfl, hown⟩
    simpa using hown
  · intro h
    refine bind_eq_ok_iff.2 ⟨(text.toList, rest), h.read (Nat.le_refl _) [], ?_⟩
    dsimp only
    rw [String.ofList_toList]
    rfl

end Json
end NodeApi
