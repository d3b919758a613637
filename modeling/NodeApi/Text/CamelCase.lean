import NodeApi.Text.Alphanumeric
import NodeApi.Text.CaseMaps

/-!
# Names in lower camel case

A name is cut into words where its letters change case and at every character that is neither a
letter nor a digit.  The first word is written in small letters, every further one with a capital
at its front.

Main results:

- Theorem `flatten_words`: cutting a stretch of letters and digits into words loses no character.
-/

namespace NodeApi
namespace Text

/-- The case of the last letter of the current word, as far as it has one. -/
inductive LetterMode where
  | fresh
  | small
  | capital
deriving DecidableEq

/-- The case that the word has after one more character; digits and the like change nothing. -/
def LetterMode.after (mode : LetterMode) (c : Char) : LetterMode :=
  if isLowercase c then .small
  else if isUppercase c then .capital
  else mode

/-- Puts a character at the front of the first word. -/
def consFirst (c : Char) : List (List Char) → List (List Char)
  | [] => [[c]]
  | word :: words => (c :: word) :: words

/-- The words of a stretch of letters and digits, the first of which continues a word in the given
mode.  A word ends after a small letter that a capital follows, and before the last of several
capitals that a small letter follows. -/
def words (mode : LetterMode) : List Char → List (List Char)
  | [] => []
  | [c] => [[c]]
  | c :: next :: rest =>
    if mode.after c = .small ∧ isUppercase next then
      [c] :: words .fresh (next :: rest)
    else if mode = .capital ∧ isUppercase c ∧ isLowercase next then
      [] :: consFirst c (words .fresh (next :: rest))
    else
      consFirst c (words (mode.after c) (next :: rest))

/-- A word in small letters; a sigma at its end takes the final form. -/
def lowercaseWord : List Char → List Char
  | [] => []
  | [c] => if c = 'Σ' then ['ς'] else toLowercase c
  | c :: rest => toLowercase c ++ lowercaseWord rest

/-- A word with a capital at its front. -/
def capitalizeWord : List Char → List Char
  | [] => []
  | c :: rest => toUppercase c ++ lowercaseWord rest

/-- The stretches of letters and digits of a text. -/
def alphanumericRuns (cs : List Char) : List (List Char) :=
  cs.splitOnP fun c => !isAlphanumeric c

/-- A name in lower camel case. -/
def camelCase (name : String) : String :=
  match (alphanumericRuns name.toList).flatMap (words .fresh) with
  | [] => ""
  | word :: rest => String.ofList (lowercaseWord word ++ rest.flatMap capitalizeWord)

@[simp]
theorem flatten_consFirst (c : Char) (ws : List (List Char)) :
    (consFirst c ws).flatten = c :: ws.flatten := by
  cases ws <;> rfl

/-- Cutting into words loses no character and moves none. -/
theorem flatten_words (mode : LetterMode) (cs : List Char) : (words mode cs).flatten = cs := by
  fun_induction words mode cs with
  | case1 => rfl
  | case2 => rfl
  | case3 mode c next rest _ ih => simp [ih]
  | case4 mode c next rest _ _ ih => simp [ih]
  | case5 mode c next rest _ _ ih => simp [ih]

end Text
end NodeApi
