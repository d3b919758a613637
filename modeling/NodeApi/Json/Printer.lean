import NodeApi.Json.Basic

/-!
# Printing JSON values

A value is printed without any blank, or with every element and member on a line of its own.  Each
printing function takes the text that follows and puts the value in front of it.

Main results:

- Theorem `write_append`: what follows a value does not change how the value is printed.
-/

namespace NodeApi
namespace Json

/-- How a value is laid out. -/
inductive Layout where
  | compact
  | pretty
deriving DecidableEq

/-- A line break before an item that stands `indent` levels deep, in the pretty layout only. -/
def Layout.lineBreak (layout : Layout) (indent : Nat) (rest : List Char) : List Char :=
  match layout with
  | compact => rest
  | pretty => '\n' :: List.replicate (2 * indent) ' ' ++ rest

/-- The colon between a key and its value. -/
def Layout.colon (layout : Layout) (rest : List Char) : List Char :=
  match layout with
  | compact => ':' :: rest
  | pretty => ':' :: ' ' :: rest

/-- A digit of a hexadecimal escape. -/
def hexChar (n : Nat) : Char :=
  Nat.digitChar n

/-- A character as it stands in a string: quotes, backslashes and controls are escaped, all others
stand for themselves. -/
def escapeChar (c : Char) : List Char :=
  if c = '"' then ['\\', '"']
  else if c = '\\' then ['\\', '\\']
  else if c = '\x08' then ['\\', 'b']
  else if c = '\x0c' then ['\\', 'f']
  else if c = '\n' then ['\\', 'n']
  else if c = '\r' then ['\\', 'r']
  else if c = '\t' then ['\\', 't']
  else if c.toNat < 0x20 then
    ['\\', 'u', '0', '0', hexChar (c.toNat / 16), hexChar (c.toNat % 16)]
  else [c]

/-- A string between quotes. -/
def writeString (s : String) (rest : List Char) : List Char :=
  '"' :: s.toList.foldr (fun c text => escapeChar c ++ text) ('"' :: rest)

mutual

/-- A value that stands `indent` levels deep. -/
def write (layout : Layout) (indent : Nat) : Json → List Char → List Char
  | null, rest => 'n' :: 'u' :: 'l' :: 'l' :: rest
  | bool true, rest => 't' :: 'r' :: 'u' :: 'e' :: rest
  | bool false, rest => 'f' :: 'a' :: 'l' :: 's' :: 'e' :: rest
  | number value, rest => numberText value ++ rest
  | string value, rest => writeString value rest
  | array [], rest => '[' :: ']' :: rest
  | array (element :: elements), rest =>
    '[' :: layout.lineBreak (indent + 1) (write layout (indent + 1) element
      (writeElements layout (indent + 1) elements (layout.lineBreak indent (']' :: rest))))
  | object [], rest => '\x7b' :: '\x7d' :: rest
  | object ((key, value) :: members), rest =>
    '\x7b' :: layout.lineBreak (indent + 1) (writeString key (layout.colon
      (write layout (indent + 1) value
        (writeMembers layout (indent + 1) members (layout.lineBreak indent ('\x7d' :: rest))))))

/-- The elements after the first, each behind a comma. -/
def writeElements (layout : Layout) (indent : Nat) : List Json → List Char → List Char
  | [], rest => rest
  | element :: elements, rest =>
    ',' :: layout.lineBreak indent (write layout indent element
      (writeElements layout indent elements rest))

/-- The members after the first, each behind a comma. -/
def writeMembers (layout : Layout) (indent : Nat) : List (String × Json) → List Char → List Char
  | [], rest => rest
  | (key, value) :: members, rest =>
    ',' :: layout.lineBreak indent (writeString key (layout.colon (write layout indent value
      (writeMembers layout indent members rest))))

end

/-- The text of a value. -/
def print (layout : Layout) (value : Json) : String :=
  String.ofList (write layout 0 value [])

/-- The text of a value without blanks. -/
def compact (value : Json) : String :=
  value.print .compact

/-- The text of a value over several lines. -/
def pretty (value : Json) : String :=
  value.print .pretty

theorem Layout.lineBreak_append (layout : Layout) (indent : Nat) (text rest : List Char) :
    layout.lineBreak indent (text ++ rest) = layout.lineBreak indent text ++ rest := by
  cases layout <;> simp [Layout.lineBreak]

theorem Layout.colon_append (layout : Layout) (text rest : List Char) :
    layout.colon (text ++ rest) = layout.colon text ++ rest := by
  cases layout <;> rfl

theorem writeString_append (s : String) (text rest : List Char) :
    writeString s (text ++ rest) = writeString s text ++ rest := by
  have h : ∀ cs : List Char, cs.foldr (fun c t => escapeChar c ++ t) ('"' :: (text ++ rest)) =
      cs.foldr (fun c t => escapeChar c ++ t) ('"' :: text) ++ rest := fun cs => by
    induction cs with
    | nil => rfl
    | cons c cs ih => simp [ih]
  simp [writeString, h]

mutual

/-- What follows a value does not change how the value is printed. -/
theorem write_append (layout : Layout) (indent : Nat) (value : Json) (text rest : List Char) :
    write layout indent value (text ++ rest) = write layout indent value text ++ rest := by
  match value with
  | null | bool true | bool false | array [] | object [] => simp [write]
  | number _ => simp [write]
  | string _ => simp [write, writeString_append]
  | array (element :: elements) =>
    simp only [write, List.cons_append]
    rw [← List.cons_append, Layout.lineBreak_append, writeElements_append, write_append,
      Layout.lineBreak_append]
  | object ((key, value) :: members) =>
    simp only [write, List.cons_append]
    rw [← List.cons_append, Layout.lineBreak_append, writeMembers_append, write_append,
      Layout.colon_append, writeString_append, Layout.lineBreak_append]

theorem writeElements_append (layout : Layout) (indent : Nat) (elements : List Json)
    (text rest : List Char) :
    writeElements layout indent elements (text ++ rest) =
      writeElements layout indent elements text ++ rest := by
  match elements with
  | [] => rfl
  | element :: elements =>
    simp only [writeElements, List.cons_append]
    rw [writeElements_append, write_append, Layout.lineBreak_append]

theorem writeMembers_append (layout : Layout) (indent : Nat) (members : List (String × Json))
    (text rest : List Char) :
    writeMembers layout indent members (text ++ rest) =
      writeMembers layout indent members text ++ rest := by
  match members with
  | [] => rfl
  | (key, value) :: members =>
    simp only [writeMembers, List.cons_append]
    rw [writeMembers_append, write_append, Layout.colon_append, writeString_append,
      Layout.lineBreak_append]

end

end Json
end NodeApi
