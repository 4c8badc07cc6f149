/-!
# Documents

A document is a number, a text, or an object whose fields keep their order.  Its
written form is JSON on one line, with a blank after each comma and colon.
Inside a text only the quote, the backslash and the characters below U+0020 are
written by escapes.
-/

namespace Descent

/-- Data with named fields in order. -/
inductive Document where
  | number (value : Int)
  | text (value : String)
  | object (fields : List (String × Document))

namespace Document

/-! ## Texts -/

/-- The written form of a character inside quotes. -/
def escapeChar (c : Char) : List Char :=
  if c = '"' ∨ c = '\\' then ['\\', c]
  else if c = '\n' then ['\\', 'n']
  else if c = '\r' then ['\\', 'r']
  else if c = '\t' then ['\\', 't']
  else if c = '\x08' then ['\\', 'b']
  else if c = '\x0c' then ['\\', 'f']
  else if c.toNat < 32 then
    ['\\', 'u', '0', '0', (c.toNat / 16).digitChar, (c.toNat % 16).digitChar]
  else [c]

/-- The written form of a text. -/
def renderText (text : String) : List Char := '"' :: text.toList.flatMap escapeChar ++ ['"']

/-! ## Documents -/

mutual

/-- The written form of a document. -/
def render : Document → List Char
  | number value => (toString value).toList
  | text value => renderText value
  | object fields => '\x7b' :: renderFields fields ++ ['\x7d']

/-- The written form of the fields of an object, a comma between them. -/
def renderFields : List (String × Document) → List Char
  | [] => []
  | [field] => renderField field
  | field :: next :: fields => renderField field ++ ',' :: ' ' :: renderFields (next :: fields)

/-- The written form of a field. -/
def renderField : String × Document → List Char
  | (name, value) => renderText name ++ ':' :: ' ' :: render value

end

end Document

end Descent
