import FieldSearch.Json.Basic

/-!
# Writing JSON

Trees are written without blanks. In strings the quote, the backslash and the control characters
are escaped, nothing else.
-/

namespace FieldSearch

namespace Json

/-- One character inside a string. -/
def escape (c : Char) : List Char :=
  match c with
  | '"' => ['\\', '"']
  | '\\' => ['\\', '\\']
  | '\x08' => ['\\', 'b']
  | '\x0c' => ['\\', 'f']
  | '\n' => ['\\', 'n']
  | '\r' => ['\\', 'r']
  | '\t' => ['\\', 't']
  | c =>
    if c.toNat < 32 then
      ['\\', 'u', '0', '0', Nat.digitChar (c.toNat / 16), Nat.digitChar (c.toNat % 16)]
    else [c]

/-- A string token. Half a surrogate pair is written as an escape. -/
def renderText : JsonText → List Char
  | some s => '"' :: s.toList.flatMap escape ++ ['"']
  | none => "\"\\ud800\"".toList

mutual

/-- The text of a tree. -/
def render : Json → List Char
  | .null => "null".toList
  | .bool true => "true".toList
  | .bool false => "false".toList
  | .number n => n.render
  | .string s => renderText s
  | .array [] => ['[', ']']
  | .array (j :: js) => '[' :: (render j ++ renderItems js)
  | .object [] => ['\x7b', '\x7d']
  | .object ((k, j) :: ms) => '\x7b' :: (renderText k ++ ':' :: (render j ++ renderMembers ms))
  | .nameless j => '\x7b' :: ':' :: (render j ++ ['\x7d'])

/-- The items behind the first one, and the closing bracket. -/
def renderItems : List Json → List Char
  | [] => [']']
  | j :: js => ',' :: (render j ++ renderItems js)

/-- The members behind the first one, and the closing brace. -/
def renderMembers : List (JsonText × Json) → List Char
  | [] => ['\x7d']
  | (k, j) :: ms => ',' :: (renderText k ++ ':' :: (render j ++ renderMembers ms))

end

/-- The text of a tree as a string. -/
def text (j : Json) : String := String.ofList j.render

end Json

end FieldSearch
