import NodeScaling.Json.Basic
import NodeScaling.Text.Quoted

/-!
The texts of a JSON value: the compact one, without any blank, the indented one, with two spaces
per level, and the one for inspection, which names the kind of each value. Members stand in the
order of the value. Inside strings of the first two only the quote, the backslash and the control
characters below the space are escaped.
-/
namespace NodeScaling.Json

def hexDigit (n : Nat) : Char :=
  Nat.digitChar (n % 16)

def escapeChar (c : Char) : List Char :=
  if c = '"' then ['\\', '"']
  else if c = '\\' then ['\\', '\\']
  else if c = '\x08' then ['\\', 'b']
  else if c = '\x0c' then ['\\', 'f']
  else if c = '\n' then ['\\', 'n']
  else if c = '\r' then ['\\', 'r']
  else if c = '\t' then ['\\', 't']
  else if c.toNat < 0x20 then ['\\', 'u', '0', '0', hexDigit (c.toNat / 16), hexDigit c.toNat]
  else [c]

def stringChars (s : String) : List Char :=
  '"' :: s.toList.flatMap escapeChar ++ ['"']

mutual

def chars : Json → List Char
  | null => ['n', 'u', 'l', 'l']
  | bool true => ['t', 'r', 'u', 'e']
  | bool false => ['f', 'a', 'l', 's', 'e']
  | number n => n.text.toList
  | string s => stringChars s
  | raw written => written.toList
  | array [] => ['[', ']']
  | array (x :: xs) => '[' :: chars x ++ elementsChars xs ++ [']']
  | object [] => ['\x7b', '\x7d']
  | object ((name, x) :: ms) =>
    '\x7b' :: stringChars name ++ ':' :: chars x ++ membersChars ms ++ ['\x7d']

def elementsChars : List Json → List Char
  | [] => []
  | x :: xs => ',' :: chars x ++ elementsChars xs

def membersChars : List (String × Json) → List Char
  | [] => []
  | (name, x) :: ms => ',' :: stringChars name ++ ':' :: chars x ++ membersChars ms

end

def lineBreak (level : Nat) : List Char :=
  '\n' :: List.replicate (2 * level) ' '

mutual

def indentedChars (level : Nat) : Json → List Char
  | null => ['n', 'u', 'l', 'l']
  | bool true => ['t', 'r', 'u', 'e']
  | bool false => ['f', 'a', 'l', 's', 'e']
  | number n => n.text.toList
  | string s => stringChars s
  | raw written => written.toList
  | array [] => ['[', ']']
  | array (x :: xs) =>
    '[' :: lineBreak (level + 1) ++ indentedChars (level + 1) x ++
      indentedElements (level + 1) xs ++ lineBreak level ++ [']']
  | object [] => ['\x7b', '\x7d']
  | object ((name, x) :: ms) =>
    '\x7b' :: lineBreak (level + 1) ++ stringChars name ++ ':' :: ' ' ::
      indentedChars (level + 1) x ++ indentedMembers (level + 1) ms ++ lineBreak level ++ ['\x7d']

def indentedElements (level : Nat) : List Json → List Char
  | [] => []
  | x :: xs => ',' :: lineBreak level ++ indentedChars level x ++ indentedElements level xs

def indentedMembers (level : Nat) : List (String × Json) → List Char
  | [] => []
  | (name, x) :: ms =>
    ',' :: lineBreak level ++ stringChars name ++ ':' :: ' ' :: indentedChars level x ++
      indentedMembers level ms

end

def text (j : Json) : String :=
  String.ofList j.chars

def indentedText (j : Json) : String :=
  String.ofList (j.indentedChars 0)

mutual

def inspected : Json → String
  | null => "Null"
  | bool b => "Bool(" ++ toString b ++ ")"
  | number n => "Number(" ++ n.text ++ ")"
  | string s => "String(" ++ Text.quoted s ++ ")"
  | raw written => written
  | array xs => "Array " ++ Text.inspectedList (inspectedElements xs)
  | object ms => "Object \x7b" ++ ", ".intercalate (inspectedMembers ms) ++ "\x7d"

def inspectedElements : List Json → List String
  | [] => []
  | x :: xs => inspected x :: inspectedElements xs

def inspectedMembers : List (String × Json) → List String
  | [] => []
  | (name, x) :: ms => (Text.quoted name ++ ": " ++ inspected x) :: inspectedMembers ms

end

end NodeScaling.Json
