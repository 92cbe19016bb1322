/-!
Documents of nested objects and lists, printed with one member a line and two blanks of indentation
a level.
-/

namespace ImageFs.Text

inductive Json where
  | number (value : Nat)
  | text (value : String)
  | list (items : List Json)
  | object (members : List (String × Json))

namespace Json

def escapedChar (char : Char) : String :=
  if char = '"' then "\\\""
  else if char = '\\' then "\\\\"
  else if char = '\n' then "\\n"
  else if char = '\r' then "\\r"
  else if char = '\t' then "\\t"
  else if char.toNat = 8 then "\\b"
  else if char.toNat = 12 then "\\f"
  else if char.toNat < 32 then
    "\\u00" ++ (if char.toNat < 16 then "0" else "1") ++
      String.ofList (Nat.toDigits 16 (char.toNat % 16))
  else String.singleton char

def string (text : String) : String :=
  "\"" ++ String.join (text.toList.map escapedChar) ++ "\""

def indent (depth : Nat) : String :=
  String.ofList (List.replicate (2 * depth) ' ')

/-- Encloses printed members, one a line; without members the brackets touch. -/
def enclose (opening closing : String) (depth : Nat) (members : List String) : String :=
  if members.isEmpty then opening ++ closing
  else
    opening ++ "\n" ++
      String.intercalate ",\n" (members.map (indent (depth + 1) ++ ·)) ++
      "\n" ++ indent depth ++ closing

mutual

def render (depth : Nat) : Json → String
  | number value => toString value
  | text value => string value
  | list items => enclose "[" "]" depth (renderItems (depth + 1) items)
  | object members => enclose "\x7b" "\x7d" depth (renderMembers (depth + 1) members)

def renderItems (depth : Nat) : List Json → List String
  | [] => []
  | item :: rest => render depth item :: renderItems depth rest

def renderMembers (depth : Nat) : List (String × Json) → List String
  | [] => []
  | (name, value) :: rest =>
      (string name ++ ": " ++ render depth value) :: renderMembers depth rest

end

def print (document : Json) : String :=
  render 0 document

end Json

end ImageFs.Text
