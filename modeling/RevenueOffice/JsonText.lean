import RevenueOffice.Text.Quoted

/-!
# JSON text

JSON values and two ways to write them. The compact form puts `, ` between items and `: ` after
keys, on one line, and writes every character outside printable ASCII as an escape. The indented
form puts each item on a line of its own, indented by two spaces a level, and keeps non-ASCII
characters as they are. Both escape the quote, the backslash and control characters, and write
empty arrays and objects as `[]` and `{}`.
-/

set_option autoImplicit false

namespace RevenueOffice

/-- A JSON value; a real number is kept as the text that writes it. -/
inductive JsonValue where
  | null
  | bool (b : Bool)
  | int (n : Int)
  | real (text : String)
  | str (s : String)
  | arr (items : List JsonValue)
  | obj (fields : List (String × JsonValue))

namespace JsonValue

def escapeChar (asciiOnly : Bool) (c : Char) : String :=
  if c = '"' then "\\\"" else if c = '\\' then "\\\\"
  else if c = '\n' then "\\n" else if c = '\r' then "\\r" else if c = '\t' then "\\t"
  else if c = '\x08' then "\\b" else if c = '\x0c' then "\\f"
  else if c.toNat < 0x20 then "\\u" ++ Text.hexPadded 4 c.toNat
  else if asciiOnly && c.toNat ≥ 0x7F then
    if c.toNat < 0x10000 then "\\u" ++ Text.hexPadded 4 c.toNat
    else
      let v := c.toNat - 0x10000
      "\\u" ++ Text.hexPadded 4 (0xD800 + v / 0x400) ++
        "\\u" ++ Text.hexPadded 4 (0xDC00 + v % 0x400)
  else String.singleton c

def quote (asciiOnly : Bool) (s : String) : String :=
  "\"" ++ String.join (s.toList.map (escapeChar asciiOnly)) ++ "\""

def scalar (asciiOnly : Bool) : JsonValue → String
  | .null => "null"
  | .bool b => if b then "true" else "false"
  | .int n => toString n
  | .real t => t
  | .str s => quote asciiOnly s
  | .arr _ => "[]"
  | .obj _ => "\x7b\x7d"

mutual

def compact : JsonValue → String
  | .arr [] => "[]"
  | .arr items => "[" ++ compactItems items ++ "]"
  | .obj [] => "\x7b\x7d"
  | .obj fields => "\x7b" ++ compactFields fields ++ "\x7d"
  | v => scalar true v

def compactItems : List JsonValue → String
  | [] => ""
  | [v] => compact v
  | v :: vs => compact v ++ ", " ++ compactItems vs

def compactFields : List (String × JsonValue) → String
  | [] => ""
  | [(k, v)] => quote true k ++ ": " ++ compact v
  | (k, v) :: fs => quote true k ++ ": " ++ compact v ++ ", " ++ compactFields fs

end

def indent (depth : Nat) : String := String.ofList (List.replicate (2 * depth) ' ')

mutual

/-- The indented text of a value whose first line stands at `depth` levels. -/
def indented (depth : Nat) : JsonValue → String
  | .arr [] => "[]"
  | .arr items => "[\n" ++ indentedItems (depth + 1) items ++ "\n" ++ indent depth ++ "]"
  | .obj [] => "\x7b\x7d"
  | .obj fields => "\x7b\n" ++ indentedFields (depth + 1) fields ++ "\n" ++ indent depth ++ "\x7d"
  | v => scalar false v

def indentedItems (depth : Nat) : List JsonValue → String
  | [] => ""
  | [v] => indent depth ++ indented depth v
  | v :: vs => indent depth ++ indented depth v ++ ",\n" ++ indentedItems depth vs

def indentedFields (depth : Nat) : List (String × JsonValue) → String
  | [] => ""
  | [(k, v)] => indent depth ++ quote false k ++ ": " ++ indented depth v
  | (k, v) :: fs =>
    indent depth ++ quote false k ++ ": " ++ indented depth v ++ ",\n" ++ indentedFields depth fs

end

end JsonValue

end RevenueOffice
