namespace PaymentBackend.Library

-- A JSON value. A number is kept as its text.
mutual

inductive Json
  | null
  | bool (b : Bool)
  | number (text : String)
  | string (s : String)
  | array (items : JsonItems)
  | object (members : JsonMembers)
  deriving DecidableEq, Repr

inductive JsonItems
  | nil
  | cons (item : Json) (rest : JsonItems)
  deriving DecidableEq, Repr

inductive JsonMembers
  | nil
  | cons (name : String) (value : Json) (rest : JsonMembers)
  deriving DecidableEq, Repr

end

namespace Json

-- \uXXXX of a code unit.
def unicode_escape (n : Nat) : String :=
  "\\u" ++ String.ofList ((List.replicate 4 '0' ++ Nat.toDigits 16 n).reverse.take 4).reverse

-- A character of a string, where all but printable ASCII is escaped.
def escape (c : Char) : String :=
  let n := c.toNat
  if n = 34 then "\\\""
  else if n = 92 then "\\\\"
  else if 32 ≤ n ∧ n ≤ 126 then String.singleton c
  else if n = 10 then "\\n"
  else if n = 13 then "\\r"
  else if n = 9 then "\\t"
  else if n = 12 then "\\f"
  else if n = 8 then "\\b"
  else if n < 65536 then unicode_escape n
  else
    unicode_escape (55296 + (n - 65536) / 1024 % 1024) ++ unicode_escape (56320 + (n - 65536) % 1024)

def quote (s : String) : String := "\"" ++ String.join (s.toList.map escape) ++ "\""

end Json

-- json.dumps with its default separators.
mutual

def Json.dumps : Json → String
  | .null => "null"
  | .bool true => "true"
  | .bool false => "false"
  | .number text => text
  | .string s => Json.quote s
  | .array items => "[" ++ items.dumps ++ "]"
  | .object members => "\x7b" ++ members.dumps ++ "\x7d"

def JsonItems.dumps : JsonItems → String
  | .nil => ""
  | .cons item .nil => item.dumps
  | .cons item rest => item.dumps ++ ", " ++ rest.dumps

def JsonMembers.dumps : JsonMembers → String
  | .nil => ""
  | .cons name value .nil => Json.quote name ++ ": " ++ value.dumps
  | .cons name value rest => Json.quote name ++ ": " ++ value.dumps ++ ", " ++ rest.dumps

end

example : Json.dumps (.object (.cons "a" (.array (.cons .null (.cons (.string "\"\n") .nil))) .nil)) =
    "\x7b\"a\": [null, \"\\\"\\n\"]\x7d" := by decide +kernel

end PaymentBackend.Library
