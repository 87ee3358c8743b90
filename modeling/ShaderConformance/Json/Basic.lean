/-!
# JSON values

Results and records are given as JSON.  A value is printed on one line, or indented
by two blanks for each level.
-/

namespace ShaderConformance

/-- A JSON value; all numbers are integers. -/
inductive Json where
  | null
  | bool (b : Bool)
  | num (n : Int)
  | str (s : String)
  | list (items : List Json)
  | object (fields : List (String × Json))

namespace Json

/-- The escape of a control character, or of one that ends or escapes a string. -/
def escape? (c : Char) : Option String :=
  match c with
  | '"' => some "\\\""
  | '\\' => some "\\\\"
  | '\n' => some "\\n"
  | '\r' => some "\\r"
  | '\t' => some "\\t"
  | '\x08' => some "\\b"
  | '\x0c' => some "\\f"
  | c =>
    if c.toNat < 32 then
      let digits := Nat.toDigits 16 c.toNat
      some ("\\u" ++ String.ofList (List.replicate (4 - digits.length) '0' ++ digits))
    else none

/-- A character of a string, escaped where needed. -/
def pushEscaped (out : String) (c : Char) : String :=
  match escape? c with
  | some escape => out ++ escape
  | none => out.push c

/-- Appends a string between quotation marks. -/
def pushQuoted (out s : String) : String := (s.foldl pushEscaped (out.push '"')).push '"'

mutual

/-- Appends a value on one line. -/
def push (out : String) : Json → String
  | null => out ++ "null"
  | bool b => out ++ (if b then "true" else "false")
  | num n => out ++ toString n
  | str s => pushQuoted out s
  | list [] => out ++ "[]"
  | list (item :: items) => (pushItems (push (out.push '[') item) items).push ']'
  | object [] => out ++ "\x7b\x7d"
  | object ((name, value) :: fields) =>
    (pushFields (push ((pushQuoted (out ++ "\x7b") name).push ':') value) fields) ++ "\x7d"

def pushItems (out : String) : List Json → String
  | [] => out
  | item :: items => pushItems (push (out.push ',') item) items

def pushFields (out : String) : List (String × Json) → String
  | [] => out
  | (name, value) :: fields =>
    pushFields (push ((pushQuoted (out.push ',') name).push ':') value) fields

end

/-- A value on one line. -/
def compact (j : Json) : String := push "" j

/-- Starts a line at a depth. -/
def pushLine (out : String) (depth : Nat) : String :=
  (List.replicate depth "  ").foldl (· ++ ·) (out.push '\n')

mutual

/-- Appends a value with its parts on lines of their own. -/
def pushIndented (out : String) (depth : Nat) : Json → String
  | list (item :: items) =>
    let out := pushIndented (pushLine (out.push '[') (depth + 1)) (depth + 1) item
    (pushLine (pushIndentedItems out (depth + 1) items) depth).push ']'
  | object ((name, value) :: fields) =>
    let out := pushQuoted (pushLine (out ++ "\x7b") (depth + 1)) name
    let out := pushIndented (out ++ ": ") (depth + 1) value
    pushLine (pushIndentedFields out (depth + 1) fields) depth ++ "\x7d"
  | null => push out null
  | bool b => push out (bool b)
  | num n => push out (num n)
  | str s => push out (str s)
  | list [] => push out (list [])
  | object [] => push out (object [])

def pushIndentedItems (out : String) (depth : Nat) : List Json → String
  | [] => out
  | item :: items =>
    pushIndentedItems (pushIndented (pushLine (out.push ',') depth) depth item) depth items

def pushIndentedFields (out : String) (depth : Nat) : List (String × Json) → String
  | [] => out
  | (name, value) :: fields =>
    let out := pushQuoted (pushLine (out.push ',') depth) name
    pushIndentedFields (pushIndented (out ++ ": ") depth value) depth fields

end

/-- A value with its parts on lines of their own. -/
def indented (j : Json) : String := pushIndented "" 0 j

/-! ## Values of other types -/

def ofNat (n : Nat) : Json := num n

def ofWord (n : UInt32) : Json := num n.toNat

/-- A list of values of one type. -/
def ofList {T : Type} (f : T → Json) (values : List T) : Json := list (values.map f)

/-- A value that may be missing. -/
def ofOption {T : Type} (f : T → Json) : Option T → Json
  | some value => f value
  | none => null

end Json

end ShaderConformance
