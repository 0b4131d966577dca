import MarketData.Binary64.Text
import MarketData.Json.Text

/-! The two written forms of a document: compact on one line, and pretty with one element a line and
two blanks an indentation. -/

namespace MarketData.Json

namespace Number

/-- Powers of ten from -5 to 15 are written positionally. -/
def doubleText : Binary64 → String
  | .finite negative m e =>
    let magnitude :=
      if m = 0 then "0.0"
      else
        let d := Binary64.shortest .toEven m e
        if -5 ≤ d.leadingPower ∧ d.leadingPower ≤ 15 then d.positional true else d.scientific
    if negative then "-" ++ magnitude else magnitude
  | _ => "null"

def text : Number → String
  | .integer n => toString n
  | .double x => doubleText x

end Number

inductive Format
  | pretty
  | compact
deriving DecidableEq, Repr

/-- Separators of one nesting level: after an opening bracket, after a comma, before a closing
bracket, and after the colon of a member. -/
structure Layout where
  opening : List Char
  comma : List Char
  closing : List Char
  colon : List Char

def Format.layout (level : Nat) : Format → Layout
  | .compact => ⟨[], [','], [], [':']⟩
  | .pretty =>
    let line (n : Nat) : List Char := '\n' :: List.replicate (2 * n) ' '
    ⟨line (level + 1), ',' :: line (level + 1), line level, [':', ' ']⟩

namespace Value

mutual

def write (format : Format) (level : Nat) : Value → List Char
  | .null => "null".toList
  | .boolean true => "true".toList
  | .boolean false => "false".toList
  | .number n => n.text.toList
  | .text s => Text.encode s
  | .array [] => ['[', ']']
  | .array (item :: items) =>
    let layout := format.layout level
    '[' :: layout.opening ++ write format (level + 1) item ++
      writeItems format level items ++ layout.closing ++ [']']
  | .object [] => ['{', '}']
  | .object ((key, value) :: members) =>
    let layout := format.layout level
    '{' :: layout.opening ++ Text.encode key ++ layout.colon ++
      write format (level + 1) value ++ writeMembers format level members ++
      layout.closing ++ ['}']

def writeItems (format : Format) (level : Nat) : List Value → List Char
  | [] => []
  | item :: items =>
    (format.layout level).comma ++ write format (level + 1) item ++ writeItems format level items

def writeMembers (format : Format) (level : Nat) : List (String × Value) → List Char
  | [] => []
  | (key, value) :: members =>
    let layout := format.layout level
    layout.comma ++ Text.encode key ++ layout.colon ++ write format (level + 1) value ++
      writeMembers format level members

end

/-- The document on one line. -/
def compact (v : Value) : String := String.ofList (v.write .compact 0)

/-- The document with a newline after it. -/
def document (format : Format) (v : Value) : String :=
  String.ofList (v.write format 0) ++ "\n"

end Value

end MarketData.Json
