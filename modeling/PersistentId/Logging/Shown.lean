import PersistentId.Decimal.Shortest
import PersistentId.Json.Basic
import PersistentId.Text.Quoted

/-!
# PersistentId.Logging.Shown

Values of a configuration as messages show them.

A decimal is shown by its shortest text, whatever way it was written. A text is quoted
inside another value and wherever it is a name.
-/

namespace PersistentId

namespace Logging

/-- A decimal as messages show it. -/
def shownDecimal (lexeme : String) : String :=
  match lexeme with
  | "NaN" => "nan"
  | "Infinity" => "inf"
  | "-Infinity" => "-inf"
  | _ => String.ofList (Decimal.ofChars lexeme.toList).shortestText

mutual

/-- A value as messages show it inside another one. -/
def quoted : Json → String
  | .text s => Text.quoted s
  | .null => "None"
  | .bool true => "True"
  | .bool false => "False"
  | .number (.integer n) => toString n
  | .number (.decimal lexeme) => shownDecimal lexeme
  | .list elements => "[" ++ ", ".intercalate (quotedElements elements) ++ "]"
  | .object fields => "\x7b" ++ ", ".intercalate (quotedFields fields) ++ "\x7d"

/-- Elements as messages show them. -/
def quotedElements : List Json → List String
  | [] => []
  | x :: xs => quoted x :: quotedElements xs

/-- Fields as messages show them. -/
def quotedFields : List (String × Json) → List String
  | [] => []
  | (name, x) :: fs => (Text.quoted name ++ ": " ++ quoted x) :: quotedFields fs

end

/-- A value as messages show it. -/
def shown : Json → String
  | .text s => s
  | j => quoted j

end Logging

end PersistentId
