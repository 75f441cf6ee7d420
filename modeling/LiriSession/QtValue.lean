import Mathlib.Data.List.Basic

/-! The Qt values that the program reads out of plugin metadata and command
line options: trimmed strings, variants and their conversions. -/
namespace LiriSession

/-- White space as `QChar::isSpace` classifies it. -/
def isSpace (char : Char) : Bool :=
  let code := char.toNat
  code == 0x20 || (0x09 ≤ code && code ≤ 0x0d) || code == 0x85 || code == 0xa0 ||
    code == 0x1680 || (0x2000 ≤ code && code ≤ 0x200a) || code == 0x2028 || code == 0x2029 ||
    code == 0x202f || code == 0x205f || code == 0x3000

/-- `QString::trimmed`. -/
def trimmed (text : String) : String :=
  String.ofList ((text.toList.dropWhile isSpace).reverse.dropWhile isSpace).reverse

/-- A variant read from JSON. A number is kept as its conversions see it. -/
inductive QVariant
  | invalid
  | bool (value : Bool)
  | number (text : String) (isZero : Bool)
  | string (text : String)
  | list (items : List QVariant)
  | map (entries : List (String × QVariant))

abbrev QVariantMap := List (String × QVariant)

namespace QVariant

def toBool : QVariant → Bool
  | .bool value => value
  | .number _ isZero => !isZero
  | .string text => !(text.toLower == "" || text.toLower == "0" || text.toLower == "false")
  | _ => false

def toString : QVariant → String
  | .bool value => if value then "true" else "false"
  | .number text _ => text
  | .string text => text
  | _ => ""

def toMap : QVariant → QVariantMap
  | .map entries => entries
  | _ => []

def isString (variant : QVariant) (expected : String) : Bool :=
  match variant with
  | .string text => text == expected
  | _ => false

end QVariant

namespace QVariantMap

def contains (map : QVariantMap) (key : String) : Bool := (map.lookup key).isSome

def value (map : QVariantMap) (key : String) (default : QVariant) : QVariant :=
  (map.lookup key).getD default

end QVariantMap

end LiriSession
