import Landmarks.Yaml.Timestamp

/-!
# Tags

* `Tag` : the types that a node can have.
* `Tag.ofText` : the type that a full tag names.
* `Tag.ofPlain` : the type of a scalar without a tag and without quotes, by its form.
-/

namespace Landmarks.Yaml

/-- The type of a node. -/
inductive Tag
  | null
  | bool
  | int
  | float
  | binary
  | timestamp
  | omap
  | pairs
  | set
  | str
  | seq
  | map
  | merge
  | value
  | other
  deriving DecidableEq, Repr

namespace Tag

open Number (isDigit)

/-- The stem of all tags of the standard types. -/
def stem : String := "tag:yaml.org,2002:"

/-- The standard types by name. -/
def standard : List (String × Tag) :=
  [("null", null), ("bool", bool), ("int", int), ("float", float), ("binary", binary),
    ("timestamp", timestamp), ("omap", omap), ("pairs", pairs), ("set", set), ("str", str),
    ("seq", seq), ("map", map), ("merge", merge), ("value", value)]

/-- The type that a full tag names. -/
def ofText (cs : List Char) : Tag :=
  match standard.find? fun e => (stem ++ e.1).toList == cs with
  | some (_, t) => t
  | none => other

/-- The words for truth values. -/
def boolWords : List String :=
  ["yes", "Yes", "YES", "no", "No", "NO", "true", "True", "TRUE", "false", "False", "FALSE", "on", "On",
    "ON", "off", "Off", "OFF"]

/-- The words for nothing. -/
def nullWords : List String := ["", "~", "null", "Null", "NULL"]

/-- A digit or an underscore. -/
def isDigitOrBar (c : Char) : Bool := isDigit c || c == '_'

/-- Without a leading sign. -/
def dropSign : List Char → List Char
  | '-' :: cs => cs
  | '+' :: cs => cs
  | cs => cs

/-- The rest behind a digit and the digits and underscores that follow it. -/
def afterDigits? : List Char → Option (List Char)
  | c :: cs => if isDigit c then some (cs.dropWhile isDigitOrBar) else none
  | [] => none

/-- Whether the text is an exponent with its sign, or empty. -/
def isExponent : List Char → Bool
  | [] => true
  | e :: s :: ds =>
    (e == 'e' || e == 'E') && (s == '-' || s == '+') && !ds.isEmpty && ds.all isDigit
  | _ => false

/-- The rest behind one or more groups of a colon and a number below sixty. -/
def afterSixties? : (fuel : Nat) → List Char → Option (List Char)
  | 0, _ => none
  | fuel + 1, cs =>
    match cs with
    | ':' :: rest =>
      let ds := rest.takeWhile isDigit
      let rest := rest.dropWhile isDigit
      let fits :=
        match ds with
        | [_] => true
        | [d, _] => d ≤ '5'
        | _ => false
      if fits then
        match rest with
        | ':' :: _ => afterSixties? fuel rest
        | _ => some rest
      else none
    | _ => none

/-- Whether a text is a point and digits, with an exponent if that is allowed. -/
def isFraction (exponent : Bool) : List Char → Bool
  | '.' :: cs =>
    let rest := cs.dropWhile isDigitOrBar
    if exponent then isExponent rest else rest.isEmpty
  | _ => false

/-- Whether an untagged scalar is a floating-point number. -/
def isFloat (cs : List Char) : Bool :=
  let body := dropSign cs
  let withPoint :=
    match afterDigits? body with
    | some rest =>
      isFraction true rest ||
        (match afterSixties? (rest.length + 1) rest with
          | some rest => isFraction false rest
          | none => false)
    | none => false
  let pointFirst :=
    match cs with
    | '.' :: rest =>
      match afterDigits? rest with
      | some rest => isExponent rest
      | none => false
    | _ => false
  withPoint || pointFirst || [".inf", ".Inf", ".INF"].any (·.toList == body) ||
    [".nan", ".NaN", ".NAN"].any (·.toList == cs)

/-- Whether a text is made of the given characters and not empty. -/
def isRun (p : Char → Bool) (cs : List Char) : Bool := !cs.isEmpty && cs.all p

/-- Whether an untagged scalar is an integer: binary, octal, decimal, hexadecimal or in base sixty. -/
def isInt (cs : List Char) : Bool :=
  match dropSign cs with
  | ['0'] => true
  | '0' :: 'b' :: ds => isRun (fun c => c == '0' || c == '1' || c == '_') ds
  | '0' :: 'x' :: ds =>
    isRun (fun c => isDigitOrBar c || ('a' ≤ c && c ≤ 'f') || ('A' ≤ c && c ≤ 'F')) ds
  | '0' :: ds => isRun (fun c => ('0' ≤ c && c ≤ '7') || c == '_') ds
  | ds =>
    match afterDigits? ds with
    | some [] => true
    | some rest => afterSixties? (rest.length + 1) rest == some []
    | none => false

/-- The indicators that denote nothing by themselves. -/
def indicators : List String := ["!", "&", "*"]

/-- The type of an untagged scalar without quotes. A line feed at its end does not count, unless
there is nothing before it. -/
def ofPlain (text : List Char) : Tag :=
  let cs := dropFinalFeed text
  if text == ['\n'] then str
  else if boolWords.any (·.toList == cs) then bool
  else if isFloat cs then float
  else if isInt cs then int
  else if cs == ['<', '<'] then merge
  else if nullWords.any (·.toList == cs) then null
  else if Stamp.isPlain text then timestamp
  else if cs == ['='] then value
  else if indicators.any (·.toList == cs) then other
  else str

/-- Whether the values of a type are collections. -/
def isCollection : Tag → Bool
  | omap | pairs | set | seq | map => true
  | _ => false

end Tag

end Landmarks.Yaml
