import Landmarks.CommandLine.Options
import Landmarks.Number.Integer

/-!
# The words of a command line

* `Word` : a word as some options see it.
* `classify` : the kind of a word. A long option may be shortened as long as it stays the only one,
  and may have its value behind an equals sign; short options may stand together.
* `classifyAll` : the kinds of all words; a word of two dashes ends the options.
* `unbundle` : the options that stand together in one word.
-/

namespace Landmarks.CommandLine

/-- A word: an operand, the divider after which all words are operands, an option under one of its
names with what is attached to it, or an option that is not known. -/
inductive Word
  | operand (text : String)
  | divider
  | option (text : String) (opt : Opt) (name : String) (attached : Option (List Char))
  | unknown (text : String)
  deriving DecidableEq, Repr

/-- The text of a word. -/
def Word.text : Word → String
  | operand text => text
  | divider => "--"
  | option text _ _ _ => text
  | unknown text => text

/-- The spellings of some options, in order. -/
def spellings (opts : List Opt) : Named Opt :=
  opts.flatMap fun o => o.names.map fun n => (n, o)

/-- The option that is spelled so. -/
def spelled? (opts : List Opt) (name : String) : Option Opt :=
  Named.find? (spellings opts) name

/-- A text up to its first equals sign, and what is behind the sign. -/
def splitEquals (cs : List Char) : List Char × Option (List Char) :=
  (cs.takeWhile (· != '='),
    if cs.contains '=' then some ((cs.dropWhile (· != '=')).drop 1) else none)

/-- An option under one of its names, and what is attached to it. -/
abbrev Candidate := Opt × String × Option (List Char)

/-- The options that a word may stand for without being spelled as one of them: those that start with
it, and the short one that its first two characters spell. -/
def candidates (opts : List Opt) : List Char → List Candidate
  | '-' :: '-' :: cs =>
    let (start, attached) := splitEquals ('-' :: '-' :: cs)
    (spellings opts).filterMap fun (n, o) =>
      if start.isPrefixOf n.toList then some (o, n, attached) else none
  | '-' :: c :: cs =>
    (spellings opts).filterMap fun (n, o) =>
      if n.toList == ['-', c] then some (o, n, some cs)
      else if ('-' :: c :: cs).isPrefixOf n.toList then some (o, n, none)
      else none
  | _ => []

/-- Whether all of a text is digits, and there are some. -/
def isNumeral (cs : List Char) : Bool :=
  !cs.isEmpty && cs.all fun c => (Number.decimalValue? c).isSome

/-- Whether a word is a dash with an integer or a decimal fraction behind it. A line feed at its end
does not count. -/
def isNegativeNumber (word : List Char) : Bool :=
  match (if word.getLast? == some '\n' then word.dropLast else word) with
  | '-' :: cs =>
    let whole := cs.takeWhile (· != '.')
    let behind := (cs.dropWhile (· != '.')).drop 1
    isNumeral cs || (cs.contains '.' && (whole.isEmpty || isNumeral whole) && isNumeral behind)
  | _ => false

/-- The kind of a word that starts with a dash and is not spelled as an option. -/
def classifyDashed (opts : List Opt) (word : String) : Except UsageError Word :=
  let cs := word.toList
  let (start, attached) := splitEquals cs
  match attached, spelled? opts (String.ofList start) with
  | some a, some o => .ok (.option word o (String.ofList start) (some a))
  | _, _ =>
    match candidates opts cs with
    | [] =>
      if isNegativeNumber cs || cs.contains ' ' then .ok (.operand word) else .ok (.unknown word)
    | [(o, name, attached)] => .ok (.option word o name attached)
    | several => .error (.ambiguous word (several.map fun c => c.2.1))

/-- The kind of a word. -/
def classify (opts : List Opt) (word : String) : Except UsageError Word :=
  match word.toList with
  | '-' :: _ :: _ =>
    match spelled? opts word with
    | some o => .ok (.option word o word none)
    | none => classifyDashed opts word
  | _ => .ok (.operand word)

/-- The kinds of all words. -/
def classifyAll (opts : List Opt) : List String → Except UsageError (List Word)
  | [] => .ok []
  | word :: words =>
    if word == "--" then .ok (.divider :: words.map .operand)
    else do
      let w ← classify opts word
      return w :: (← classifyAll opts words)

/-- The end of a word of options: an option whose value may follow, or an option with its value. -/
inductive Ending
  | last (opt : Opt) (name : String)
  | valued (opt : Opt) (name : String) (value : String)
  deriving DecidableEq, Repr

/-- The options in a word, given the first of them and what is attached to it: those that have no
value, and the end of the word. What is attached to a short option without value must start with the
letter of another one. -/
def unbundle (opts : List Opt) (o : Opt) (name : String) :
    List Char → Except UsageError (List (Opt × String) × Ending)
  | [] => if o.takesValue then .ok ([], .valued o name "") else .error (.ignoredValue o "")
  | c :: cs =>
    if o.takesValue then .ok ([], .valued o name (String.ofList (c :: cs)))
    else
      let next := String.ofList ['-', c]
      match spelled? opts next with
      | some o' =>
        if ['-', '-'].isPrefixOf name.toList then .error (.ignoredValue o (String.ofList (c :: cs)))
        else
          match cs with
          | [] => .ok ([(o, name)], .last o' next)
          | c' :: cs' => do
            let (flags, ending) ← unbundle opts o' next (c' :: cs')
            return ((o, name) :: flags, ending)
      | none => .error (.ignoredValue o (String.ofList (c :: cs)))

end Landmarks.CommandLine
