import GroupAccess.Decimal.Reading
import GroupAccess.Json.Value
import GroupAccess.Text.Basic
import GroupAccess.Text.Lowercase

namespace GroupAccess

inductive LogLevel
  | error
  | warn
  | info
  | debug
  | trace
  deriving DecidableEq, Repr

namespace LogLevel

def all : List LogLevel := [error, warn, info, debug, trace]

def name : LogLevel → String
  | error => "ERROR"
  | warn => "WARN"
  | info => "INFO"
  | debug => "DEBUG"
  | trace => "TRACE"

/-- How verbose a filter has to be to let a line through. -/
def rank : LogLevel → Nat
  | error => 1
  | warn => 2
  | info => 3
  | debug => 4
  | trace => 5

end LogLevel

structure LogLine where
  level : LogLevel
  target : String
  message : String
  fields : List (String × String) := []
  deriving DecidableEq, Repr

def LogLine.toJson (l : LogLine) : Json :=
  .object (("level", .string l.level.name) :: ("message", .string l.message) ::
    l.fields.map fun (name, value) => (name, .string value))

/-- The name of a field that a line has. -/
def LogLine.has (l : LogLine) (field : String) : Bool :=
  field == "message" || l.fields.any fun f => f.1 == field

/-- Lets lines of some targets through up to a verbosity. -/
structure Directive where
  /-- The beginning of the targets; none for all of them. -/
  target : Option (List Char)
  verbosity : Nat
  /-- A field that a line must have. -/
  field : Option String := none
  /-- It is for lines inside a span only. -/
  inSpan : Bool := false
  deriving DecidableEq, Repr

namespace Directive

def maxVerbosity : Nat := 5

/-- A number up to five or the name of a level, in either case. -/
def verbosity? (text : List Char) : Option Nat :=
  match Decimal.readWhole (.unsigned 64) (String.ofList text) with
  | .ok n => if n.toNat ≤ maxVerbosity then some n.toNat else none
  | .error _ =>
    let word := text.map Char.toLower
    if word = ['o', 'f', 'f'] then some 0
    else
      (LogLevel.all.find? fun l => l.name.toList.map Char.toLower == word).map LogLevel.rank

/-- The verbosity after an equals sign; all if nothing is there. -/
def given? (text : List Char) : Option Nat :=
  if text.isEmpty then some maxVerbosity else verbosity? text

def mayBegin (c : Char) : Bool := c.isAlphanum || c == '-' || c == ':' || c == '_'

/-- What follows a closing bracket: nothing, or an equals sign and a verbosity. -/
def afterBracket? (rest : List Char) : Option Nat :=
  match rest with
  | [] => some maxVerbosity
  | '=' :: text => given? text
  | _ => none

/-- The name of a span, a field in braces, and the closing bracket. A field without a span and
without a value is one that lines have; all else is about spans. -/
def ofSpan? (target : Option (List Char)) (rest : List Char) : Option Directive := do
  let span := rest.takeWhile fun c => c != ']' && c != '\x7b'
  match rest.drop span.length with
  | ']' :: rest => return { target, verbosity := ← afterBracket? rest, inSpan := true }
  | '\x7b' :: rest =>
    match ← Text.cut? '\x7d' rest with
    | (field, ']' :: rest) =>
      guard !field.isEmpty
      let verbosity ← afterBracket? rest
      if span.isEmpty && !field.contains '=' then
        return { target, verbosity, field := some (String.ofList field) }
      else return { target, verbosity, inSpan := true }
    | _ => none
  | _ => none

/-- A level, a target, or a target with a level. Blanks around it are no part of its beginning,
but count as characters of its words. -/
def ofText? (text : List Char) : Option Directive :=
  let trimmed := Text.trimChars text
  let word := trimmed.takeWhile fun c => c != '=' && c != '['
  match trimmed, trimmed.drop word.length with
  | [], _ => none
  | '[' :: rest, _ => ofSpan? none rest
  | c :: _, rest =>
    if !mayBegin c then none
    else
      match rest with
      | [] =>
        match verbosity? text with
        | some verbosity => some { target := none, verbosity }
        | none => some { target := some text, verbosity := maxVerbosity }
      | '=' :: _ =>
        let (target, level) := (text.take word.length, text.drop (word.length + 1))
        (given? level).map fun verbosity => { target := some target, verbosity }
      | _ :: rest => ofSpan? (some word) rest

/-- Whether a directive is for a line that stands outside of spans. -/
def covers (d : Directive) (l : LogLine) : Bool :=
  !d.inSpan && d.target.all (fun beginning => beginning.isPrefixOf l.target.toList) &&
    d.field.all l.has

/-- A longer target is more specific, any target more than none, and then a field more than
none. -/
def weight (d : Directive) : Nat :=
  let target := match d.target with
    | some target => target.length + 1
    | none => 0
  2 * target + if d.field.isSome then 1 else 0

end Directive

/-- Each directive is for the targets that begin with its own; the most specific one that fits a
line decides. -/
abbrev LogFilter := List Directive

namespace LogFilter

def errorsOnly : LogFilter := [{ target := none, verbosity := LogLevel.error.rank }]

def parts (text : String) : List (List Char) :=
  (Text.split ',' text.toList).filter (!·.isEmpty)

def orErrors (ds : List Directive) : LogFilter := if ds.isEmpty then errorsOnly else ds

/-- None if a directive is malformed. -/
def ofText? (text : String) : Option LogFilter :=
  ((parts text).mapM Directive.ofText?).map orErrors

/-- Malformed directives are left out. -/
def ofTextLossy (text : String) : LogFilter :=
  orErrors ((parts text).filterMap Directive.ofText?)

/-- Of equally specific directives the last one counts. -/
def mostSpecific? (l : LogLine) (f : LogFilter) : Option Directive :=
  f.foldl (fun best d =>
    if d.covers l && best.all fun b => b.weight ≤ d.weight then some d else best) none

def lets (f : LogFilter) (l : LogLine) : Bool :=
  (f.mostSpecific? l).any fun d => l.level.rank ≤ d.verbosity

end LogFilter

end GroupAccess
