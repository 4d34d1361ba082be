import AccessControl.Diagnostic.Basic
import AccessControl.Digits
import AccessControl.Unicode.Lookup

/-!
# Filters of diagnostics

A filter is a text of directives between commas.  A directive names the diagnostics that it is about
and sets their threshold: `debug` is about all of them, `octoacs_core=debug` about the targets that
start so, `octoacs_core[{level}]=debug` about those that also have a field `level`.  Without a
threshold everything is let through.

The most specific directive about a diagnostic decides: the one with the longest target and, for one
target, with the most fields.  Of two directives about the same thing the later counts.  What no
directive is about is not let through.
-/

namespace AccessControl

namespace Diagnostic

/-! ## thresholds -/

/-- the most verbose level that is let through; `none` lets nothing through -/
abbrev Threshold := Option Level

namespace Threshold

def admits (t : Threshold) (l : Level) : Bool := t.any fun most => l.verbosity ≤ most.verbosity

def ofVerbosity? : Nat → Option Threshold
  | 0 => some none
  | 1 => some (some .error)
  | 2 => some (some .warn)
  | 3 => some (some .info)
  | 4 => some (some .debug)
  | 5 => some (some .trace)
  | _ => none

/-- a number, with or without a plus sign -/
def number? (s : String) : Option Nat :=
  let digits := match s.toList with
    | '+' :: ds => ds
    | ds => ds
  if digits.isEmpty || !digits.all Digits.isDigit then none else some (Digits.value digits)

/-- a name in letters of any case -/
def ofName? (s : String) : Option Threshold :=
  match s.map Char.toLower with
  | "off" => some none
  | "error" => some (some .error)
  | "warn" => some (some .warn)
  | "info" => some (some .info)
  | "debug" => some (some .debug)
  | "trace" => some (some .trace)
  | _ => none

/-- a number from 0 to 5 or a name -/
def ofText? (s : String) : Option Threshold := ((number? s).bind ofVerbosity?).orElse fun _ => ofName? s

end Threshold

/-! ## directives -/

structure Directive where
  /-- what the target starts with -/
  target : Option String := none
  /-- it is about diagnostics inside certain spans.  The program opens none, so there are no such
  diagnostics. -/
  inSpan : Bool := false
  /-- names of fields that a diagnostic must have -/
  fields : List String := []
  threshold : Threshold := some .trace
  deriving DecidableEq

/-- why a text is no directive -/
inductive DirectiveError where
  | malformed
  | unknownThreshold
  deriving DecidableEq

def DirectiveError.message : DirectiveError → String
  | .malformed => "invalid filter directive"
  | .unknownThreshold =>
    "error parsing level filter: expected one of \"off\", \"error\", \"warn\", \"info\", " ++
      "\"debug\", \"trace\", or a number 0-5"

namespace Directive

/-- the directive is about a diagnostic with this target and these fields -/
def concerns (d : Directive) (target : String) (fields : List String) : Bool :=
  !d.inSpan && d.target.all (fun start => start.toList.isPrefixOf target.toList)
    && d.fields.all fields.contains

/-- first by the length of the target, then by the number of fields, then by their names -/
def specificity (a b : Directive) : Ordering :=
  let targetSize (d : Directive) : Nat := d.target.elim 0 fun t => t.utf8ByteSize + 1
  (compare (targetSize a) (targetSize b)).then <|
    (compare a.fields.length b.fields.length).then (compare a.fields b.fields)

/-! ## reading a directive -/

def isBlank (c : Char) : Bool := CharSet.spaces.contains c

def trim (cs : List Char) : List Char :=
  ((cs.dropWhile isBlank).reverse.dropWhile isBlank).reverse

def mayStart (c : Char) : Bool :=
  c = '[' || c = '-' || c = ':' || c = '_' || CharSet.alphanumeric.contains c

/-- nothing lets everything through -/
def threshold? (cs : List Char) : Except DirectiveError Threshold :=
  if cs.isEmpty then .ok (some .trace)
  else ((Threshold.ofText? (String.ofList cs)).map .ok).getD (.error .unknownThreshold)

/-- a directive without brackets and without an equals sign: a threshold or else a target -/
def bare (text : String) : Directive :=
  match Threshold.ofText? text with
  | some t => { threshold := t }
  | none => { target := some text }

/-- what stands in brackets, and how many characters it takes with the closing bracket.  It is the
name of a span, or fields in braces, or both. -/
def brackets? (cs shape : List Char) : Except DirectiveError (Directive × Nat) :=
  let span := shape.takeWhile fun c => c ≠ ']' && c ≠ '\x7b'
  match shape.drop span.length with
  | ']' :: _ => .ok ({ inSpan := true }, span.length + 1)
  | '\x7b' :: inside =>
    let field := inside.takeWhile (· ≠ '\x7d')
    match inside.drop field.length with
    | '\x7d' :: ']' :: _ =>
      let name := (cs.drop (span.length + 1)).take field.length
      if field.isEmpty then .error .malformed
      else .ok ({
        inSpan := !span.isEmpty || name.contains '='
        fields := [String.ofList (name.takeWhile (· ≠ '='))] }, span.length + field.length + 3)
    | _ => .error .malformed
  | _ => .error .malformed

/-- reads `target[span{field}]=threshold`, every part optional.  The form of a directive is that of the
text without the blanks around it.  The parts stand at the same offsets of the text itself, so that
blanks at the front belong to the first part. -/
def ofText? (text : String) : Except DirectiveError Directive := do
  let cs := text.toList
  let shape := trim cs
  if !(shape.head?.any mayStart) then throw .malformed
  let head := shape.takeWhile fun c => c ≠ '=' && c ≠ '['
  let target := if head.isEmpty then none else some (String.ofList (cs.take head.length))
  let start := head.length + 1
  match shape.drop head.length with
  | [] => return bare text
  | '=' :: _ => return { target, threshold := ← threshold? (cs.drop start) }
  | _ :: rest =>
    let (d, size) ← brackets? (cs.drop start) rest
    match rest.drop size with
    | [] => return { d with target }
    | '=' :: _ => return { d with target, threshold := ← threshold? (cs.drop (start + size + 1)) }
    | _ => throw .malformed

end Directive

/-! ## filters -/

/-- directives in the order they were given -/
structure Filter where
  directives : List Directive
  deriving DecidableEq

namespace Filter

/-- the texts of the directives; empty ones do not count -/
def texts (text : String) : List String := (text.splitOn ",").filter (· ≠ "")

/-- a filter of these directives; without any, the threshold for everything -/
def ofDirectives (otherwise : Threshold) (ds : List Directive) : Filter :=
  if ds.isEmpty then ⟨[{ threshold := otherwise }]⟩ else ⟨ds⟩

/-- refuses a text with a bad directive; an empty text lets nothing through -/
def ofText? (text : String) : Except DirectiveError Filter := do
  return ofDirectives none (← (texts text).mapM Directive.ofText?)

/-- passes over bad directives; without a good one errors are let through -/
def ofTextLenient (text : String) : Filter :=
  ofDirectives (some .error) ((texts text).filterMap fun t => (Directive.ofText? t).toOption)

/-- of two directives the one that decides -/
def stronger (earlier later : Directive) : Directive :=
  if (Directive.specificity later earlier).isGE then later else earlier

/-- the directive that decides about a diagnostic -/
def deciding? (f : Filter) (target : String) (fields : List String) : Option Directive :=
  match f.directives.filter (·.concerns target fields) with
  | [] => none
  | d :: ds => some (ds.foldl stronger d)

def admits (f : Filter) (level : Level) (target : String) (fields : List String) : Bool :=
  (f.deciding? target fields).any fun d => d.threshold.admits level

/-- the fields of a diagnostic count with its message -/
def admitsDiagnostic (f : Filter) (d : Diagnostic) : Bool :=
  f.admits d.level d.target ("message" :: d.fields.map (·.1))

end Filter
end Diagnostic
end AccessControl
