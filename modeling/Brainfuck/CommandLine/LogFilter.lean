import Brainfuck.Log
import Brainfuck.Text.Blank
import Brainfuck.Text.Regex.Notation
/-!
# Log filters

Which reports a user wants to see. A filter is a list of rules; a rule with a name is for the components
whose names start with it, and the rule with the longest such name decides. A filter may have a pattern
as well, which a shown message has to match.
-/

namespace Brainfuck.CommandLine

/-- How much is shown: reports up to a level, or none. -/
structure Threshold where
  verbosity : Nat
deriving DecidableEq

namespace Threshold

def off : Threshold := ⟨0⟩

def upTo (level : Level) : Threshold := ⟨level.verbosity⟩

def allows (t : Threshold) (level : Level) : Bool := level.verbosity ≤ t.verbosity

/-- The threshold of a name, whatever its case. -/
def ofName? (name : String) : Option Threshold :=
  match name.toLower with
  | "off" => some off
  | "error" => some (upTo .error)
  | "warn" => some (upTo .warn)
  | "info" => some (upTo .info)
  | "debug" => some (upTo .debug)
  | "trace" => some (upTo .trace)
  | _ => none

end Threshold

/-- A rule without a name is for every component. -/
structure LogRule where
  component : String
  threshold : Threshold
deriving DecidableEq

structure LogFilter where
  rules : List LogRule
  pattern : Option Regex

/-- What is wrong with the text of a filter. -/
inductive LogComplaint where
  | unreadable (text : String)
  | tooManyPatterns (text : String)
  | badPattern (text : String) (e : Regex.NotationError)

def LogComplaint.message : LogComplaint → String
  | unreadable text => "warning: invalid logging spec '" ++ text ++ "', ignoring it"
  | tooManyPatterns text => "warning: invalid logging spec '" ++ text ++ "', ignoring it (too many '/'s)"
  | badPattern text e => "warning: invalid regex filter - " ++ e.message text

namespace LogRule

/-- Reads one part of a filter: a level, a component, or a component and a level. Answers the text that
cannot be read otherwise. -/
def ofText (text : String) : Except String LogRule :=
  match text.splitOn "=" with
  | [name] =>
    match Threshold.ofName? name with
    | some threshold => .ok ⟨"", threshold⟩
    | none => .ok ⟨name, .upTo .trace⟩
  | [name, level] =>
    let level := String.ofList (Text.trim level.toList)
    if level.isEmpty then .ok ⟨name, .upTo .trace⟩
    else
      match Threshold.ofName? level with
      | some threshold => .ok ⟨name, threshold⟩
      | none => .error level
  | _ => .error text

def applies (r : LogRule) (component : String) : Bool :=
  r.component.toList.isPrefixOf component.toList

end LogRule

namespace LogFilter

/-- Shows errors only where there is no rule. -/
def ofRules (rules : List LogRule) (pattern : Option Regex) : LogFilter :=
  ⟨if rules.isEmpty then [⟨"", .upTo .error⟩] else rules, pattern⟩

/-- Reads the rules between commas. Answers complaints about those that cannot be read as well. -/
def rulesOfText (text : String) : List LogRule × List LogComplaint :=
  let parts := ((text.splitOn ",").filter (!·.isEmpty)).map LogRule.ofText
  (parts.filterMap (·.toOption),
    parts.filterMap fun part =>
      match part with
      | .ok _ => none
      | .error text => some (.unreadable text))

/-- Reads rules and, behind a slash, a pattern. -/
def ofText (text : String) : LogFilter × List LogComplaint :=
  match text.splitOn "/" with
  | [rules] =>
    let (rules, complaints) := rulesOfText rules
    (.ofRules rules none, complaints)
  | [rules, pattern] =>
    let (rules, complaints) := rulesOfText rules
    match Regex.ofText pattern with
    | .ok r => (.ofRules rules (some r), complaints)
    | .error e => (.ofRules rules none, complaints ++ [.badPattern pattern e])
  | _ => (.ofRules [] none, [.tooManyPatterns text])

/-- The rule that decides about a component: of those with the longest name the last. -/
def decisive? (f : LogFilter) (component : String) : Option LogRule :=
  (f.rules.filter (·.applies component)).foldl
    (fun best rule =>
      match best with
      | none => some rule
      | some other =>
        if other.component.utf8ByteSize ≤ rule.component.utf8ByteSize then some rule else best)
    none

/-- Does a message match the pattern, if there is one? -/
def admits (f : LogFilter) (message : String) : Bool :=
  match f.pattern with
  | none => true
  | some r => r.matchesText message

def allows (f : LogFilter) (e : Event) : Bool :=
  match f.decisive? e.component with
  | none => false
  | some rule => rule.threshold.allows e.level && f.admits e.message

/-- The filter where none is given, by the number of times more reports are asked for. -/
def ofVerbosity : Nat → LogFilter
  | 0 => ⟨[⟨"bfcc", .upTo .warn⟩], none⟩
  | 1 => ⟨[⟨"bfcc", .upTo .info⟩], none⟩
  | 2 => ⟨[⟨"bfcc", .upTo .debug⟩], none⟩
  | _ => ⟨[⟨"bfcc", .upTo .trace⟩], none⟩

end LogFilter

/-- The text that shows a report. -/
def eventText (e : Event) : String :=
  let level := e.level.name
  let padded := level ++ String.ofList (List.replicate (5 - level.length) ' ')
  "[" ++ padded ++ " " ++ e.component ++ "] " ++ e.message

end Brainfuck.CommandLine
