import RequestDispatch.Journal
import RequestDispatch.Text.Alphanumeric
import RequestDispatch.Text.Cut

/-!
# Filtering Log Lines

Filter directives set the least severe level of log lines, for all of them or for those of a
target. Of the directives whose target a line's target begins with, the longest decides; of
two directives for one target the later counts.
-/

namespace RequestDispatch

open Text

/-- A filter directive. -/
structure LogDirective where
  /-- What the targets of its lines begin with. -/
  target : String
  /-- How verbose lines may be: zero lets none pass, one only errors. -/
  verbosity : Nat
deriving DecidableEq, Repr

namespace LogDirective

/-- The names and numbers of levels, with their verbosity. -/
def verbosity? (word : String) : Option Nat :=
  match String.ofList (word.toList.map Char.toLower) with
  | "off" | "0" => some 0
  | "error" | "1" => some 1
  | "warn" | "2" => some 2
  | "info" | "3" => some 3
  | "debug" | "4" => some 4
  | "trace" | "5" => some 5
  | _ => none

/-- The verbosity that lets every line pass. -/
def everything : Nat := 5

/-- Whether a directive may begin with a character. -/
def mayBegin (c : Char) : Bool := c = '-' || c = ':' || c = '_' || isAlphanumeric c

/-- Read a directive: a level, a target, or a target and a level with an equals sign between
them. A target without a level lets every line of the target pass. -/
def parse? (text : String) : Option LogDirective :=
  match (trim text).toList with
  | [] => none
  | first :: _ =>
    if !mayBegin first then none
    else
      match following? (· = '=') text with
      | none => some ((verbosity? text).elim ⟨text, everything⟩ (⟨"", ·⟩))
      | some level =>
        if text ≠ trim text then none
        else
          let target := upTo (· = '=') text
          if level.isEmpty then some ⟨target, everything⟩ else (verbosity? level).map (⟨target, ·⟩)

end LogDirective

/-- The directives in force. -/
structure LogFilter where
  /-- The directives, the latest first. -/
  directives : List LogDirective
deriving DecidableEq, Repr

namespace LogFilter

/-- Add a directive. -/
def add (filter : LogFilter) (directive : LogDirective) : LogFilter :=
  ⟨directive :: filter.directives⟩

/-- Read directives separated by commas. Without any directive only errors pass. -/
def parse? (text : String) : Option LogFilter := do
  let parts := (splitAt (· = ',') text).filter (!·.isEmpty)
  let directives ← parts.mapM LogDirective.parse?
  return if directives.isEmpty then ⟨[⟨"", 1⟩]⟩ else ⟨directives.reverse⟩

/-- The verbosity of the most verbose lines that any directive lets pass. -/
def greatestVerbosity (filter : LogFilter) : Nat :=
  (filter.directives.map (·.verbosity)).foldl max 0

/-- The better of two directives for one target: the one with the longer target, and of two
with one target the earlier in the list. -/
def better (first second : LogDirective) : LogDirective :=
  if first.target.length < second.target.length then second else first

/-- The directive that decides on lines of a target. -/
def deciding? (filter : LogFilter) (target : String) : Option LogDirective :=
  let matching := filter.directives.filter fun directive =>
    directive.target.toList.isPrefixOf target.toList
  match matching with
  | [] => none
  | first :: rest => some (rest.foldl better first)

/-- Whether a line of some level and target passes. -/
def passes (filter : LogFilter) (level : Level) (target : String) : Bool :=
  match filter.deciding? target with
  | some directive => level.verbosity ≤ directive.verbosity
  | none => false

end LogFilter

end RequestDispatch
