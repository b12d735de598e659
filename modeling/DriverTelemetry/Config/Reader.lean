import DriverTelemetry.Config.Setting

/-!
# Reading configuration text

The text has one `key = value` assignment a line, under section headers in brackets. A `#` starts a
comment; blank lines mean nothing. Reading starts from the default configuration, applies the lines
in order and validates the result.
-/

namespace DriverTelemetry

namespace Config

/-- What a line of configuration text says. -/
inductive Line where
  | blank
  | header (name : List Char)
  | assignment (key value : List Char)
  | malformed
  deriving DecidableEq

namespace Line

/-- The text in front of the first `c` and the text after it, if there is a `c`. -/
def splitAt? (c : Char) : List Char → Option (List Char × List Char)
  | [] => none
  | d :: rest =>
    if d = c then some ([], rest)
    else (splitAt? c rest).map fun (before, after) => (d :: before, after)

/-- The text between square brackets, if the line is nothing but that. -/
def bracketed? (cs : List Char) : Option (List Char) :=
  match cs with
  | '[' :: rest => if rest.getLast? = some ']' then some rest.dropLast else none
  | _ => none

/-- Reads one line: the comment is dropped and blanks around the parts are trimmed. -/
def read (raw : List Char) : Line :=
  let line := Text.trim (raw.takeWhile (· != '#'))
  if line.isEmpty then blank
  else
    match bracketed? line with
    | some name => header (Text.trim name)
    | none =>
      match splitAt? '=' line with
      | some (key, value) => assignment (Text.trim key) (Text.trim value)
      | none => malformed

end Line

/-- A configuration in the course of being read, with the section that later lines belong to. -/
structure Draft where
  config : Config := {}
  sectionName : List Char := []

def Draft.apply (d : Draft) : Line → Except ConfigError Draft
  | .blank => .ok d
  | .header name => .ok { d with sectionName := name }
  | .assignment key value =>
    match Setting.find? d.sectionName key with
    | none => .error .unknownKey
    | some setting =>
      match setting.assign? value d.config with
      | none => .error .malformed
      | some config => .ok { d with config }
  | .malformed => .error .malformed

/-- The lines of a text. A carriage return before a line feed stays on its line, where it is a
blank. -/
def lines (text : List Char) : List Line := (text.splitOn '\n').map Line.read

/-- Reads configuration text; the result is a valid configuration or the first error. -/
def read (text : String) : Except ConfigError Config := do
  let draft ← (lines text.toList).foldlM Draft.apply {}
  draft.config.validate
  return draft.config

end Config

end DriverTelemetry
