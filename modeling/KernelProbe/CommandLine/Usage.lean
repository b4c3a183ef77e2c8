import KernelProbe.CommandLine.Palette
import KernelProbe.Text.Similarity
import KernelProbe.Text.Split

/-!
# Usage

Why a command line leaves nothing to run: something is wrong with it, or it asks about the program.
`Usage.report` says what is wrong, what may have been meant instead, and how to use what was named.
-/

namespace KernelProbe.CommandLine

/-- Why there is nothing to run. -/
inductive Usage where
  /-- An argument that means nothing; `given` was accepted before it. -/
  | unknownArgument (argument : String) (similar : Option Switch) (given : List Switch)
  /-- A value of an option that has few is none of them, or a value is missing and so empty. -/
  | invalidValue (option : Setting) (value : String)
  /-- A value is no number, for a reason. -/
  | valueValidation (option : Setting) (value reason : String)
  /-- An option that may stand once stands twice. -/
  | argumentConflict (option : Setting)
  /-- Something that takes no value has one; `given` was accepted before it. -/
  | tooManyValues (switch : Switch) (value : String) (given : List Switch)
  /-- The help is asked for. -/
  | displayHelp
  /-- The version is asked for. -/
  | displayVersion
deriving DecidableEq, Repr

/-- A hint at a name that is like the one that was given. -/
def tip (kind name : String) : String :=
  "  " ++ Palette.right.enclose "tip:" ++ " a similar " ++ kind ++ " exists: '"
    ++ Palette.right.enclose name ++ "'"

/-- One of the options, whichever it is. -/
def anySetting : String :=
  "<" ++ Text.join "|" (Setting.all.map fun s => (Switch.setting s).text) ++ ">"

namespace Usage

/-- The name of what is wrong or asked for. -/
def name : Usage → String
  | unknownArgument .. => "UnknownArgument"
  | invalidValue .. => "InvalidValue"
  | valueValidation .. => "ValueValidation"
  | argumentConflict _ => "ArgumentConflict"
  | tooManyValues .. => "TooManyValues"
  | displayHelp => "DisplayHelp"
  | displayVersion => "DisplayVersion"

/-- What is wrong or asked for, in words. -/
def message : Usage → String
  | unknownArgument argument _ _ =>
    "unexpected argument '" ++ Palette.wrong.enclose argument ++ "' found"
  | invalidValue option value =>
    let text := (Switch.setting option).text
    if value.isEmpty then
      "a value is required for '" ++ Palette.wrong.enclose text ++ "' but none was supplied"
    else
      "invalid value '" ++ Palette.wrong.enclose value ++ "' for '"
        ++ Palette.literal.enclose text ++ "'"
  | valueValidation option value reason =>
    "invalid value '" ++ Palette.wrong.enclose value ++ "' for '"
      ++ Palette.literal.enclose (Switch.setting option).text ++ "': " ++ reason
  | argumentConflict option =>
    "the argument '" ++ Palette.wrong.enclose (Switch.setting option).text
      ++ "' cannot be used multiple times"
  | tooManyValues switch value _ =>
    "unexpected value '" ++ Palette.wrong.enclose value ++ "' for '"
      ++ Palette.literal.enclose switch.text ++ "' found; no more were expected"
  | displayHelp => "the help is asked for"
  | displayVersion => "the version is asked for"

/-- The values that an option has, if that is what the command line missed. -/
def choices? : Usage → Option String
  | invalidValue option _ =>
    if option.choices.isEmpty then none
    else
      let choices := option.choices.map Palette.right.enclose
      some ("  [possible values: " ++ Text.join ", " choices ++ "]")
  | _ => none

/-- What may have been meant instead. -/
def tip? : Usage → Option String
  | unknownArgument _ similar _ => similar.map fun s => tip "argument" ("--" ++ s.longName)
  | invalidValue option value => (Text.mostSimilar? id value option.choices).map (tip "value")
  | _ => none

/-- How the program is used, with what was given and what may have been meant. A value too many is
named alone, or together with the options in general once one has been accepted. -/
def usage? : Usage → Option String
  | unknownArgument _ similar given =>
    some (usageLine ((given ++ similar.toList).eraseDups.map styledName))
  | argumentConflict _ => some (usageLine [])
  | tooManyValues switch _ given =>
    let isSetting := match switch with
      | .setting _ => true
      | .question _ => false
    if given.isEmpty then some (usageLine [styledName switch])
    else if isSetting then some (usageLine [anySetting])
    else some (usageLine [styledName switch, anySetting])
  | _ => none

/-- All that is written about it, with terminal styles. -/
def report (usage : Usage) : String :=
  let first := Palette.alarm.enclose "error:" ++ " " ++ usage.message
  Text.join "\n\n" ([Text.join "\n" (first :: usage.choices?.toList)] ++ usage.tip?.toList
    ++ usage.usage?.toList
    ++ ["For more information, try '" ++ Palette.literal.enclose "--help" ++ "'.\n"])

end Usage

end KernelProbe.CommandLine
