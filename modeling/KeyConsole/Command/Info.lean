import KeyConsole.Text.Ascii
import KeyConsole.Text.Blank
import KeyConsole.Text.Numeral
import KeyConsole.Text.Utf8

/-!
# Descriptions of commands

What is known about a command without running it: its name, which may have
several words, its parameters and how many arguments it takes.  A command is
called by the tokens that spell its name word by word, without regard to the
case of ASCII letters.  Of several names that fit, the longest is meant.
-/

namespace KeyConsole

/-- The description of a command. -/
structure CommandInfo where
  /-- One or more words. -/
  name : String
  /-- The parameters as users see them. -/
  params : String
  /-- What the command does, in a line. -/
  summary : String
  /-- The version in which it appeared. -/
  since : Option String
  /-- A line that calls it. -/
  sample : Option String
  /-- How many arguments it takes at least. -/
  minArgs : Nat
  /-- How many more it may take. -/
  extraArgs : Nat
  deriving DecidableEq, Repr, Inhabited

namespace CommandInfo

/-- The number of extra arguments of a command that takes any number. -/
def unlimited : Nat := Text.wordBound - 1

/-- What stands for a version or a sample that is not given. -/
def undefinedText : String := "undefined"

/-- How many arguments a command takes at most; no number is larger than a
word can be. -/
def maxArgs (info : CommandInfo) : Nat :=
  min (info.minArgs + info.extraArgs) unlimited

/-- Whether a command takes a number of arguments. -/
def accepts (info : CommandInfo) (count : Nat) : Bool :=
  info.minArgs ≤ count && count ≤ info.maxArgs

/-- The version as it is shown. -/
def sinceText (info : CommandInfo) : String :=
  info.since.getD undefinedText

/-- The sample as it is shown. -/
def sampleText (info : CommandInfo) : String :=
  info.sample.getD undefinedText

/-- The name with the parameters. -/
def usage (info : CommandInfo) : String :=
  if info.params.isEmpty then info.name else info.name ++ " " ++ info.params

/-- Everything that is known, for a reader. -/
def helpText (info : CommandInfo) : String :=
  info.usage ++ "\n  summary: " ++ info.summary ++ "\n  since: " ++ info.sinceText
    ++ "\n  example: " ++ info.sampleText

/-- The words of a name as bytes. -/
def nameWords (info : CommandInfo) : List Bytes :=
  (Text.words info.name).map Text.encode

/-- Take words off the front of others, as long as they agree.  Fails at the
first that does not. -/
def dropWords? : List Bytes → List Bytes → Option (List Bytes)
  | [], expected => some expected
  | _ :: _, [] => none
  | word :: words, first :: expected =>
    if Text.sameLettersBytes word first then dropWords? words expected else none

/-- How many tokens spell the expected words.  A token may hold several words
of a name, and must hold one. -/
def spelled (expected : List Bytes) : List Bytes → Option Nat
  | [] => none
  | token :: tokens =>
    match Text.asciiWords token with
    | [] => none
    | word :: words =>
      match dropWords? (word :: words) expected with
      | none => none
      | some [] => some 1
      | some (next :: rest) => (spelled (next :: rest) tokens).map (· + 1)

/-- How many tokens of a call the name takes up, if the call begins with
it. -/
def matchLength (info : CommandInfo) (argv : List Bytes) : Option Nat :=
  spelled info.nameWords argv

/-- Whether a text is the name, up to case and blanks. -/
def hasName (info : CommandInfo) (name : String) : Bool :=
  (Text.words info.name).map (·.toList.map Char.toLower)
    == (Text.words name).map (·.toList.map Char.toLower)

/-- The better of two matches: the longer one, and the earlier one of two of
the same length. -/
def better {α : Type} (best : Option (α × Nat)) (candidate : α) (length : Option Nat) :
    Option (α × Nat) :=
  match length, best with
  | none, best => best
  | some n, none => some (candidate, n)
  | some n, some (chosen, m) => if n ≤ m then some (chosen, m) else some (candidate, n)

/-- Among things that have descriptions, the one that a call means, and how
many tokens its name takes up. -/
def longestMatch {α : Type} (info : α → CommandInfo) (things : List α) (argv : List Bytes) :
    Option (α × Nat) :=
  things.foldl (fun best thing => better best thing ((info thing).matchLength argv)) none

end CommandInfo

end KeyConsole
