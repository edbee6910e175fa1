import SplitTest.Document.File
import SplitTest.Report.Check
import SplitTest.Report.Distribution
import SplitTest.Report.Placement

/-!
# The command line

`simulate`, `bucket` and `check` report on a dataset file.  Each takes its options
in any order and each option once; a value may follow its option as the next word,
after an equals sign, or right behind a short option.  A word that begins with a
dash is never taken as a separate value, except a lone dash.  Words are judged in
their order, so help is given if it is asked for before the first fault.

`Invocation.parse` reads the words, and `Invocation.run` answers an exit code and
a text: 0 for success, 1 for malformed commands or a file that is no dataset, and 2
for words that are no invocation.
-/

namespace SplitTest

open SplitTest.Document SplitTest.Report SplitTest.Text

-- powers are those of the natural numbers themselves, not of a monoid
attribute [local instance (high)] instPowNat

/-- The options that take a value. -/
inductive OptionName where
  | dataset
  | draws
  | seed
  | addr
  | ua
deriving DecidableEq, Repr

namespace OptionName

/-- The word of the option, without its dashes. -/
def word : OptionName → String
  | dataset => "dataset"
  | draws => "draws"
  | seed => "seed"
  | addr => "addr"
  | ua => "ua"

end OptionName

/-- The reports. -/
inductive Subcommand where
  | simulate
  | bucket
  | check
deriving DecidableEq, Repr

namespace Subcommand

/-- The word of the report. -/
def word : Subcommand → String
  | simulate => "simulate"
  | bucket => "bucket"
  | check => "check"

/-- The report with a word. -/
def ofWord? (s : String) : Option Subcommand :=
  [simulate, bucket, check].find? fun c => c.word == s

/-- The options of the report. -/
def options : Subcommand → List OptionName
  | simulate => [.dataset, .draws, .seed]
  | bucket => [.dataset, .addr, .ua]
  | check => [.dataset]

end Subcommand

/-- What is asked on the command line. -/
inductive Invocation where
  /-- A simulation of so many draws from a seed. -/
  | simulate (path : String) (draws seed : Nat)
  /-- The placements of a device. -/
  | bucket (path address userAgent : String)
  /-- The malformed lines. -/
  | check (path : String)
  /-- The name and version of the program. -/
  | version
  /-- How to use the program. -/
  | help
  /-- Nothing that the program understands. -/
  | misuse
deriving DecidableEq, Repr

/-- What a word of the command line is to a report. -/
inductive Word where
  /-- An option, with a value if it holds one. -/
  | option (name : OptionName) (value : Option String)
  /-- The request for help. -/
  | help
  /-- Two dashes, behind which no option stands. -/
  | stop
  /-- Anything else. -/
  | other
deriving DecidableEq, Repr

namespace Invocation

/-- The option of a report with a long word. -/
def longOption? (c : Subcommand) (word : List Char) : Option OptionName :=
  c.options.find? fun o => o.word.toList == word

/-- What a word is to a report. -/
def classify (c : Subcommand) (s : String) : Word :=
  match s.toList with
  | ['-', '-'] => .stop
  | '-' :: '-' :: rest =>
    match cut? '=' rest with
    | some (word, value) =>
      match longOption? c word with
      | some o => .option o (some (.ofList value))
      | none => .other
    | none =>
      if rest = "help".toList then .help
      else
        match longOption? c rest with
        | some o => .option o none
        | none => .other
  | '-' :: 'h' :: _ => .help
  | ['-', 'd'] => .option .dataset none
  | '-' :: 'd' :: '=' :: value => .option .dataset (some (.ofList value))
  | '-' :: 'd' :: value => .option .dataset (some (.ofList value))
  | _ => .other

/-- Whether a word can be the value of the option before it. -/
def isValue (s : String) : Bool := s == "-" || s.toList.head? != some '-'

/-- Why words are no list of options. -/
inductive OptionFault where
  | help
  | misuse
deriving DecidableEq, Repr

/-- A number of 64 bits. -/
def number? (s : String) : Option Nat := unsigned? 10 (2 ^ (64 : Nat)) s.toList

/-- Whether a text can be the value of an option. -/
def admits : OptionName → String → Bool
  | .dataset, s => s != ""
  | .draws, s => (number? s).isSome
  | .seed, s => (number? s).isSome
  | .addr, _ => true
  | .ua, _ => true

/-- The options among the words behind a report, in order, where `seen` came before
them.  The first word that is a fault or asks for help decides. -/
def readOptions (c : Subcommand) :
    List OptionName → List String → Except OptionFault (List (OptionName × String))
  | _, [] => .ok []
  | seen, s :: rest =>
    match classify c s with
    | .stop => if rest.isEmpty then .ok [] else .error .misuse
    | .help => .error .help
    | .other => .error .misuse
    | .option o (some value) =>
      if seen.contains o || !admits o value then .error .misuse
      else (readOptions c (o :: seen) rest).map ((o, value) :: ·)
    | .option o none =>
      match rest with
      | [] => .error .misuse
      | value :: rest =>
        if !isValue value || seen.contains o || !admits o value then .error .misuse
        else (readOptions c (o :: seen) rest).map ((o, value) :: ·)

/-- The value of an option; none if it is missing. -/
def value? (options : List (OptionName × String)) (o : OptionName) : Option String :=
  (options.find? fun p => p.1 == o).map Prod.snd

/-- The number of an option, or a default where it is missing. -/
def numberOr (options : List (OptionName × String)) (o : OptionName) (default : Nat) : Nat :=
  ((value? options o).bind number?).getD default

/-- The invocation of a report with its options, unless one that it needs is missing. -/
def ofOptions (c : Subcommand) (options : List (OptionName × String)) : Option Invocation := do
  let path ← value? options .dataset
  match c with
  | .simulate => return simulate path (numberOr options .draws 10000) (numberOr options .seed 42)
  | .bucket => return bucket path (← value? options .addr) (← value? options .ua)
  | .check => return check path

/-- What the words behind `help` ask: nothing more, or about one report or `help`. -/
def parseHelp : List String → Invocation
  | [] => help
  | [s] => if s = "help" ∨ (Subcommand.ofWord? s).isSome then help else misuse
  | _ => misuse

/-- What the words of a command line ask. -/
def parse : List String → Invocation
  | [] => misuse
  | s :: rest =>
    if s = "--version" ∨ s.toList.take 2 = ['-', 'V'] then version
    else if s = "--help" ∨ s.toList.take 2 = ['-', 'h'] then help
    else if s = "help" then parseHelp rest
    else
      match Subcommand.ofWord? s with
      | none => misuse
      | some c =>
        match readOptions c [] rest with
        | .error .help => help
        | .error .misuse => misuse
        | .ok options => (ofOptions c options).getD misuse

/-- The file that an invocation reads. -/
def path? : Invocation → Option String
  | simulate path _ _ => some path
  | bucket path _ _ => some path
  | check path => some path
  | version | help | misuse => none

end Invocation

/-- What the program leaves: an exit code, and what it prints. -/
structure Outcome where
  /-- The exit code. -/
  exit : Nat
  /-- The text on standard output. -/
  stdout : String
deriving DecidableEq, Repr

/-- Why a file gives no dataset. -/
inductive DatasetLoadFault where
  /-- It could not be loaded. -/
  | file (fault : LoadFault)
  /-- It lists no dataset. -/
  | contents (fault : DatasetFault)
deriving DecidableEq, Repr

/-- The dataset in a file with these bytes, or in a missing file. -/
def loadDataset (path : String) (bytes : Option ByteArray) : Except DatasetLoadFault Dataset :=
  match load datasetFile path bytes with
  | .error fault => .error (.file fault)
  | .ok f =>
    match f.toDataset with
    | .error fault => .error (.contents fault)
    | .ok set => .ok set

/-- The text of the fault. -/
def DatasetLoadFault.message : DatasetLoadFault → String
  | file fault => fault.datasetMessage
  | contents fault => fault.message

/-- The draws of a simulation: numbers from 1 to 100, scattered by a seed. -/
def seededDraws (seed : Nat) : Draws where
  values k :=
    let x := (UInt64.ofNat seed + UInt64.ofNat (k + 1) * 0x9E3779B97F4A7C15)
    let y := (x ^^^ (x >>> 30)) * 0xBF58476D1CE4E5B9
    let z := (y ^^^ (y >>> 27)) * 0x94D049BB133111EB
    (z ^^^ (z >>> 31)).toNat % 100 + 1
  rolls := 0

namespace Invocation

/-- The lines that tell how to use the program. -/
def usage : String :=
  "Usage: abconfig simulate -d FILE [--draws N] [--seed N]\n"
    ++ "       abconfig bucket -d FILE --addr ADDRESS --ua AGENT\n"
    ++ "       abconfig check -d FILE\n"

/-- The report on the malformed lines of a dataset. -/
def checkOutcome (set : Dataset) : Outcome :=
  let problems := Report.check set
  let lines := String.join (problems.map fun p => p.display ++ "\n")
  if problems.isEmpty then ⟨0, "all commands parse\n"⟩
  else ⟨1, lines ++ ofNat problems.length ++ " malformed command(s)\n"⟩

/-- The report of an invocation on a dataset. -/
def reportOn (set : Dataset) : Invocation → Outcome
  | simulate _ draws seed =>
    ⟨0, String.join
      ((Report.simulate set draws (seededDraws seed)).map Distribution.display)⟩
  | bucket _ address userAgent => ⟨0, (Report.bucket set address userAgent).display⟩
  | check _ => checkOutcome set
  | version => ⟨0, "abconfig 0.1.0\n"⟩
  | help => ⟨0, usage⟩
  | misuse => ⟨2, ""⟩

/-- Run an invocation, given the bytes of the file it reads. -/
def run (i : Invocation) (bytes : Option ByteArray) : Outcome :=
  match i.path? with
  | none => i.reportOn .empty
  | some path =>
    match loadDataset path bytes with
    | .error _ => ⟨1, ""⟩
    | .ok set => i.reportOn set

end Invocation

end SplitTest
