import IssueMerge.CommandLine.Display
import IssueMerge.CommandLine.Request
import IssueMerge.Project.Locate

/-!
Running the command: what it prints and how it ends. Errors of the project, of its file and of the
resolution are printed and end the command with the code 1; others end it as they are, and so does a
text that cannot be printed.
-/

namespace IssueMerge

/-- How a run ends. -/
inductive Ending where
  | exit (code : Nat)
  | locateFailure (e : LocateError)
  | mergeFailure (e : MergeError)
  | consoleFailure (e : Utf8.Unencodable)
deriving DecidableEq

/-- A run of the command. -/
structure Run where
  output : Text := []
  ending : Ending := .exit 0

def Ending.code : Ending → Nat
  | .exit code => code
  | _ => 1

/-- What is left to say when a run has ended. -/
def Ending.message : Ending → Text
  | .exit _ => []
  | .locateFailure e => e.message
  | .mergeFailure e => e.message
  | .consoleFailure e => e.message

def LocateError.isPrinted : LocateError → Bool
  | .noProject _ => true
  | .config (.os _) => false
  | .config _ => true
  | .os _ => false
  | .nullByte => false

def StoreError.isPrinted : StoreError → Bool
  | .unreadable .. | .undecodable .. | .unwritable .. => true
  | .nullByte | .unencodable _ => false

def MergeError.isPrinted : MergeError → Bool
  | .store e => e.isPrinted
  | .numeral _ => false
  | .allocation (.numeral _) => false
  | .allocation _ => true
  | .rebuild (.numeral _) => false
  | .rebuild _ => true

section

variable {m : Type → Type} [Monad m]

/-- Prints some texts and goes on, unless one of them cannot be printed. -/
def Run.saying (texts : List Text) (next : m Run) : m Run :=
  match Console.print texts with
  | (output, some e) => pure { output, ending := .consoleFailure e }
  | (output, none) => do
    let run ← next
    pure { run with output := output ++ run.output }

def Run.finish (texts : List Text) (ending : Ending) : m Run :=
  Run.saying texts (pure { ending })

/-- The stem of fresh ids: the given one, or that of the settings. An empty one is none. -/
def ResolveOptions.activeStem (options : ResolveOptions) (config : Config) : Option Text :=
  (options.stem.filter (· ≠ [])) <|> config.stem

def Run.ofLocateError (e : LocateError) : m Run :=
  if e.isPrinted then Run.finish (Display.failure "Error:" e.message) (.exit 1)
  else Run.finish [] (.locateFailure e)

/-- Ends with an error in finding or resolving conflicts. -/
def Run.ofMergeError (title : Text) (e : MergeError) : m Run :=
  if e.isPrinted then Run.finish (Display.failure title e.message) (.exit 1)
  else Run.finish [] (.mergeFailure e)

def Run.ofReport (options : ResolveOptions) (report : MergeReport) : m Run :=
  let plan := report.merge.plan
  let proposal := if options.json then [] else Display.proposal plan.resolutions
  let rest :=
    if options.dryRun then Display.dryRun options.json plan
    else Display.resolved options.json report
  Run.finish (proposal ++ rest) (.exit 0)

variable [Disk m]

def resolveFile (options : ResolveOptions) (path : Path) (config : Config) : m Run := do
  let attempt ← resolveConflicts path
    { stem := options.activeStem config, dryRun := options.dryRun, write := Store.writeAtomic }
  match attempt.result with
  | .error e => Run.ofMergeError "Error resolving conflicts:" e
  | .ok report => Run.ofReport options report

/-- Finds the conflicts of the file of issues, and resolves them if that is asked for. -/
def runResolve (reader : Yaml.Reader) (options : ResolveOptions) : m Run := do
  match ← (Project.locate reader (options.file.map Path.ofText)).run with
  | .error e => Run.ofLocateError e
  | .ok (path, config) =>
    match ← (detectConflicts path).run with
    | .error e => Run.ofMergeError "Error detecting conflicts:" e
    | .ok [] => Run.finish (Display.noConflicts options.json path) (.exit 0)
    | .ok regions =>
      Run.saying (if options.json then [] else Display.found path regions) <|
        if options.auto || options.dryRun then
          resolveFile options path config
        else
          Run.finish (Display.advice options.json path regions) (.exit 0)

end

end IssueMerge
