import IssueMerge.Console.Line
import IssueMerge.Json.Indented
import IssueMerge.Merge
import IssueMerge.Report

/-!
What the command prints, either as lines for people or as one JSON value for programs. Each text of a
list is printed at once.
-/

namespace IssueMerge

namespace Display

/-- A value for programs, or marked up lines for people. -/
def either (json : Bool) (value : Json.Fields) (markups : List Text) : List Text :=
  if json then [Json.indented 0 (.obj value) ++ [.lineFeed]] else markups.map Console.line

/-- An error, with what it is an error of in front. -/
def failure (title message : Text) : List Text :=
  [Console.line ("[red]" ++ title ++ "[/red] " ++ Markup.escape message)]

def sideLines (name colour : Text) (records : List Record) : List Text :=
  ("  " ++ name ++ " issues: " ++ Numeral.digits records.length) ::
    records.map fun r =>
      "    - [" ++ colour ++ "]" ++ Markup.escape r.id ++ "[/" ++ colour ++ "]: "
        ++ Markup.escape r.title

def regionLines (region : Region) (index : Nat) : List Text :=
  [("Conflict " ++ Numeral.digits (index + 1) ++ " (lines " ++ Numeral.digits region.openLine ++ "-"
    ++ Numeral.digits region.closeLine ++ "):")]
    ++ sideLines "HEAD" "cyan" region.head ++ sideLines "BASE" "yellow" region.base ++ [[]]

def found (path : Path) (regions : List Region) : List Text :=
  Console.line ("Found " ++ Numeral.digits regions.length ++ " conflict(s) in "
    ++ Markup.escape path.toText ++ ":\n") ::
    (regions.zipIdx.flatMap fun p => regionLines p.1 p.2).map Console.line

def noConflicts (json : Bool) (path : Path) : List Text :=
  either json [("conflicts", .int 0), ("file", .str path.toText)]
    ["[green]✓[/green] No conflicts found in " ++ Markup.escape path.toText]

def advice (json : Bool) (path : Path) (regions : List Region) : List Text :=
  either json
    [("conflicts", .int regions.length), ("file", .str path.toText),
      ("details", .arr (regions.map fun r => .obj r.toFields))]
    ["Run 'bd resolve-conflicts --auto' to apply automatic resolution."]

def resolutionLine (r : Resolution) : Text :=
  if r.isRemap then
    "  ↻ Remap [yellow]" ++ Markup.escape r.oldId ++ "[/yellow] → [green]" ++ Markup.escape r.newId
      ++ "[/green] (" ++ Markup.escape r.reason ++ ")"
  else
    "  ✓ Keep [cyan]" ++ Markup.escape r.oldId ++ "[/cyan] unchanged"

def proposal (resolutions : List Resolution) : List Text :=
  Console.line "Proposed resolutions:" ::
    (resolutions.map fun r => Console.line (resolutionLine r)) ++ [Console.line []]

def dryRun (json : Bool) (plan : ResolutionPlan) : List Text :=
  either json
    [("dry_run", .bool true),
      ("resolutions", .arr (plan.resolutions.map fun r => .obj r.toFields))]
    ["Dry-run mode: no changes made"]

/-- The end of a run that has written the file, and what to do next. -/
def resolved (json : Bool) (report : MergeReport) : List Text :=
  let regions := report.merge.regions.length
  let name := Markup.escape report.path.name
  either json
    [("success", .bool true), ("conflicts", .int regions),
      ("resolutions", .int report.merge.plan.resolutions.length), ("file", .str report.path.toText)]
    ["[green]✓[/green] Resolved " ++ Numeral.digits regions ++ " conflict(s)",
      "\nNext steps:",
      "  1. Review changes: git diff " ++ name,
      "  2. Import to database: bd import",
      "  3. Commit resolution: git add " ++ name ++ " && git commit"]

end Display

end IssueMerge
