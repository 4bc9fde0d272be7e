import IssueMerge.Conflict.Marker
import IssueMerge.Issue.Record

/-!
Conflict regions. A region runs from an opening marker to the next closing one and holds the records
of both sides; lines that are no usable records are passed over. A region that another opening
marker or the end of the file cuts off is no region, only a warning.
-/

namespace IssueMerge

/-- A conflict and the records on its two sides. Lines are counted from 1. -/
structure Region where
  openLine : Nat
  closeLine : Nat := 0
  head : List Record := []
  base : List Record := []

namespace Region

def headIds (r : Region) : List Text :=
  r.head.map Record.id

def baseIds (r : Region) : List Text :=
  r.base.map Record.id

/-- The region with one more record on the side of the given place. -/
def add (r : Region) (place : Place) (record : Record) : Region :=
  match place with
  | .head => { r with head := r.head ++ [record] }
  | .base => { r with base := r.base ++ [record] }
  | .outside => r
  | .ancestor => r

end Region

/-- A conflict that was opened and not closed. -/
inductive ScanWarning where
  | abandoned (openLine line : Nat)
  | unclosed (openLine : Nat)
deriving DecidableEq

def ScanWarning.message : ScanWarning → Text
  | .abandoned openLine line =>
    "Conflict region opened at line " ++ Numeral.digits openLine
      ++ " was never closed; abandoning it at line " ++ Numeral.digits line
  | .unclosed openLine =>
    "Conflict region opened at line " ++ Numeral.digits openLine
      ++ " is not closed before end of file"

/-- The state of a scan: where the next line stands, the region that is open, and what was found. -/
structure Scan where
  place : Place := .outside
  pending : Option Region := none
  regions : List Region := []
  warnings : List ScanWarning := []

namespace Scan

/-- Takes in a line with content. The text of ancestors is not looked at. -/
def addContent (s : Scan) (line : Text) : Except Numeral.TooLong Scan :=
  match s.pending with
  | none => .ok s
  | some region =>
    if s.place = .ancestor then
      .ok s
    else do
      match ← Record.ofLine? line with
      | some record => .ok { s with pending := some (region.add s.place record) }
      | none => .ok s

def step (s : Scan) (number : Nat) (line : Text) : Except Numeral.TooLong Scan :=
  let kind := LineKind.ofLine line
  let place := s.place.after kind
  match kind, s.pending with
  | .content, _ => s.addContent line
  | .opening, some region =>
    .ok { s with
      place
      pending := some { openLine := number }
      warnings := s.warnings ++ [.abandoned region.openLine number] }
  | .opening, none => .ok { s with place, pending := some { openLine := number } }
  | .closing, some region =>
    .ok { s with
      place
      pending := none
      regions := s.regions ++ [{ region with closeLine := number }] }
  | _, _ => .ok { s with place }

/-- Takes in lines that are numbered from `number` on. -/
def run (s : Scan) (number : Nat) : List Text → Except Numeral.TooLong Scan
  | [] => .ok s
  | line :: rest => do
    let s ← s.step number line
    s.run (number + 1) rest

/-- The warnings of a scan that has seen all lines. -/
def allWarnings (s : Scan) : List ScanWarning :=
  s.warnings ++ (s.pending.map fun r => ScanWarning.unclosed r.openLine).toList

def ofLines (lines : List Text) : Except Numeral.TooLong Scan :=
  run {} 1 lines

end Scan

def Region.ofLines (lines : List Text) : Except Numeral.TooLong (List Region) :=
  Scan.regions <$> Scan.ofLines lines

end IssueMerge
