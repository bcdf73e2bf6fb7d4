import TableRobot.Journal.Logged
/-!
# Report payloads

A report carries the cell and the facing of the robot in writing, separated by
commas. Reading admits more than is ever written: numerals in their wide form
and white space around every part. A payload that cannot be read leaves an
event that says why.
-/

namespace TableRobot

open Text (trim fields)

/-- What a report tells: where the robot stands and where it looks. -/
structure Report where
  cell : Cell
  facing : Facing
  deriving DecidableEq, Repr

namespace Report

def text (r : Report) : Text := r.cell.text ++ ',' :: r.facing.name

/-- What the three parts of the payload `t` tell, or the event that says what is wrong. -/
def ofParts (t x y f : Text) : Except Event Report :=
  match Numeral.read x with
  | .error fault => .error (.reportCoordinates t fault)
  | .ok x =>
      match Numeral.read y with
      | .error fault => .error (.reportCoordinates t fault)
      | .ok y =>
          match Facing.read? f with
          | none => .error (.reportFacing t)
          | some f => .ok ⟨⟨x, y⟩, f⟩

/-- What the payload `t` tells, or the event that says what is wrong with it. -/
def parse (t : Text) : Except Event Report :=
  if t = [] then .error .reportEmpty
  else
    match (fields ',' (trim t)).map trim with
    | [x, y, f] => ofParts t x y f
    | _ => .error (.reportShape t)

/-- Reads a payload and tells of what is wrong with it. -/
def read? (t : Text) : Logged (Option Report) :=
  match parse t with
  | .ok r => pure (some r)
  | .error e => do
      Logged.tell e
      pure none

theorem read?_eq_some_iff {t : Text} {r : Report} :
    (read? t).value = some r ↔ parse t = .ok r := by
  unfold read?
  cases parse t <;> simp

example : (read? " 1 ,\u0662, east\n".toList).value = some ⟨⟨1, 2⟩, .east⟩ := by
  decide +kernel

end Report

end TableRobot
