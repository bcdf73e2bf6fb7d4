import TableRobot.Journal.Logged
/-!
# Settings from the environment

The environment may set the default size of the table and switch on the fullest
journal. A size that is no numeral or below one is ignored with a warning.
-/

namespace TableRobot

open Text (trim)

/-- The variables of the environment that are looked at. -/
structure Environment where
  tableSize : Option Text
  trace : Option Text
  deriving DecidableEq, Repr

/-- What is set for a run of the program. -/
structure Settings where
  tableSize : Int
  trace : Bool
  deriving DecidableEq, Repr

namespace Settings

def defaultTableSize : Int := 6

def switchWords : List Text := ["1".toList, "true".toList, "yes".toList, "on".toList]

def isSwitchedOn (t : Text) : Bool := switchWords.contains (t.map Char.toLower)

/-- The table size that a variable sets, or the event that says why it is ignored. -/
def parseSize (raw : Text) : Except Event Int :=
  match Numeral.read (trim raw) with
  | .error _ => .error (.sizeMalformed raw)
  | .ok n => if n < 1 then .error (.sizeTooSmall n) else .ok n

/-- The table size that the environment sets; an empty variable sets none. -/
def readSize : Option Text → Logged Int
  | none | some [] => pure defaultTableSize
  | some raw =>
      match parseSize raw with
      | .ok n => pure n
      | .error e => do
          Logged.tell e
          pure defaultTableSize

def read (env : Environment) : Logged Settings := do
  let size ← readSize env.tableSize
  pure ⟨size, (env.trace.map isSwitchedOn).getD false⟩

theorem one_le_readSize (raw : Option Text) : 1 ≤ (readSize raw).value := by
  unfold readSize
  split
  · decide
  · decide
  · split
    · next n hn =>
        unfold parseSize at hn
        split at hn
        · simp at hn
        · split at hn
          · simp at hn
          · next h =>
              cases hn
              simp only [Logged.value_pure]
              omega
    · exact (by decide : (1 : Int) ≤ defaultTableSize)

end Settings

end TableRobot
