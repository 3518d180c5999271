import Kanban.SeedCommand

/-!
# The seeding program

The seeding command on a database that is empty when the program starts.
-/

open Kanban

def failureLine : String := "❌ Error seeding columns: no such table: kanban_columns\n"

/-- The columns of a new board are added as the arguments say. -/
def main (arguments : List String) : IO UInt32 := do
  match (SeedCommand.run arguments ⟨⟨0⟩, none⟩ none).1 with
  | .ok ending =>
    IO.print ending.output
    pure (UInt32.ofNat ending.exitCode)
  | .error _ =>
    IO.print failureLine
    pure 1
