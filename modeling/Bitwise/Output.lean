/-!
# Output

What is written to the two output streams.
-/

namespace Bitwise

/-- Texts for standard output and standard error. -/
structure Output where
  stdout : String
  stderr : String
  deriving DecidableEq

namespace Output

/-- Nothing is written. -/
def nothing : Output := ⟨"", ""⟩

/-- A text is written to standard output. -/
def print (text : String) : Output := ⟨text, ""⟩

/-- A line is written to standard output. -/
def printLine (text : String) : Output := print (text ++ "\n")

/-- A text is written to standard error. -/
def complain (text : String) : Output := ⟨"", text⟩

/-- One output after the other. -/
instance : Append Output :=
  ⟨fun a b => ⟨a.stdout ++ b.stdout, a.stderr ++ b.stderr⟩⟩

theorem append_def (a b : Output) : a ++ b = ⟨a.stdout ++ b.stdout, a.stderr ++ b.stderr⟩ := rfl

@[simp] theorem nothing_append (a : Output) : nothing ++ a = a := by
  simp [append_def, nothing]

@[simp] theorem append_nothing (a : Output) : a ++ nothing = a := by
  simp [append_def, nothing]

theorem append_assoc (a b c : Output) : a ++ b ++ c = a ++ (b ++ c) := by
  simp [append_def, String.append_assoc]

end Output

end Bitwise
