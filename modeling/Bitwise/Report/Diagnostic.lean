import Bitwise.Report
import Bitwise.Statement

/-!
# Reports on errors

The report that each error of a statement makes: its headline, its note, and the span of the error.
An error at the end of the text points just behind it.
-/

namespace Bitwise

/-- The report on an undefined variable. -/
def UndefinedVariable.report (e : UndefinedVariable) : Report where
  title := "Undefined variable `" ++ e.name ++ "`"
  note := "This variable has not been assigned in this session"
  span := e.span

/-- The report on a text that cannot be parsed. -/
def ParseError.report (source : String) : ParseError → Report
  | .lexical diagnostic span => ⟨"Lexer Error", diagnostic, span⟩
  | .unexpectedToken expected found =>
    ⟨"Unexpected token: " ++ toString found, "Expected " ++ expected.label, found.span⟩
  | .unexpectedEnd expected =>
    ⟨"Premature end of input", "Expected " ++ expected.label,
      .point (Text.byteLength source.toList)⟩
  | .numberTooLarge text span =>
    ⟨"Invalid number `" ++ text ++ "`",
      ParseError.outOfRange ++ " (literals must fit in a signed 64-bit integer)", span⟩
  | .tooDeep span =>
    ⟨"Parentheses nested too deeply",
      "At most " ++ toString maxNesting ++ " groups may be open at once", span⟩

/-- The report on a text that has no value. -/
def StatementError.report (source : String) : StatementError → Report
  | .parse reason => reason.report source
  | .eval reason => reason.report

end Bitwise
