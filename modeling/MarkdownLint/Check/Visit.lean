import MarkdownLint.Check.BreakStyle
import MarkdownLint.Check.LineLength
import MarkdownLint.Check.Whitespace

/-!
What a check finds in a document.
-/
namespace MarkdownLint.Check

/-- The violations of a check in a document, in the order of discovery. -/
def visit : Check → Document → Except Fault (List Violation)
  | hardTabs => visitHardTabs
  | trailingSpaces => visitTrailingSpaces
  | multipleBlanks => visitMultipleBlanks
  | lineLength limit codeBlocks => visitLineLength limit codeBlocks
  | firstHeading level => visitFirstHeading level
  | singleHeading level => visitSingleHeading level
  | blanksAroundHeadings => visitBlanksAroundHeadings
  | breakStyle style => visitBreakStyle style
  | filename => visitFilename

end MarkdownLint.Check
