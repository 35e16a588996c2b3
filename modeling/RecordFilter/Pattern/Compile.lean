import RecordFilter.Pattern.Meaning
import RecordFilter.Pattern.Reader
import RecordFilter.Pattern.Size

/-!
# From text to pattern
-/

namespace RecordFilter

/-- The pattern that a text spells. -/
def Pattern.ofText (text : String) : Except PatternError Pattern := do
  let term ← Pattern.Term.ofText text.toList
  let (pattern, _) ← term.meaning .start
  if Pattern.maxSize < pattern.size then .error .tooLarge else .ok pattern

end RecordFilter
