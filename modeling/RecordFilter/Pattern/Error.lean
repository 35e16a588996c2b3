/-!
# What can be wrong with a pattern
-/

namespace RecordFilter

/-- Why a text is no pattern. -/
inductive PatternError where
  /-- A group that is never closed. -/
  | groupUnclosed
  /-- A parenthesis that closes no group. -/
  | groupUnopened
  /-- A condition on what stands ahead or behind. -/
  | lookAround
  /-- The name of a group is missing, unfinished, misspelt or used twice. -/
  | groupName
  /-- Modes that are unknown, repeated or unfinished. -/
  | modes
  /-- A repetition of nothing. -/
  | repetitionMissing
  /-- A repetition whose counts are missing, too great, unfinished or in the wrong order. -/
  | repetitionCount
  /-- A backslash with nothing behind it. -/
  | escapeUnfinished
  /-- A backslash with something behind it that has no meaning. -/
  | escapeUnknown
  /-- A reference to a group. -/
  | backReference
  /-- Digits that number no character. -/
  | characterNumber
  /-- A word boundary of an unknown kind. -/
  | wordBoundary
  /-- A class that is never closed. -/
  | classUnclosed
  /-- A range in a class whose ends are no characters, or in the wrong order. -/
  | classRange
  /-- Something in a class that stands for no characters. -/
  | classMember
  /-- A property without a name, or with an unknown one. -/
  | property
  /-- A construct that needs all characters where only those of ASCII are known. -/
  | notUnicode
  /-- A construct that could stand for a part of a character. -/
  | partOfCharacter
  /-- Too many constructs inside each other. -/
  | nestingTooDeep
  /-- Repetitions that make the pattern too large. -/
  | tooLarge
deriving DecidableEq, Repr

/-- The message of an error. -/
def PatternError.message : PatternError → String
  | groupUnclosed => "unclosed group"
  | groupUnopened => "unopened group"
  | lookAround => "look-around is not supported"
  | groupName => "invalid group name"
  | modes => "invalid flags"
  | repetitionMissing => "repetition operator missing expression"
  | repetitionCount => "invalid repetition count"
  | escapeUnfinished => "incomplete escape sequence"
  | escapeUnknown => "unrecognized escape sequence"
  | backReference => "backreferences are not supported"
  | characterNumber => "invalid hexadecimal escape"
  | wordBoundary => "invalid word boundary"
  | classUnclosed => "unclosed character class"
  | classRange => "invalid character class range"
  | classMember => "invalid member of a character class"
  | property => "Unicode property not found"
  | notUnicode => "Unicode not allowed here"
  | partOfCharacter => "pattern can match invalid UTF-8"
  | nestingTooDeep => "exceeds the maximum nesting depth"
  | tooLarge => "compiled pattern exceeds size limit"

end RecordFilter
