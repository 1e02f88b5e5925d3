import QueryString.Text.Basic

/-!
# Charsets

Four charsets, the names by which they are asked for, and the faults that octets can have. Other
names are a matter of the codecs that are at hand (`Codecs`).
-/

namespace QueryString

/-- A way to write characters as octets. -/
inductive Charset where
  /-- One to four octets for every character. -/
  | utf8
  /-- The first 256 code points, one octet each. -/
  | latin1
  /-- The first 128 code points, one octet each. -/
  | ascii
  /-- Latin-1 with letters and punctuation in place of most of the control codes beyond ASCII. -/
  | windows1252
deriving DecidableEq, Repr

namespace Charset

/-- A name in the form in which names are compared: ASCII letters in lower case, and a hyphen for
an underscore. -/
def foldName (name : Text) : Text := name.map fun c => if c = '_' then '-' else c.toLower

/-- Each name that a charset goes by, in its folded form. -/
def names : List (Text × Charset) :=
  [("utf-8".toList, utf8), ("utf8".toList, utf8),
    ("latin-1".toList, latin1), ("latin1".toList, latin1), ("l1".toList, latin1),
    ("iso-8859-1".toList, latin1),
    ("ascii".toList, ascii), ("us-ascii".toList, ascii),
    ("cp1252".toList, windows1252), ("windows-1252".toList, windows1252)]

/-- The charset of a name, in whatever letter case. -/
def ofName? (name : Text) : Option Charset := names.lookup (foldName name)

example : ofName? "ISO_8859-1".toList = some latin1 := by decide

end Charset

/-- What keeps octets from being text in a charset. -/
inductive ByteFault where
  /-- The octet cannot begin a character. -/
  | invalidStart
  /-- The octet cannot go on with the character that has begun. -/
  | invalidContinuation
  /-- The octets end inside a character. -/
  | unexpectedEnd
  /-- The octet lies beyond the first 128. -/
  | aboveAscii
  /-- The charset gives the octet no meaning. -/
  | undefined
  /-- A fault that only octets of another charset have, in words. -/
  | other (reason : Text)
deriving DecidableEq, Repr

/-- The fault in words. -/
def ByteFault.reason : ByteFault → Text
  | invalidStart => "invalid start byte".toList
  | invalidContinuation => "invalid continuation byte".toList
  | unexpectedEnd => "unexpected end of data".toList
  | aboveAscii => "ordinal not in range(128)".toList
  | undefined => "character maps to <undefined>".toList
  | other reason => reason

end QueryString
