import QueryString.Request.Basic

/-!
# Requests in words

A request on one line: its path and its parameters, every text in quotation marks. The values of a
name stand in parentheses, and a value on its own has a comma after it.
-/

namespace QueryString

namespace Store

/-- Texts with a comma and a space between neighbours. -/
def listed : List Text → Text
  | [] => []
  | [t] => t
  | t :: next :: rest => t ++ ',' :: ' ' :: listed (next :: rest)

/-- Values in parentheses. -/
def displayValues : List Text → Text
  | [value] => '(' :: (Text.quoted value ++ [',', ')'])
  | values => '(' :: (listed (values.map Text.quoted) ++ [')'])

/-- A name with its values. -/
def displayEntry (entry : Text × List Text) : Text :=
  Text.quoted entry.1 ++ ':' :: ' ' :: displayValues entry.2

/-- Names with their values, in braces. -/
def display (s : Store) : Text :=
  '\x7b' :: (listed (s.entries.map displayEntry) ++ ['\x7d'])

end Store

/-- A request in words. -/
def Request.display (r : Request) : Text :=
  "HTTPRequest(path=".toList ++ Text.quoted r.path ++ ", params=".toList
    ++ r.parameters.display ++ [')']

end QueryString
