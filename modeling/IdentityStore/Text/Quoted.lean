/-!
# Quoted text

A text between double quotes, with the characters escaped that would end it or break the line.

**Limit.** The escapes by code point, such as `\u{7f}`, are left out. They belong to the characters
that are not printable and to those that extend the one before them, and which ones these are
changes with the version of Unicode. Here such characters stand as they are.
-/

namespace IdentityStore.Text

/-- The letter that stands behind a backslash for a character, when the character is escaped:
quote, backslash, tab, line feed, carriage return and the null character. -/
def escapeLetter? (c : Char) : Option Char :=
  if c = '"' then some '"'
  else if c = '\\' then some '\\'
  else if c = '\t' then some 't'
  else if c = '\n' then some 'n'
  else if c = '\r' then some 'r'
  else if c = '\x00' then some '0'
  else none

def escape (c : Char) : List Char :=
  match escapeLetter? c with
  | some e => ['\\', e]
  | none => [c]

def quoted (s : String) : String := "\"" ++ .ofList (s.toList.flatMap escape) ++ "\""

end IdentityStore.Text
