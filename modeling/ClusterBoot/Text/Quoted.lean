/-
  ClusterBoot.Text.Quoted
  ────────────────────────────────
  **A TEXT BETWEEN QUOTES, FOR MESSAGES.**

  Messages show a text between double quotes, with the quote and the
  backslash escaped, the common controls by their letters, and every
  character that would not be visible by its number.
-/
import ClusterBoot.Text.Hex
import ClusterBoot.Text.Unprintable

namespace ClusterBoot.Text

/-- How a message shows one character of a quoted text. -/
def quoteChar (c : Char) : List Char :=
  if c = '"' then ['\\', '"']
  else if c = '\\' then ['\\', '\\']
  else if c = '\n' then ['\\', 'n']
  else if c = '\t' then ['\\', 't']
  else if c = '\r' then ['\\', 'r']
  else if c = '\x00' then ['\\', '0']
  else if isUnprintable c then
    ['\\', 'u', Char.ofNat 0x7B] ++ Hex.ofNat c.toNat ++ [Char.ofNat 0x7D]
  else [c]

/-- A text between double quotes, as messages show it. -/
def quote (s : String) : String :=
  String.ofList (['"'] ++ s.toList.flatMap quoteChar ++ ['"'])

end ClusterBoot.Text
