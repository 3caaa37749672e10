import CurlRequest.Text

/-!
# Quoting for a POSIX shell

A word is written between single quotes, where a shell takes everything literally up to the next
single quote.  A single quote inside the word closes the quotes, stands between double quotes, and
opens them again.
-/

namespace CurlRequest.Shell

/-- The single quote. -/
def singleQuote : CodePoint := '\x27'

/-- The double quote. -/
def doubleQuote : CodePoint := '\x22'

/-- A code point inside single quotes. -/
def quoteOne (c : CodePoint) : Text :=
  if c = singleQuote then [singleQuote, doubleQuote, singleQuote, doubleQuote, singleQuote] else [c]

/-- A text as one word of a command. -/
def quote (t : Text) : Text :=
  singleQuote :: (t.flatMap quoteOne ++ [singleQuote])

end CurlRequest.Shell
