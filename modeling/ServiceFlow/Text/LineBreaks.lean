/-!
# Line breaks of text files

A text file may end its lines in the manner of any system; reading turns each line end into a
line feed.
-/

namespace ServiceFlow.Text

/-- The text with every carriage return, alone or before a line feed, read as one line feed. -/
def unifyLineBreaks : List Char → List Char
  | [] => []
  | '\r' :: '\n' :: rest => '\n' :: unifyLineBreaks rest
  | '\r' :: rest => '\n' :: unifyLineBreaks rest
  | c :: rest => c :: unifyLineBreaks rest

end ServiceFlow.Text
