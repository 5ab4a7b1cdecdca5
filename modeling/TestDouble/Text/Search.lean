/-!
# Looking for a text in a text

Searching is by characters and is exact: no case is folded and nothing is normalised. The empty
text occurs in every text.
-/

namespace TestDouble.Text

/-- Whether `pattern` occurs somewhere in a list of characters. -/
def occursIn (pattern : List Char) : List Char → Bool
  | [] => pattern.isEmpty
  | c :: rest => pattern.isPrefixOf (c :: rest) || occursIn pattern rest

/-- Whether `text` contains `pattern`. -/
def contains (text pattern : String) : Bool := occursIn pattern.toList text.toList

/-- Whether `text` begins with `start`. -/
def startsWith (text start : String) : Bool := start.toList.isPrefixOf text.toList

/-- `startsWith` is the order of beginnings on lists of characters. -/
theorem startsWith_iff {text start : String} :
    startsWith text start = true ↔ start.toList <+: text.toList := by
  simp [startsWith]

/-- `occursIn` finds exactly the contiguous sublists. -/
theorem occursIn_iff {pattern text : List Char} :
    occursIn pattern text = true ↔ pattern <:+: text := by
  induction text with
  | nil => simp [occursIn]
  | cons c rest ih => simp [occursIn, ih, List.infix_cons_iff]

end TestDouble.Text
