import ConditionLang.Text.Blank

/-!
# Splitting a text at a separator

The parts of a text between the occurrences of a separator, found from left to right. Joining the parts with the
separator gives the text back.
-/

namespace ConditionLang

namespace Text

/-- Parts of a text, the first of which has started with the characters `part`, given in reverse. A separator starts with
`first` and goes on with `rest`. -/
def splitAfter (first : Char) (rest : List Char) (part : List Char) (s : List Char) : List (List Char) :=
  match s with
  | [] => [part.reverse]
  | c :: s =>
    if c = first ∧ rest.isPrefixOf s then part.reverse :: splitAfter first rest [] (s.drop rest.length)
    else splitAfter first rest (c :: part) s
termination_by s.length
decreasing_by
  all_goals simp only [List.length_cons, List.length_drop]
  all_goals omega

/-- The parts of a text between the occurrences of a separator; without a separator, its characters. -/
def split (separator s : List Char) : List (List Char) :=
  match separator with
  | [] => s.map ([·])
  | first :: rest => splitAfter first rest [] s

end Text

end ConditionLang
