/-!
# Finding and splitting

Find a text inside another one, from left to right and without overlaps: count
its occurrences, or split at them.
-/

namespace HostHome.Text

def stripStart? : List Char → List Char → Option (List Char)
  | [], text => some text
  | _ :: _, [] => none
  | expected :: start, c :: text => if expected = c then stripStart? start text else none

theorem length_stripStart?_add {start text rest : List Char}
    (stripped : stripStart? start text = some rest) : rest.length + start.length = text.length := by
  fun_induction stripStart? start text with
  | case1 => simp_all
  | case2 => simp at stripped
  | case3 expected start text ih => simp [← ih stripped]; omega
  | case4 => simp at stripped

/-- The text before the first occurrence of a nonempty delimiter, and the text after it. -/
def splitFirst? (delimiter : List Char) : List Char → Option (List Char × List Char)
  | [] => none
  | c :: text =>
      match stripStart? delimiter (c :: text) with
      | some rest => some ([], rest)
      | none => (splitFirst? delimiter text).map fun (before, rest) => (c :: before, rest)

theorem length_splitFirst?_lt {delimiter text before rest : List Char} (nonempty : delimiter ≠ [])
    (split : splitFirst? delimiter text = some (before, rest)) : rest.length < text.length := by
  induction text generalizing before with
  | nil => simp [splitFirst?] at split
  | cons c text ih =>
      unfold splitFirst? at split
      split at split
      · rename_i found stripped
        have lengths := length_stripStart?_add stripped
        have := List.length_pos_iff.2 nonempty
        simp only [Option.some.injEq, Prod.mk.injEq] at split
        rw [← split.2]
        omega
      · simp only [Option.map_eq_some_iff, Prod.mk.injEq] at split
        obtain ⟨⟨inner, found⟩, innerSplit, _, sameRest⟩ := split
        simp only at sameRest
        have shorter := ih (sameRest ▸ innerSplit)
        simp only [List.length_cons]
        omega

/-- The fields between the occurrences of a delimiter. An empty delimiter occurs nowhere. -/
def fieldsOf (delimiter : List Char) (text : List Char) : List (List Char) :=
  if _nonempty : delimiter = [] then [text]
  else match _split : splitFirst? delimiter text with
    | none => [text]
    | some (before, rest) => before :: fieldsOf delimiter rest
termination_by text.length
decreasing_by exact length_splitFirst?_lt _nonempty _split

/-- Count the occurrences of a text that do not overlap. An empty text occurs nowhere. -/
def countIn (needle : List Char) (text : List Char) : Nat :=
  if _nonempty : needle = [] then 0
  else match _split : splitFirst? needle text with
    | none => 0
    | some (_, rest) => countIn needle rest + 1
termination_by text.length
decreasing_by exact length_splitFirst?_lt _nonempty _split

def countOccurrences (haystack needle : String) : Nat := countIn needle.toList haystack.toList

/-- Split a text at every occurrence of a delimiter, keeping empty fields. -/
def splitOn (haystack delimiter : String) : List String :=
  (fieldsOf delimiter.toList haystack.toList).map String.ofList

/-- Split a text at the first occurrence of a character. -/
def splitAtChar? (separator : Char) (text : String) : Option (String × String) :=
  (splitFirst? [separator] text.toList).map fun (before, after) =>
    (String.ofList before, String.ofList after)

end HostHome.Text
