import HostHome.Unicode.CodeSet
import HostHome.Unicode.Category
import HostHome.Unicode.Script
import HostHome.Unicode.ScriptExtension
import HostHome.Unicode.Binary
import HostHome.Unicode.Age
import HostHome.Unicode.Break

/-!
# Character properties by name

Find the set of characters that a property name, or a property name with a
value, stands for. Names are compared loosely, as Unicode asks: case, blanks,
hyphens, underscores and a leading "is" do not count.
-/

namespace HostHome.Unicode

/-- Why a property query names no set of characters. -/
inductive PropertyError where
  | unknownProperty
  | unknownValue
  deriving DecidableEq, Repr

/-- Keep what counts in a name: lower-case ASCII without separators. -/
def looseChars : List Char → List Char
  | [] => []
  | c :: rest =>
      if c = ' ' ∨ c = '_' ∨ c = '-' ∨ 0x7F < c.toNat then looseChars rest
      else c.toLower :: looseChars rest

/-- The form in which names are compared. A leading "is" is dropped, but "isc" stays itself. -/
def looseName (name : String) : List Char :=
  match name.toList with
  | first :: second :: rest =>
      if first.toLower = 'i' ∧ second.toLower = 's' then
        let tail := looseChars rest
        if tail = ['c'] then ['i', 's', 'c'] else tail
      else looseChars (first :: second :: rest)
  | short => looseChars short

/-- One of the names, separated by blanks, is the given one. -/
def namedBy (names : String) (loose : List Char) : Bool :=
  (names.splitOn " ").any fun name => looseName name == loose

/-- Find the set that a table lists under a name. -/
def tableSet? (table : List (String × String)) (loose : List Char) : Option CodeSet :=
  (table.find? fun (names, _) => namedBy names loose).map fun (_, text) => CodeSet.ofText text

/-- The union of the sets of some general categories, by their short names. -/
def categoryUnion (shortNames : List String) : CodeSet :=
  CodeSet.ofIntervals ((categories.filter fun (names, _) =>
    shortNames.contains ((names.splitOn " ").headD "")).flatMap fun (_, text) =>
      (CodeSet.ofText text).ranges)

/-- The code points that have a general category other than unassigned. -/
def assigned : CodeSet :=
  CodeSet.ofIntervals (categories.flatMap fun (_, text) => (CodeSet.ofText text).ranges)

/-- The categories that are unions of others, with their members. -/
def categoryGroups : List (String × List String) := [
  ("L Letter", ["Lu", "Ll", "Lt", "Lm", "Lo"]),
  ("LC Cased_Letter", ["Lu", "Ll", "Lt"]),
  ("M Mark Combining_Mark", ["Mn", "Mc", "Me"]),
  ("N Number", ["Nd", "Nl", "No"]),
  ("P Punctuation Punct", ["Pc", "Pd", "Ps", "Pe", "Pi", "Pf", "Po"]),
  ("S Symbol", ["Sm", "Sc", "Sk", "So"]),
  ("Z Separator", ["Zs", "Zl", "Zp"])]

/-- The set of a general category. No character is a surrogate, so that category names no set. -/
def category? (loose : List Char) : Option (Except PropertyError CodeSet) :=
  if loose = "any".toList then some (.ok CodeSet.full)
  else if loose = "assigned".toList then some (.ok assigned)
  else if loose = "ascii".toList then some (.ok ⟨[(0, 0x7F)]⟩)
  else if namedBy "Cn Unassigned" loose then some (.ok assigned.complement)
  else if namedBy "C Other" loose then
    some (.ok (assigned.complement.union (categoryUnion ["Cc", "Cf", "Co"])))
  else if namedBy "Cs Surrogate" loose then some (.error .unknownValue)
  else match categoryGroups.find? fun (names, _) => namedBy names loose with
    | some (_, members) => some (.ok (categoryUnion members))
    | none => (tableSet? categories loose).map .ok

/-- The set of a script. The two script values that no character has name no set. -/
def script? (loose : List Char) : Option (Except PropertyError CodeSet) :=
  if namedBy "Zzzz Unknown Hrkt Katakana_Or_Hiragana" loose then some (.error .unknownValue)
  else (tableSet? scripts loose).map .ok

/-- The set of characters that texts in a script use. -/
def scriptExtension? (loose : List Char) : Option (Except PropertyError CodeSet) :=
  if namedBy "Zzzz Unknown Hrkt Katakana_Or_Hiragana" loose then some (.error .unknownValue)
  else (scripts.find? fun (names, _) => namedBy names loose).map fun (names, text) =>
    let short := looseName ((names.splitOn " ").headD "")
    let added := (tableSet? scriptAdditions short).getD CodeSet.empty
    let removed := (tableSet? scriptRemovals short).getD CodeSet.empty
    .ok (((CodeSet.ofText text).diff removed).union added)

/-- The code points that a version of Unicode or an older one assigned. -/
def assignedBy? (loose : List Char) : Option (Except PropertyError CodeSet) :=
  if namedBy "NA Unassigned" loose then some (.error .unknownValue)
  else
    let older := ages.takeWhile fun (names, _) => !namedBy names loose
    if older.length = ages.length then none
    else some (.ok (CodeSet.ofIntervals ((ages.take (older.length + 1)).flatMap fun (_, text) =>
      (CodeSet.ofText text).ranges)))

/-- The names of properties that are not yes-or-no properties of this library. -/
def otherPropertyNames : String :=
  "cjkAccountingNumeric kAccountingNumeric cjkOtherNumeric kOtherNumeric cjkPrimaryNumeric
   kPrimaryNumeric nv Numeric_Value bmg Bidi_Mirroring_Glyph bpb Bidi_Paired_Bracket cf
   Case_Folding cjkCompatibilityVariant kCompatibilityVariant dm Decomposition_Mapping EqUIdeo
   Equivalent_Unified_Ideograph FC_NFKC FC_NFKC_Closure lc Lowercase_Mapping NFKC_CF
   NFKC_Casefold NFKC_SCF NFKC_Simple_Casefold scf Simple_Case_Folding sfc slc
   Simple_Lowercase_Mapping stc Simple_Titlecase_Mapping suc Simple_Uppercase_Mapping tc
   Titlecase_Mapping uc Uppercase_Mapping cjkIICore kIICore cjkIRG_GSource kIRG_GSource
   cjkIRG_HSource kIRG_HSource cjkIRG_JSource kIRG_JSource cjkIRG_KPSource kIRG_KPSource
   cjkIRG_KSource kIRG_KSource cjkIRG_MSource kIRG_MSource cjkIRG_SSource kIRG_SSource
   cjkIRG_TSource kIRG_TSource cjkIRG_UKSource kIRG_UKSource cjkIRG_USource kIRG_USource
   cjkIRG_VSource kIRG_VSource cjkRSUnicode kRSUnicode Unicode_Radical_Stroke URS isc
   ISO_Comment JSN Jamo_Short_Name na Name na1 Unicode_1_Name Name_Alias scx Script_Extensions
   age Age blk Block sc Script bc Bidi_Class bpt Bidi_Paired_Bracket_Type ccc
   Canonical_Combining_Class dt Decomposition_Type ea East_Asian_Width gc General_Category GCB
   Grapheme_Cluster_Break hst Hangul_Syllable_Type InCB Indic_Conjunct_Break InPC
   Indic_Positional_Category InSC Indic_Syllabic_Category jg Joining_Group jt Joining_Type lb
   Line_Break NFC_QC NFC_Quick_Check NFD_QC NFD_Quick_Check NFKC_QC NFKC_Quick_Check NFKD_QC
   NFKD_Quick_Check nt Numeric_Type SB Sentence_Break vo Vertical_Orientation WB Word_Break CE
   Composition_Exclusion Comp_Ex Full_Composition_Exclusion CWKCF Changes_When_NFKC_Casefolded
   XO_NFC Expands_On_NFC XO_NFD Expands_On_NFD XO_NFKC Expands_On_NFKC XO_NFKD Expands_On_NFKD"

/-- The name is one of the properties that are not yes-or-no properties. -/
def isOtherProperty (loose : List Char) : Bool :=
  (otherPropertyNames.splitOn "\n").any fun line => namedBy line loose && !loose.isEmpty

/-- The set that a single name stands for: a yes-or-no property, a general category or a script.
The names cf, sc and lc mean categories, although they are also short names of properties. -/
def setNamed (name : String) : Except PropertyError CodeSet :=
  let loose := looseName name
  let ambiguous := loose = "cf".toList ∨ loose = "sc".toList ∨ loose = "lc".toList
  if loose.isEmpty then .error .unknownProperty
  else if ¬ ambiguous ∧ isOtherProperty loose then .error .unknownProperty
  else match tableSet? binaryProperties loose with
    | some set => .ok set
    | none => match category? loose with
      | some result => result
      | none => match script? loose with
        | some result => result
        | none => .error .unknownProperty

/-- The set of the characters for which a property has a value. -/
def setWithValue (name value : String) : Except PropertyError CodeSet :=
  let loose := looseName value
  let found :=
    if loose.isEmpty then none
    else if namedBy "gc General_Category" (looseName name) then category? loose
    else if namedBy "sc Script" (looseName name) then script? loose
    else if namedBy "scx Script_Extensions" (looseName name) then scriptExtension? loose
    else if namedBy "age" (looseName name) then assignedBy? loose
    else if namedBy "GCB Grapheme_Cluster_Break" (looseName name) then
      (tableSet? graphemeBreaks loose).map .ok
    else if namedBy "WB Word_Break" (looseName name) then (tableSet? wordBreaks loose).map .ok
    else if namedBy "SB Sentence_Break" (looseName name) then
      (tableSet? sentenceBreaks loose).map .ok
    else none
  match found with
  | some result => result
  | none =>
      let known := !(looseName name).isEmpty && (isOtherProperty (looseName name)
        || binaryProperties.any fun (names, _) => namedBy names (looseName name))
      .error (if known then .unknownValue else .unknownProperty)

end HostHome.Unicode
