import HostHome.Proofs.Config.Directive
import HostHome.Proofs.Config.WrittenLines

/-!
# Transfer files that are written and read

A directive is written as its letter, a separator of a single byte and its path.  A
path that holds no `#`, does not begin with a slash and does not end in a blank is
read as it was written, wherever its line stands in a file.
-/

namespace HostHome.Config

open HostHome.Unicode (isBlank)

structure WrittenDirective where
  kind : TransferKind
  separator : Char
  path : String
  ascii : separator.toNat < 128
  separator_ne_hash : separator ≠ '#'
  separator_ne_feed : separator ≠ '\n'
  nonempty : path ≠ ""
  uncommented : '#' ∉ path.toList
  inLine : '\n' ∉ path.toList
  last : ∀ c ∈ path.toList.getLast?, isBlank c = false
  head : path.toList.head? ≠ some '/'
  named : (Path.ofText path).fileName? ≠ none

namespace WrittenDirective

variable (written : WrittenDirective) (number : Nat)

def chars : List Char := written.kind.letter :: written.separator :: written.path.toList

def directive : Directive := ⟨written.kind, written.path, number⟩

theorem toList_path_ne_nil : written.path.toList ≠ [] :=
  mt String.toList_eq_nil_iff.1 written.nonempty

theorem isEntryText_chars : IsEntryText written.chars := by
  have letter : '\n' ≠ written.kind.letter ∧ '#' ≠ written.kind.letter := by
    cases written.kind <;> decide
  constructor
  · simp [chars, letter.1, Ne.symm written.separator_ne_feed, written.inLine]
  · simp [chars, letter.2, Ne.symm written.separator_ne_hash, written.uncommented]
  · exact exists_getLast?_append [_, _] written.toList_path_ne_nil written.last

theorem hasByteSeparator : HasByteSeparator ⟨number, String.ofList written.chars⟩ := by
  have single : written.separator.utf8Size = 1 := by
    rw [Char.utf8Size_eq_one_iff, UInt32.le_iff_toNat_le]
    exact Nat.le_of_lt_succ written.ascii
  simpa [HasByteSeparator, chars] using single

theorem not_hasSlash : ¬ HasSlash ⟨number, String.ofList written.chars⟩ := by
  simpa [HasSlash, chars] using written.head

theorem states : States ⟨number, String.ofList written.chars⟩ (written.directive number) := by
  have long : 0 < written.path.toList.length := List.length_pos_iff.2 written.toList_path_ne_nil
  have whole : statedPath written.chars = written.path.toList := by
    simp [statedPath, chars, written.head]
  constructor
  · simp only [String.toList_ofList, chars, List.length_cons]
    omega
  · simp [chars, directive]
  · rw [String.toList_ofList, whole]
    rfl
  · exact written.nonempty
  · exact written.named
  · rfl

theorem ofLine_chars (file : Path) :
    Directive.ofLine file ⟨number, String.ofList written.chars⟩ =
      (some (written.directive number), []) := by
  rw [ofLine_of_read (read_of_states (written.states number) (written.hasByteSeparator number)),
    if_neg (written.not_hasSlash number)]
  rfl

end WrittenDirective

def directiveForm : EntryForm WrittenDirective where
  chars := WrittenDirective.chars
  isEntryText := WrittenDirective.isEntryText_chars

/-- A file of directives is read as they were written: each with its kind and its path, in their
order, with the number of its line, and nothing is reported. -/
theorem parseDirectives_content (file : Path)
    (lines : WrittenLines .firstColumn WrittenDirective) :
    parseDirectives file (WrittenLines.content directiveForm lines) =
      ((WrittenLines.numberedEntries lines).map fun (written, number) =>
        ⟨written.kind, written.path, number⟩, []) := by
  have each (entry : WrittenDirective × Nat) :
      Directive.ofLine file ⟨entry.2, String.ofList (directiveForm.chars entry.1)⟩ =
        (some (entry.1.directive entry.2), []) :=
    entry.1.ofLine_chars entry.2 file
  have silent (entries : List (WrittenDirective × Nat)) :
      entries.flatMap (fun _ => ([] : List Diagnostic)) = [] := by simp
  unfold parseDirectives directiveLines readDirectives
  rw [meaningfulLines_content, List.filterMap_map, List.flatMap_map]
  simp only [Function.comp_def, each, List.filterMap_eq_map', silent]
  rfl

/-- A comment, a blank line, and two directives: one with a comment behind it, and one with a letter
as the separator and a path that begins with a blank. -/
def sampleDirectives : WrittenLines .firstColumn WrittenDirective :=
  let link : WrittenDirective := ⟨.symbolicLink, '\t', ".ssh", by decide, by decide, by decide,
    by decide, by decide, by decide, by simp; decide, by decide, by decide⟩
  let copy : WrittenDirective := ⟨.copy, 'x', " mail dir/", by decide, by decide, by decide,
    by decide, by decide, by decide, by simp; decide, by decide, by decide⟩
  [(.comment .none ⟨" links".toList, by decide⟩ fun _ => rfl, .feed),
    (.blank .space, .returnAndFeed),
    (.entry link .space (some ⟨"# keys".toList, by decide⟩), .returnAndFeed),
    (.entry copy .space none, .feed)]

theorem parseDirectives_sampleDirectives :
    let text := "# links\n \r\nL\t.ssh ## keys\r\nTx mail dir/ \n"
    WrittenLines.content directiveForm sampleDirectives = text ∧
      parseDirectives (.ofText "/transfer") text =
        ([⟨.symbolicLink, ".ssh", 3⟩, ⟨.copy, " mail dir/", 4⟩], []) := by
  have spelled : WrittenLines.content directiveForm sampleDirectives =
      "# links\n \r\nL\t.ssh ## keys\r\nTx mail dir/ \n" := by
    decide
  have parsed := parseDirectives_content (.ofText "/transfer") sampleDirectives
  rw [spelled] at parsed
  exact ⟨spelled, parsed⟩

end HostHome.Config
