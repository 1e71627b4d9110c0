import IndexShards.Text.CodeRange

/-!
# White space, and cutting it off

White space is the Unicode property `White_Space`: twenty-five characters in ten ranges.  The
zero-width characters and the byte order mark are not among them.

## What is here

* `isBlank c` — is `c` white space?
* `trim s` — `s` without the white space at its two ends.
* `isBlankText s` — nothing but white space, or nothing at all.  `isBlankText_iff` says that this
  is the case exactly when `trim` leaves nothing.
-/

set_option autoImplicit false

namespace IndexShards
namespace Text

/-! ## The characters -/

/-- The ranges of the property `White_Space`. -/
def blankRanges : List CodeRange :=
  [⟨0x9, 0xD⟩, ⟨0x20, 0x20⟩, ⟨0x85, 0x85⟩, ⟨0xA0, 0xA0⟩, ⟨0x1680, 0x1680⟩, ⟨0x2000, 0x200A⟩,
    ⟨0x2028, 0x2029⟩, ⟨0x202F, 0x202F⟩, ⟨0x205F, 0x205F⟩, ⟨0x3000, 0x3000⟩]

/-- The character is white space. -/
def isBlank (c : Char) : Bool := inRanges blankRanges c

/-! ## Cutting it off -/

/-- `cs` without the white space it ends in. -/
def trimEnd (cs : List Char) : List Char := (cs.reverse.dropWhile isBlank).reverse

/-- The text without the white space at its two ends. -/
def trim (s : String) : String := String.ofList (trimEnd (s.toList.dropWhile isBlank))

/-- Nothing but white space, or nothing at all. -/
def isBlankText (s : String) : Bool := s.toList.all isBlank

theorem dropWhile_isBlank_eq_nil_iff {cs : List Char} :
    cs.dropWhile isBlank = [] ↔ ∀ c ∈ cs, isBlank c = true := by
  induction cs with
  | nil => simp
  | cons c cs ih => by_cases h : isBlank c = true <;> simp [h, ih]

theorem trimEnd_eq_nil_iff {cs : List Char} : trimEnd cs = [] ↔ ∀ c ∈ cs, isBlank c = true := by
  rw [trimEnd, List.reverse_eq_nil_iff, dropWhile_isBlank_eq_nil_iff]
  simp only [List.mem_reverse]

theorem all_isBlank_dropWhile {cs : List Char} :
    (∀ c ∈ cs.dropWhile isBlank, isBlank c = true) ↔ ∀ c ∈ cs, isBlank c = true := by
  induction cs with
  | nil => simp
  | cons c cs ih => by_cases h : isBlank c = true <;> simp [h, ih]

/-- A text is blank exactly when trimming leaves nothing of it. -/
theorem isBlankText_iff {s : String} : isBlankText s = true ↔ trim s = "" := by
  rw [isBlankText, trim, List.all_eq_true, ← String.toList_inj, String.toList_ofList,
    String.toList_empty, trimEnd_eq_nil_iff, all_isBlank_dropWhile]

end Text
end IndexShards
