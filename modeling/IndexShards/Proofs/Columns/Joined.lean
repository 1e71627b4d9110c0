import IndexShards.Proofs.Schema
import IndexShards.Proofs.Text.Tight

/-!
# Accepted lists, written out again

Of an accepted list only the entries are kept.  Joined with commas they make a list again, though
not the text that was given: the white space and the capitals are gone.  It is accepted too, with
the same entries, because an entry is kept in a form that reading a list leaves alone.  It holds no
comma, so it is not cut; it is tight, so nothing is trimmed off; and it is in lower case.

## What is here

* `IsKept c` — the text is in that form.  `isKept_of_mem_columnNames` says that entries are.
* `columnNames_commaJoined` — **texts in that form are the entries of the list that they make**.
* `validateColumns_commaJoined` — **an accepted list is accepted again when it is written out**.
-/

set_option autoImplicit false

namespace IndexShards

open Std Text

/-! ## Entries -/

/-- The text is an entry as it is kept: reading it in a list changes nothing about it. -/
structure IsKept (c : String) : Prop where
  noComma : ',' ∉ c.toList
  tight : Tight c.toList
  lowercase_eq : lowercase c = c

theorem isKept_of_mem_columnNames {raw c : String} (h : c ∈ columnNames raw) : IsKept c := by
  obtain ⟨piece, hpiece, rfl⟩ := List.mem_map.1 h
  refine ⟨?_, ?_, lowercase_lowercase _⟩
  · rw [toList_lowercase]
    intro hcomma
    have htrimmed := mem_of_mem_trim (mem_of_mem_lowerChars hcomma isSeparator_comma)
    exact not_mem_of_mem_commaPieces hpiece htrimmed
  · rw [toList_lowercase]
    exact tight_lowerChars (tight_trim piece)

/-- A list always has an entry, be it an empty one. -/
theorem columnNames_ne_nil (raw : String) : columnNames raw ≠ [] :=
  mt List.map_eq_nil_iff.1 (commaPieces_ne_nil raw)

section Joined

variable {cs : List String}

/-- **Texts in the form of entries are the entries of the list that they make.** -/
theorem columnNames_commaJoined (hne : cs ≠ []) (h : ∀ c ∈ cs, IsKept c) :
    columnNames (commaJoined cs) = cs := by
  rw [columnNames, commaPieces_commaJoined hne fun c hc => (h c hc).noComma]
  have hsame : ∀ c ∈ cs, lowercase (trim c) = id c := by
    intro c hc
    rw [trim_eq_self_iff.2 (h c hc).tight, (h c hc).lowercase_eq, id]
  rw [List.map_congr_left hsame, List.map_id]

/-- A list that begins with an entry that is not empty is not blank. -/
theorem isBlankText_commaJoined (hne : cs ≠ []) (h : ∀ c ∈ cs, IsKept c) (hempty : "" ∉ cs) :
    isBlankText (commaJoined cs) = false := by
  obtain ⟨c, rest, rfl⟩ := List.exists_cons_of_ne_nil hne
  have hc : c.toList ≠ [] := fun hnil => hempty (by simp [String.toList_eq_nil_iff.1 hnil])
  obtain ⟨a, as, has⟩ := List.exists_cons_of_ne_nil hc
  have hblank : isBlank a = false := (h c List.mem_cons_self).tight.1 a (by rw [has]; rfl)
  -- the list begins with its first entry, so this character is in it
  have hstart : [c.toList] <+: (c :: rest).map String.toList := by simp
  have hmem : a ∈ (commaJoined (c :: rest)).toList := by
    rw [commaJoined, String.toList_ofList]
    refine (joined_prefix_joined hstart).subset ?_
    rw [joined, has]
    exact List.mem_cons_self
  rw [isBlankText, List.all_eq_false]
  exact ⟨a, hmem, by simp [hblank]⟩

end Joined

/-! ## Lists -/

/-- **An accepted list is accepted again when it is written out.**  Its entries, with commas between
them, are the value of a property that is accepted for the same table and catalog, with the same
entries in the same order.  An entry holds no comma, is not empty, neither begins nor ends in white
space, and is in lower case. -/
theorem validateColumns_commaJoined {key : String} {properties : ExtTreeMap String String}
    {table : TableId} {lookup : SchemaLookup} {columns : List String}
    (h : validateColumns key properties table lookup = .ok columns) :
    (∀ (key' : String) (properties' : ExtTreeMap String String),
      properties'[key']? = some (commaJoined columns) →
        validateColumns key' properties' table lookup = .ok columns) ∧
    ∀ c ∈ columns, ',' ∉ c.toList ∧ c ≠ "" ∧ Tight c.toList ∧ lowercase c = c := by
  obtain ⟨raw, -, -, hraw, hempty, hnodup, hfit⟩ := validateColumns_eq_ok_iff.1 h
  have hne : columns ≠ [] := hraw ▸ columnNames_ne_nil raw
  have hkept : ∀ c ∈ columns, IsKept c := fun c hc => isKept_of_mem_columnNames (hraw ▸ hc)
  constructor
  · intro key' properties' hjoined
    exact validateColumns_eq_ok_iff.2 ⟨_, hjoined, isBlankText_commaJoined hne hkept hempty,
      (columnNames_commaJoined hne hkept).symm, hempty, hnodup, hfit⟩
  · intro c hc
    obtain ⟨hcomma, htight, hlower⟩ := hkept c hc
    exact ⟨hcomma, fun he => hempty (he ▸ hc), htight, hlower⟩

/-- One entry ends in a sigma, another begins with a capital that becomes two characters, and wide
white space stands around them. -/
theorem validateColumns_commaJoined_of_capitals :
    let table : TableId := ⟨"t", ⟨"/t"⟩⟩
    let schema := TableSchema.ofColumns "T" [.ofStrings "İd", .ofStrings "ΟΔΟΣ"]
    let properties := (∅ : ExtTreeMap String String).insert "k" "\u3000ΟΔΟΣ ,\u2003İD"
    let columns := ["οδος", "i\u0307d"]
    validateColumns "k" properties table schema.resolve = .ok columns ∧
      validateColumns "k" (properties.insert "k" "οδος,i\u0307d") table schema.resolve =
        .ok columns := by
  intro table schema properties columns
  have hfirst : schema.resolve table "οδος" = some (.ofStrings "ΟΔΟΣ") := by decide +kernel
  have hsecond : schema.resolve table "i\u0307d" = some (.ofStrings "İd") := by decide +kernel
  have h : validateColumns "k" properties table schema.resolve = .ok columns := by
    refine validateColumns_eq_ok_iff.2 ⟨"\u3000ΟΔΟΣ ,\u2003İD", by decide +kernel,
      by decide +kernel, by decide +kernel, by decide, by decide, ?_⟩
    exact List.forall_mem_cons.2 ⟨⟨_, hfirst, rfl⟩, List.forall_mem_singleton.2 ⟨_, hsecond, rfl⟩⟩
  refine ⟨h, (validateColumns_commaJoined h).1 _ _ ?_⟩
  rw [ExtTreeMap.getElem?_insert_self]
  decide +kernel

end IndexShards
