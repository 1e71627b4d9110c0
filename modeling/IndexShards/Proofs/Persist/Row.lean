import IndexShards.Persist.Row
import IndexShards.Proofs.Persist.Codec

/-!
# Reading back values and rows

A record is stored as an object with an array of arrays in it, so every record takes three of the
levels that a reader may enter, and an empty one takes two.  There is no number of levels that is
enough for all values.  What can be shown is exact all the same: a value is read back if its JSON
form has no more levels than the reader may enter, and it is not read at all if it has more.

Doubles are left out here.  One that is no finite number is not read back, because it is written as
`null`.

## What is here

* `Value.hasDouble` — the value is a double, or a double lies in it.
* `decodeValue_encodeValue`, `decode_row` — **values and rows are read back if they are not nested
  too deep**, and not at all otherwise.
* `read?_write_value`, `read?_write_row` — the same for their texts.
-/

set_option autoImplicit false

namespace IndexShards

open Std Decoder

/-! ## Values without doubles -/

namespace Value

mutual

/-- The value is a double, or a double lies in it. -/
def hasDouble : Value → Bool
  | double _ => true
  | record fields => fieldsHaveDouble fields
  | _ => false

/-- A double lies in one of the fields. -/
def fieldsHaveDouble : List (String × Value) → Bool
  | [] => false
  | f :: fs => fieldHasDouble f || fieldsHaveDouble fs

/-- A double lies in the field. -/
def fieldHasDouble : String × Value → Bool
  | (_, v) => hasDouble v

end

end Value

/-- A whole number is read back. -/
theorem int_int (room : Nat) (n : Int) : int room (.int n) = some n := by
  obtain ⟨t, ht, hn⟩ := Json.exists_ofChars?_toString n
  rw [JsonValue.int, int, ht, Option.bind_some, hn]

theorem levels_record_singleton (name : String) (v : JsonValue) :
    (JsonValue.record [(name, v)]).levels = v.levels + 1 := by
  simp [JsonValue.record, JsonValue.levels, JsonValue.fieldLevels]

/-- The content of a plain value is not nested, and read wherever the object that names its kind may
be entered. -/
theorem decodeValue_plain {kind : String} {v : JsonValue} {a : Value} (hkind : kind ≠ "Record")
    (hlevels : v.levels = 0) (hplain : ∀ room, decodePlain kind room v = some a) (room : Nat) :
    decodeValue room (.record [(kind, v)]) =
      if (JsonValue.record [(kind, v)]).levels ≤ room then some a else none := by
  rw [levels_record_singleton, hlevels]
  cases room with
  | zero => rfl
  | succ room =>
    rw [if_pos (Nat.succ_le_succ (Nat.zero_le room)), JsonValue.record, List.map_cons, List.map_nil,
      decodeValue.eq_def]
    simp only [if_neg hkind, hplain room]

mutual

/-- **A value without doubles is read back if it is not nested too deep, and not at all
otherwise.** -/
theorem decodeValue_encodeValue : ∀ (v : Value) (room : Nat), v.hasDouble = false →
    decodeValue room (encodeValue v) = if (encodeValue v).levels ≤ room then some v else none
  | .boolean b, room, _ => decodeValue_plain (by decide) rfl (fun _ => rfl) room
  | .int n, room, _ => by
    refine decodeValue_plain (by decide) rfl (fun room => ?_) room
    simp [decodePlain, int_int, int32?_toInt]
  | .long n, room, _ => by
    refine decodeValue_plain (by decide) rfl (fun room => ?_) room
    simp [decodePlain, int_int, int64?_toInt]
  | .text s, room, _ => decodeValue_plain (by decide) rfl (fun _ => rfl) room
  | .record fields, room, hdouble => by
    have hlevels : (encodeValue (.record fields)).levels =
        JsonValue.itemLevels (encodeFields fields) + 2 := by
      rw [encodeValue, levels_record_singleton, JsonValue.levels]
    rw [hlevels, encodeValue]
    match room with
    | 0 | 1 => rfl
    | 2 =>
      cases fields with
      | nil => rfl
      | cons f fields =>
        obtain ⟨name, v⟩ := f
        rw [if_neg]
        · rfl
        · simp [encodeFields, encodeField, JsonValue.itemLevels, JsonValue.levels]
    | room + 3 =>
      have hfields := mapM_decodeField_encodeFields fields room hdouble
      show ((encodeFields fields).mapM (decodeField (decodeValue room))).map Value.record = _
      rw [hfields]
      simp only [Nat.add_le_add_iff_right]
      split <;> rfl

theorem mapM_decodeField_encodeFields : ∀ (fields : List (String × Value)) (room : Nat),
    Value.fieldsHaveDouble fields = false →
      (encodeFields fields).mapM (decodeField (decodeValue room)) =
        if JsonValue.itemLevels (encodeFields fields) ≤ room + 1 then some fields else none
  | [], _, _ => rfl
  | f :: fields, room, hdouble => by
    rw [Value.fieldsHaveDouble, Bool.or_eq_false_iff] at hdouble
    rw [encodeFields, List.mapM_cons, decodeField_encodeField f room hdouble.1,
      mapM_decodeField_encodeFields fields room hdouble.2, JsonValue.itemLevels]
    by_cases hf : (encodeField f).levels ≤ room + 1
    · by_cases hfs : JsonValue.itemLevels (encodeFields fields) ≤ room + 1
      · rw [if_pos hf, if_pos hfs, if_pos (Nat.max_le.2 ⟨hf, hfs⟩)]
        rfl
      · rw [if_pos hf, if_neg hfs, if_neg fun h => hfs (Nat.max_le.1 h).2]
        rfl
    · rw [if_neg hf, if_neg fun h => hf (Nat.max_le.1 h).1]
      rfl

theorem decodeField_encodeField : ∀ (f : String × Value) (room : Nat),
    Value.fieldHasDouble f = false → decodeField (decodeValue room) (encodeField f) =
      if (encodeField f).levels ≤ room + 1 then some f else none
  | (name, v), room, hdouble => by
    have hlevels : (encodeField (name, v)).levels = (encodeValue v).levels + 1 := by
      simp [encodeField, JsonValue.levels, JsonValue.itemLevels, JsonValue.text]
    rw [hlevels, encodeField]
    show (decodeValue room (encodeValue v)).map (name, ·) = _
    rw [decodeValue_encodeValue v room hdouble]
    simp only [Nat.add_le_add_iff_right]
    split <;> rfl

end

mutual

theorem isWritten_encodeValue : ∀ v : Value, v.hasDouble = false → (encodeValue v).IsWritten
  | .boolean b, _ => by simp [encodeValue]
  | .int n, _ => by simp [encodeValue]
  | .long n, _ => by simp [encodeValue]
  | .text s, _ => by simp [encodeValue]
  | .record fields, hdouble => by
    simp only [encodeValue, JsonValue.isWritten_record, List.forall_mem_singleton,
      JsonValue.isWritten_array]
    exact isWritten_encodeFields fields hdouble

theorem isWritten_encodeFields : ∀ fields : List (String × Value),
    Value.fieldsHaveDouble fields = false → ∀ f ∈ encodeFields fields, f.IsWritten
  | [], _ => by simp [encodeFields]
  | f :: fields, hdouble => by
    rw [Value.fieldsHaveDouble, Bool.or_eq_false_iff] at hdouble
    exact List.forall_mem_cons.2
      ⟨isWritten_encodeField f hdouble.1, isWritten_encodeFields fields hdouble.2⟩

theorem isWritten_encodeField : ∀ f : String × Value,
    Value.fieldHasDouble f = false → (encodeField f).IsWritten
  | (name, v), hdouble => by
    simpa [encodeField] using isWritten_encodeValue v hdouble

end


/-- An object has no more than `n` levels below its own if none of its fields has more. -/
theorem levels_record_le_iff {fields : List (String × JsonValue)} {n : Nat} :
    (JsonValue.record fields).levels ≤ n + 1 ↔ ∀ f ∈ fields, f.2.levels ≤ n := by
  rw [JsonValue.record, JsonValue.levels, Nat.add_le_add_iff_right]
  induction fields with
  | nil => simp [JsonValue.fieldLevels]
  | cons f fields ih =>
    rw [List.map_cons, JsonValue.fieldLevels, Nat.max_le, ih, List.forall_mem_cons]

/-- No double lies in a value of the row. -/
def Row.HasNoDouble (r : Row) : Prop := ∀ e ∈ r.fields.toList, e.2.hasDouble = false

/-- The values of a row are read back if none of them is nested too deep. -/
theorem decode_fields {r : Row} (hdouble : r.HasNoDouble) (room : Nat) :
    decode room (encode r.fields) =
      if (encode r.fields).levels ≤ room then some r.fields else none := by
  cases room with
  | zero => rfl
  | succ room =>
    have hvalue : ∀ e ∈ r.fields.toList, decode room (encode e.2) =
        if decide ((encode e.2).levels ≤ room) then some e.2 else none := fun e he => by
      simp only [decide_eq_true_eq]
      exact decodeValue_encodeValue e.2 room (hdouble e he)
    have hlevels : (encode r.fields).levels ≤ room + 1 ↔
        (r.fields.toList.all fun e => decide ((encode e.2).levels ≤ room)) = true := by
      rw [List.all_eq_true]
      simp only [decide_eq_true_eq]
      exact levels_record_le_iff.trans List.forall_mem_map
    rw [decode_map (P := fun v => decide ((encode v).levels ≤ room)) hvalue]
    exact if_congr hlevels.symm rfl rfl

/-- **A row without doubles is read back if it is not nested too deep, and not at all
otherwise.** -/
theorem decode_row {r : Row} (hdouble : r.HasNoDouble) (room : Nat) :
    decode room (encode r) = if (encode r).levels ≤ room then some r else none := by
  have hlevels : (encode r).levels = (encode r.fields).levels + 1 :=
    levels_record_singleton "fields" (encode r.fields)
  cases room with
  | zero => rfl
  | succ room =>
    have hrow : decode (room + 1) (encode r) =
        (decode room (encode r.fields)).bind fun fields => some (Row.mk fields) := by
      have hmembers : members ["fields"] (room + 1) (encode r) =
          some (room, [some (encode r.fields)]) := members_record rfl (by simp) room
      show (members ["fields"] (room + 1) (encode r)).bind _ = _
      rw [hmembers]
      rfl
    rw [hrow, decode_fields hdouble, hlevels]
    simp only [Nat.add_le_add_iff_right]
    split <;> rfl

/-- A row without doubles is read back from its text if the text is not nested too deep. -/
theorem read?_write_row {r : Row} (hdouble : r.HasNoDouble) :
    read? (write r) = if (encode r).levels ≤ depthLimit then some r else none := by
  have hfields : (encode r.fields).IsWritten := JsonValue.isWritten_record.2
    (List.forall_mem_map.2 fun e he => isWritten_encodeValue e.2 (hdouble e he))
  have hwritten : (encode r).IsWritten :=
    JsonValue.isWritten_record.2 (List.forall_mem_singleton.2 hfields)
  rw [read?_write_eq_decode hwritten, decode_row hdouble]

end IndexShards
