import ClusterLease.Json.Plain
import ClusterLease.Proofs.Program.Refusal

/-!
Values that cannot be written as JSON.

Whatever keeps a value from being written, nothing foresees it.
-/

namespace ClusterLease.Json

open Program (Fails)

/-- Nothing foresees the fault. -/
abbrev Unforeseen (fault : Fault) : Prop := fault.isForeseen = false

/-- A key has a text, or is a mishap. -/
theorem fails_keyText (key : Value) : Fails Unforeseen (keyText key) := by
  cases key <;> first | exact Program.fails_ok _ _ | exact Program.fails_error.2 rfl

/-- A row fails as its items do. -/
theorem fails_mapM {α β : Type} {f : α → Except Fault β} (hf : ∀ item, Fails Unforeseen (f item))
    (items : List α) : Fails Unforeseen (items.mapM f) := by
  induction items with
  | nil => exact Program.fails_ok _ _
  | cons item rest ih =>
    rw [List.mapM_cons]
    exact (hf item).bind fun _ => ih.bind fun _ => Program.fails_ok _ _

/-- Entries fail at their keys only. -/
theorem fails_plainEntries (entries : Entries) : Fails Unforeseen (plainEntries entries) := by
  rw [plainEntries]
  split
  · refine (fails_mapM (fun (key, value) => ?_) _).bind fun _ => Program.fails_ok _ _
    exact (fails_keyText key).bind fun _ => Program.fails_ok _ _
  · exact Program.fails_error.2 rfl

mutual

/-- A value fails only where something in it has no plain form. The recursion is that of the function. -/
theorem fails_plain : (value : Value) → Fails Unforeseen (plain value)
  | .list items => (fails_plainItems items).map _
  | .pair a b => (fails_plain a).bind fun _ => (fails_plain b).bind fun _ => Program.fails_ok _ _
  | .map entries => (fails_plainValues entries).bind fails_plainEntries
  -- Of the dates only those out of range have no text.
  | .moment m => by
    rw [plain]
    cases m.httpText? with
    | some text => exact Program.fails_ok _ _
    | none => exact Program.fails_error.2 rfl
  | .bytes _ | .set _ => Program.fails_error.2 rfl
  | .date _ | .null | .bool _ | .int _ | .real _ | .text _ => Program.fails_ok _ _

theorem fails_plainItems : (items : List Value) → Fails Unforeseen (plainItems items)
  | [] => Program.fails_ok _ _
  | item :: rest => (fails_plain item).bind fun _ => (fails_plainItems rest).bind fun _ => Program.fails_ok _ _

theorem fails_plainValues : (entries : List (Value × Value)) → Fails Unforeseen (plainValues entries)
  | [] => Program.fails_ok _ _
  | (_, value) :: rest =>
    (fails_plain value).bind fun _ => (fails_plainValues rest).bind fun _ => Program.fails_ok _ _

end

end ClusterLease.Json
