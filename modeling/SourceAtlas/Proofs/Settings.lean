/-
Which settings files give settings. A document gives them unless a value that
is wanted as a text has none: text can be given to all values but integers of
too many digits and what is nested too deep. A settings file fails on bytes
that are no text, on a text that the reader breaks down on, and on such a
document; a malformed text counts as one that says nothing.

The reader of documents and the bound on nesting come with the host, and are
any.

Consumed by the theory of runs that end early.
-/
import SourceAtlas.Settings
import SourceAtlas.Proofs.Except

namespace SourceAtlas

-- =============================================================== values

namespace Toml

variable {depth : Nat} {v : Toml}

/-- Values that can be written inside another one: nested up to a depth, with
no integer of too many digits. -/
inductive Writable : Nat → Toml → Prop where
  | boolean (depth : Nat) (b : Bool) : Writable (depth + 1) (.boolean b)
  | integer (depth : Nat) {n : Int}
      (h : (Text.ofNat n.natAbs).length ≤ Text.maxDigits) :
      Writable (depth + 1) (.integer n)
  | real (depth : Nat) (r : RealNumber) : Writable (depth + 1) (.real r)
  | string (depth : Nat) (t : Text) : Writable (depth + 1) (.string t)
  | moment (depth : Nat) (m : Moment) : Writable (depth + 1) (.moment m)
  | array {depth : Nat} {items : List Toml}
      (h : ∀ item ∈ items, Writable depth item) :
      Writable (depth + 1) (.array items)
  | table {depth : Nat} {entries : List (Text × Toml)}
      (h : ∀ entry ∈ entries, Writable depth entry.2) :
      Writable (depth + 1) (.table entries)

mutual

/-- Nothing keeps a value from being written exactly if it can be. -/
theorem refusal?_eq_none_iff : ∀ (depth : Nat) (v : Toml),
    refusal? depth v = none ↔ Writable depth v
  | 0, v => by
      refine iff_of_false ?_ (fun h => by cases h)
      rw [refusal?]
      exact nofun
  | depth + 1, .boolean b => iff_of_true rfl (.boolean depth b)
  | depth + 1, .real r => iff_of_true rfl (.real depth r)
  | depth + 1, .string t => iff_of_true rfl (.string depth t)
  | depth + 1, .moment m => iff_of_true rfl (.moment depth m)
  | depth + 1, .integer n => by
      rw [refusal?]
      split
      case isTrue hlong =>
        refine iff_of_false nofun ?_
        rintro ⟨-, hshort⟩
        omega
      case isFalse hshort =>
        exact iff_of_true rfl (.integer depth (Nat.not_lt.mp hshort))
  | depth + 1, .array items => by
      rw [refusal?, itemsRefusal?_eq_none_iff depth items]
      exact ⟨.array, fun h => by cases h with | array h => exact h⟩
  | depth + 1, .table entries => by
      rw [refusal?, entriesRefusal?_eq_none_iff depth entries]
      exact ⟨.table, fun h => by cases h with | table h => exact h⟩

/-- So for items: all of them can be written. -/
theorem itemsRefusal?_eq_none_iff : ∀ (depth : Nat) (items : List Toml),
    itemsRefusal? depth items = none ↔ ∀ item ∈ items, Writable depth item
  | depth, [] => iff_of_true (by rw [itemsRefusal?]) (List.forall_mem_nil _)
  | depth, item :: rest => by
      rw [itemsRefusal?, Option.or_eq_none_iff, List.forall_mem_cons,
        refusal?_eq_none_iff depth item, itemsRefusal?_eq_none_iff depth rest]

/-- And for entries, by their values. -/
theorem entriesRefusal?_eq_none_iff :
    ∀ (depth : Nat) (entries : List (Text × Toml)),
      entriesRefusal? depth entries = none
        ↔ ∀ entry ∈ entries, Writable depth entry.2
  | depth, [] => iff_of_true (by rw [entriesRefusal?]) (List.forall_mem_nil _)
  | depth, (key, value) :: rest => by
      rw [entriesRefusal?, Option.or_eq_none_iff, List.forall_mem_cons,
        refusal?_eq_none_iff depth value,
        entriesRefusal?_eq_none_iff depth rest]

end

end Toml

-- ============================================================= settings

namespace Settings

variable {host : Host} {root : Node} {depth : Nat}

/-- The settings file can be opened and has this text. -/
def HasFile (root : Node) (text : Text) : Prop :=
  ∃ content raw, root.bytesAt? [fileName] = some content
    ∧ Utf8.decode? content = some raw ∧ text = Text.normalizeNewlines raw

end Settings

end SourceAtlas
