/-
Computations that give a value or an error: when a sequence of them, or one
for each element of a list, gives a value.

Consumed by every module that takes a sequence of steps apart.
-/

namespace SourceAtlas

variable {ε δ α β : Type}

instance instDecidableEqExcept [DecidableEq ε] [DecidableEq α] :
    DecidableEq (Except ε α)
  | .ok a, .ok b => decidable_of_iff (a = b) ⟨congrArg Except.ok, Except.ok.inj⟩
  | .error a, .error b =>
    decidable_of_iff (a = b) ⟨congrArg Except.error, Except.error.inj⟩
  | .ok _, .error _ => isFalse nofun
  | .error _, .ok _ => isFalse nofun

/-- Another name for the error does not touch the value. -/
theorem mapError_eq_ok_iff {f : ε → δ} {x : Except ε α} {a : α} :
    x.mapError f = .ok a ↔ x = .ok a := by
  cases x with
  | error e =>
      constructor
      · intro h
        cases h
      · intro h
        cases h
  | ok b =>
      constructor
      · intro h
        injection h with h
        rw [h]
      · intro h
        injection h with h
        rw [h]
        rfl

/-- A sequence of two computations gives what the second one gives. -/
theorem bind_eq_ok_iff {x : Except ε α} {f : α → Except ε β} {b : β} :
    x >>= f = .ok b ↔ ∃ a, x = .ok a ∧ f a = .ok b := by
  cases x with
  | error e => simp [bind, Except.bind]
  | ok a => simp [bind, Except.bind]

/-- What is done with the value in the end does not matter. -/
theorem exists_bind_pure_eq_ok_iff {x : Except ε α} {f : α → β} :
    (∃ b, (x >>= fun a => pure (f a)) = .ok b) ↔ ∃ a, x = .ok a := by
  constructor
  · rintro ⟨b, h⟩
    obtain ⟨a, hx, -⟩ := bind_eq_ok_iff.mp h
    exact ⟨a, hx⟩
  · rintro ⟨a, hx⟩
    exact ⟨f a, bind_eq_ok_iff.mpr ⟨a, hx, rfl⟩⟩

/-- A list is gone through if each of its elements gives a value. -/
theorem exists_mapM_eq_ok_iff {f : α → Except ε β} {xs : List α} :
    (∃ ys, xs.mapM f = .ok ys) ↔ ∀ x ∈ xs, ∃ y, f x = .ok y := by
  induction xs with
  | nil => simp [pure, Except.pure]
  | cons x rest ih =>
      rw [List.mapM_cons, List.forall_mem_cons, ← ih]
      constructor
      · rintro ⟨ys, h⟩
        obtain ⟨y, hy, h⟩ := bind_eq_ok_iff.mp h
        obtain ⟨more, hmore, -⟩ := bind_eq_ok_iff.mp h
        exact ⟨⟨y, hy⟩, more, hmore⟩
      · rintro ⟨⟨y, hy⟩, more, hmore⟩
        exact ⟨y :: more, bind_eq_ok_iff.mpr
          ⟨y, hy, bind_eq_ok_iff.mpr ⟨more, hmore, rfl⟩⟩⟩

/-- A list whose elements all give a value is mapped to those values. -/
theorem mapM_eq_ok {f : α → Except ε β} {out : α → β} {xs : List α}
    (h : ∀ x ∈ xs, f x = .ok (out x)) : xs.mapM f = .ok (xs.map out) := by
  induction xs with
  | nil => rfl
  | cons x rest ih =>
      have hrest := ih fun y hy => h y (List.mem_cons_of_mem _ hy)
      rw [List.mapM_cons, h x List.mem_cons_self, hrest]
      rfl

/-- Going through a list keeps its order and its length. -/
theorem mapM_eq_ok_iff {f : α → Except ε β} {xs : List α} {ys : List β} :
    xs.mapM f = .ok ys ↔ xs.map f = ys.map Except.ok := by
  induction xs generalizing ys with
  | nil =>
      rw [List.mapM_nil, List.map_nil, eq_comm (a := []), List.map_eq_nil_iff]
      exact ⟨fun h => (Except.ok.inj h).symm,
        fun h => congrArg Except.ok h.symm⟩
  | cons x rest ih =>
      rw [List.mapM_cons, bind_eq_ok_iff, List.map_cons]
      constructor
      · rintro ⟨y, hy, h⟩
        obtain ⟨more, hmore, h⟩ := bind_eq_ok_iff.mp h
        rw [← Except.ok.inj h, List.map_cons, hy, ih.mp hmore]
      · intro h
        cases ys with
        | nil => cases h
        | cons y more =>
            obtain ⟨hy, hmore⟩ := List.cons.inj h
            exact ⟨y, hy, bind_eq_ok_iff.mpr ⟨more, ih.mpr hmore, rfl⟩⟩

/-- Every value of a list comes from one of its elements. -/
theorem exists_mem_of_mapM {f : α → Except ε β} {xs : List α} {ys : List β}
    {y : β} (h : xs.mapM f = .ok ys) (hy : y ∈ ys) : ∃ x ∈ xs, f x = .ok y := by
  apply List.mem_map.mp
  rw [mapM_eq_ok_iff.mp h]
  exact List.mem_map_of_mem hy

/-- Every element of a list gives one of its values. -/
theorem exists_value_of_mapM {f : α → Except ε β} {xs : List α} {ys : List β}
    {x : α} (h : xs.mapM f = .ok ys) (hx : x ∈ xs) : ∃ y ∈ ys, f x = .ok y := by
  have hfound : f x ∈ ys.map Except.ok := by
    rw [← mapM_eq_ok_iff.mp h]
    exact List.mem_map_of_mem hx
  obtain ⟨y, hy, hxy⟩ := List.mem_map.mp hfound
  exact ⟨y, hy, hxy.symm⟩

end SourceAtlas
