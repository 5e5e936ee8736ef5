/-
Which alias a specifier goes by. Three sources are laid over each other, the
result is sorted, and the first alias that yields anything is taken.

- Laying over: of the aliases for the same head and kind the latest stays
  (`mem_foldl_assign`), so the list holds just the aliases in effect
  (`mem_combine_iff`), one for each head and kind.
- Sorting: exact aliases come before wildcards, longer heads before shorter
  ones (`pairwise_combine`).
- Taking: what comes before the alias taken yields nothing, what comes after it
  is neither exact nor longer. Two heads of the same length that both start the
  specifier are the same head.

So the outcome is described by the aliases in effect alone (`StandsFor`).
-/
import SourceAtlas.Import.Config
import SourceAtlas.Import.Resolve
import SourceAtlas.Proofs.Except
import SourceAtlas.Proofs.Table

namespace SourceAtlas

namespace Alias

variable {a b x : Alias} {items aliases fromConfig : List Alias}
  {configured : List (Text × List Text)} {head specifier : Text}
  {wildcard : Bool}

-- ===================================================== aliases in effect

/-- The last of some aliases for a head and a kind. -/
def latest? (items : List Alias) (head : Text) (wildcard : Bool) :
    Option Alias :=
  items.reverse.find? fun a => a.head == head && a.wildcard == wildcard

/-- The configured alias for a head. All configured aliases are wildcards. -/
def configured? (configured : List (Text × List Text)) (head : Text)
    (wildcard : Bool) : Option Alias :=
  if wildcard then (configured.reverse.lookup head).map fun targets =>
    ⟨head, targets, true⟩
  else none

/-- The built-in alias, if it is for this head and of this kind. -/
def builtIn? (head : Text) (wildcard : Bool) : Option Alias :=
  if head = builtIn.head ∧ wildcard = true then some builtIn else none

/-- The alias in effect for a head and a kind: a configured one before one of
the compiler configuration before the built-in one. -/
def inEffect (fromConfig : List Alias) (configured : List (Text × List Text))
    (head : Text) (wildcard : Bool) : Option Alias :=
  (configured? configured head wildcard).or
    ((latest? fromConfig head wildcard).or (builtIn? head wildcard))

/-- What a specifier stands for, given the aliases in effect: the targets of its
exact alias; else the targets of the wildcard with the longest head that starts
it and has targets, each with the rest of the specifier behind it; else
nothing. -/
inductive StandsFor (effective : Text → Bool → Option Alias)
    (specifier : Text) : List Text → Prop where
  | exact {a : Alias} (h : effective specifier false = some a) :
      StandsFor effective specifier a.targets
  | longest {a : Alias} {head rest : Text}
      (hexact : effective specifier false = none)
      (hspecifier : specifier = head ++ rest) (h : effective head true = some a)
      (htargets : a.targets ≠ [])
      (hlongest : ∀ longer b, longer <+: specifier →
      head.length < longer.length →
        effective longer true = some b → b.targets = []) :
      StandsFor effective specifier (a.targets.map (· ++ rest))
  | none (hexact : effective specifier false = none)
      (hnone : ∀ head b, head <+: specifier → effective head true = some b
        → b.targets = []) : StandsFor effective specifier []

-- ========================================================= laying over

/-- Assigning an alias replaces those of its head and kind. -/
theorem mem_assign :
    a ∈ assign aliases x
      ↔ (a ∈ aliases ∧ ¬ (a.head = x.head ∧ a.wildcard = x.wildcard))
        ∨ a = x := by
  simp only [assign, List.mem_append, List.mem_filter, List.mem_singleton,
    Bool.not_eq_true', Bool.and_eq_false_iff, beq_eq_false_iff_ne, ne_eq,
    Classical.not_and_iff_not_or_not]

/-- The latest alias of a list is the first only if none comes after it. -/
theorem latest?_cons (x : Alias) (items : List Alias) (head : Text)
    (wildcard : Bool) :
    latest? (x :: items) head wildcard = (latest? items head wildcard).or
      (if x.head = head ∧ x.wildcard = wildcard then some x else none) := by
  unfold latest?
  rw [List.reverse_cons, List.find?_append]
  congr 1
  by_cases h : x.head = head ∧ x.wildcard = wildcard
  · simp [h]
  · rw [if_neg h]
    simp only [List.find?_singleton, Bool.and_eq_true, beq_iff_eq, if_neg h]

theorem latest?_append (items more : List Alias) (head : Text)
    (wildcard : Bool) :
    latest? (items ++ more) head wildcard
      = (latest? more head wildcard).or (latest? items head wildcard) := by
  unfold latest?
  rw [List.reverse_append, List.find?_append]

/-- The latest alias of a head and a kind has that head and kind. -/
theorem eq_of_latest? (h : latest? items head wildcard = some a) :
    a.head = head ∧ a.wildcard = wildcard := by
  simpa using List.find?_some h

theorem mem_of_latest? (h : latest? items head wildcard = some a) : a ∈ items :=
  List.mem_reverse.mp (List.mem_of_find?_eq_some h)

/-- Of the aliases for the same specifiers the latest stays. -/
theorem mem_foldl_assign :
    a ∈ items.foldl assign aliases ↔ latest? items a.head a.wildcard = some a
      ∨ (latest? items a.head a.wildcard = none ∧ a ∈ aliases) := by
  induction items generalizing aliases with
  | nil => simp [latest?]
  | cons x items ih =>
      rw [List.foldl_cons, ih, latest?_cons, mem_assign]
      cases hlatest : latest? items a.head a.wildcard with
      | some b => simp
      | none =>
          by_cases hkey : a.head = x.head ∧ a.wildcard = x.wildcard
          · simp [hkey, eq_comm]
          · have hkey' : ¬ (x.head = a.head ∧ x.wildcard = a.wildcard) :=
              fun h => hkey ⟨h.1.symm, h.2.symm⟩
            have hne : a ≠ x := by
              rintro rfl
              exact hkey ⟨rfl, rfl⟩
            simp [hkey, hkey', hne]

/-- Of the configured aliases the latest one is what the map says. -/
theorem latest?_configured (configured : List (Text × List Text)) (head : Text)
    (wildcard : Bool) :
    latest? (configured.map fun (head, targets) => ⟨head, targets, true⟩)
      head wildcard
      = configured? configured head wildcard := by
  unfold latest? configured?
  rw [← List.map_reverse]
  induction configured.reverse with
  | nil => simp
  | cons entry rest ih =>
      obtain ⟨key, targets⟩ := entry
      rw [List.map_cons, List.find?_cons, ih, List.lookup_cons]
      cases wildcard with
      | false => simp
      | true =>
          by_cases h : key = head
          · simp [h]
          · simp [beq_eq_false_iff_ne.mpr h,
              beq_eq_false_iff_ne.mpr (Ne.symm h)]

/-- The list holds the aliases in effect. -/
theorem mem_combine_iff :
    a ∈ combine fromConfig configured
      ↔ inEffect fromConfig configured a.head a.wildcard = some a := by
  have hbuiltIn : builtIn? a.head a.wildcard = some a ↔ a = builtIn := by
    constructor
    · intro h
      unfold builtIn? at h
      split at h
      case isTrue => exact (Option.some.inj h).symm
      case isFalse => cases h
    · rintro rfl
      rfl
  unfold combine inEffect
  rw [Ordered.mem_sortBy, mem_foldl_assign, latest?_append, latest?_configured,
    List.mem_singleton, ← hbuiltIn]
  cases configured? configured a.head a.wildcard with
  | some b => simp
  | none =>
      cases latest? fromConfig a.head a.wildcard with
      | some b => simp
      | none => simp

/-- An alias is in effect for its own head and kind. -/
theorem eq_of_inEffect
    (h : inEffect fromConfig configured head wildcard = some a) :
    a.head = head ∧ a.wildcard = wildcard := by
  unfold inEffect configured? builtIn? at h
  rcases Option.or_eq_some_iff.mp h with h | ⟨-, h⟩
  · cases wildcard with
    | false => cases h
    | true =>
        obtain ⟨targets, -, rfl⟩ := Option.map_eq_some_iff.mp h
        exact ⟨rfl, rfl⟩
  · rcases Option.or_eq_some_iff.mp h with h | ⟨-, h⟩
    · exact eq_of_latest? h
    · split at h
      case isTrue hkey =>
        injection h with h
        rw [← h, hkey.1, hkey.2]
        exact ⟨rfl, rfl⟩
      case isFalse => cases h

/-- The alias in effect is among the combined ones. -/
theorem mem_of_inEffect
    (h : inEffect fromConfig configured head wildcard = some a) :
    a ∈ combine fromConfig configured := by
  obtain ⟨rfl, rfl⟩ := eq_of_inEffect h
  exact mem_combine_iff.mpr h

-- ============================================================ sorting

/-- Exact aliases come first, then longer heads, then heads in order. -/
theorem precedes_iff :
    precedes a b = true ↔ (a.wildcard = false ∧ b.wildcard = true)
      ∨ (a.wildcard = b.wildcard
      ∧ (b.head.length < a.head.length
        ∨ (a.head.length = b.head.length ∧ Text.le a.head b.head = true))) := by
  unfold precedes
  cases a.wildcard with
  | false =>
      cases b.wildcard with
      | false => grind
      | true => simp
  | true =>
      cases b.wildcard with
      | false => simp
      | true => grind

theorem precedes_trans (a b c : Alias) (hab : precedes a b = true)
    (hbc : precedes b c = true) : precedes a c = true := by
  have hle : Text.le a.head b.head = true → Text.le b.head c.head = true →
      Text.le a.head c.head = true := Text.le_trans
  rw [precedes_iff] at *
  grind

theorem precedes_total (a b : Alias) :
    precedes a b = true ∨ precedes b a = true := by
  have hle := Text.le_total a.head b.head
  rw [precedes_iff, precedes_iff]
  grind

/-- Exact aliases come before wildcards, and longer heads before shorter
ones. -/
theorem pairwise_combine (fromConfig : List Alias)
    (configured : List (Text × List Text)) :
    (combine fromConfig configured).Pairwise fun a b =>
      (b.wildcard = false → a.wildcard = false)
        ∧ (a.wildcard = b.wildcard → b.head.length ≤ a.head.length) := by
  refine (Ordered.pairwise_sortBy precedes_trans precedes_total _).imp ?_
  intro a b hab
  rw [precedes_iff] at hab
  grind

-- ============================================================= taking

/-- A wildcard alias puts its targets in place of its head. -/
theorem expand_of_wildcard (hwildcard : a.wildcard = true) (rest : Text) :
    a.expand (a.head ++ rest) = a.targets.map (· ++ rest) := by
  have hstarts : a.head.isPrefixOf (a.head ++ rest) = true :=
    List.isPrefixOf_iff_prefix.mpr (List.prefix_append _ _)
  rw [expand, if_pos hwildcard, if_pos hstarts, List.drop_left]

theorem expand_of_exact (hwildcard : a.wildcard = false) :
    a.expand a.head = a.targets := by
  rw [expand, if_neg (by simp [hwildcard]), if_pos rfl]

/-- How an alias yields anything. -/
theorem expand_ne_nil (h : a.expand specifier ≠ []) :
    (a.wildcard = false ∧ specifier = a.head)
      ∨ (a.wildcard = true ∧ ∃ rest, specifier = a.head ++ rest) := by
  unfold expand at h
  split at h
  case isTrue hwildcard =>
    split at h
    case isTrue hstarts =>
      obtain ⟨rest, hrest⟩ := List.isPrefixOf_iff_prefix.mp hstarts
      exact .inr ⟨hwildcard, rest, hrest.symm⟩
    case isFalse => exact absurd rfl h
  case isFalse hwildcard =>
    split at h
    case isTrue heq => exact .inl ⟨by simpa using hwildcard, heq⟩
    case isFalse => exact absurd rfl h

/-- What satisfies the test comes no earlier than what is found. -/
theorem eq_or_rel_of_find? {R : Alias → Alias → Prop} {p : Alias → Bool}
    (hitems : items.Pairwise R) (hfind : items.find? p = some a)
    (hb : b ∈ items) (hp : p b = true) : b = a ∨ R a b := by
  obtain ⟨-, before, after, rfl, hbefore⟩ :=
    List.find?_eq_some_iff_append.mp hfind
  rcases List.mem_append.mp hb with hb | hb
  · exact absurd hp (by simpa using hbefore b hb)
  · rcases List.mem_cons.mp hb with hb | hb
    · exact .inl hb
    · have hafter := (List.pairwise_append.mp hitems).2.1
      exact .inr ((List.pairwise_cons.mp hafter).1 b hb)

/-- An alias in effect with targets expands to something. -/
theorem expand_ne_nil_of_inEffect {rest : Text}
    (h : inEffect fromConfig configured head true = some a)
    (htargets : a.targets ≠ []) : a.expand (head ++ rest) ≠ [] := by
  obtain ⟨rfl, hwildcard⟩ := eq_of_inEffect h
  rw [expand_of_wildcard hwildcard]
  simpa using htargets

/-- An exact alias in effect expands to its targets. -/
theorem expand_eq_of_inEffect_exact
    (h : inEffect fromConfig configured specifier false = some a) :
    a.expand specifier = a.targets := by
  obtain ⟨rfl, hwildcard⟩ := eq_of_inEffect h
  exact expand_of_exact hwildcard

/-- The first alias that yields anything is the one that the aliases in effect
call for. -/
theorem standsFor_first
    (hexact : ∀ a, inEffect fromConfig configured specifier false = some a
      → a.targets ≠ []) :
    StandsFor (inEffect fromConfig configured) specifier
      (((combine fromConfig configured).find? fun a =>
        !(a.expand specifier).isEmpty).map
        (·.expand specifier) |>.getD []) := by
  cases hfind : (combine fromConfig configured).find? fun a =>
    !(a.expand specifier).isEmpty with
  | none =>
      have hall :
          ∀ a ∈ combine fromConfig configured, a.expand specifier = [] := by
        simpa using List.find?_eq_none.mp hfind
      refine .none ?_ ?_
      · refine Option.eq_none_iff_forall_ne_some.mpr fun a ha => hexact a ha ?_
        rw [← expand_eq_of_inEffect_exact ha]
        exact hall a (mem_of_inEffect ha)
      · rintro head b ⟨rest, rfl⟩ hb
        refine Classical.byContradiction fun htargets => ?_
        exact expand_ne_nil_of_inEffect hb htargets
          (hall b (mem_of_inEffect hb))
  | some a =>
      have hfirst : ∀ b ∈ combine fromConfig configured, b.expand specifier ≠ []
          → b = a ∨ ((b.wildcard = false → a.wildcard = false)
            ∧ (a.wildcard = b.wildcard → b.head.length ≤ a.head.length)) :=
        fun b hb hyields =>
          eq_or_rel_of_find? (pairwise_combine _ _) hfind hb
            (by simpa using hyields)
      have hmem := List.mem_of_find?_eq_some hfind
      have hyields : a.expand specifier ≠ [] := by
        simpa using List.find?_some hfind
      have ha := mem_combine_iff.mp hmem
      rcases expand_ne_nil hyields with ⟨hwildcard, rfl⟩
        | ⟨hwildcard, rest, rfl⟩
      · rw [hwildcard] at ha
        show StandsFor _ _ (a.expand a.head)
        rw [expand_of_exact hwildcard]
        exact .exact ha
      · rw [hwildcard] at ha
        show StandsFor _ _ (a.expand (a.head ++ rest))
        rw [expand_of_wildcard hwildcard]
        rw [expand_of_wildcard hwildcard] at hyields
        refine .longest ?_ rfl ha (by simpa using hyields) ?_
        · -- an exact alias would come first
          refine Option.eq_none_iff_forall_ne_some.mpr fun b hb => ?_
          have hbyields : b.expand (a.head ++ rest) ≠ [] := by
            rw [expand_eq_of_inEffect_exact hb]
            exact hexact b hb
          have hbexact := (eq_of_inEffect hb).2
          rcases hfirst b (mem_of_inEffect hb) hbyields with rfl | ⟨hkind, -⟩
          · rw [hwildcard] at hbexact
            cases hbexact
          · rw [hkind hbexact] at hwildcard
            cases hwildcard
        · -- and so would one with a longer head
          rintro longer b ⟨more, hmore⟩ hlonger hb
          refine Classical.byContradiction fun htargets => ?_
          have hbyields : b.expand (a.head ++ rest) ≠ [] := by
            rw [← hmore]
            exact expand_ne_nil_of_inEffect hb htargets
          obtain ⟨rfl, hbwildcard⟩ := eq_of_inEffect hb
          rcases hfirst b (mem_of_inEffect hb) hbyields with rfl | ⟨-, hlength⟩
          · exact Nat.lt_irrefl _ hlonger
          · have := hlength (hwildcard.trans hbwildcard.symm)
            omega

/-- No head that starts the specifier and has targets is longer than the head
of the alias taken. -/
theorem length_le_of_longest {effective : Text → Bool → Option Alias}
    {other : Text}
    (hlongest : ∀ longer b, longer <+: specifier → head.length < longer.length
      → effective longer true = some b → b.targets = [])
    (hother : other <+: specifier) (h : effective other true = some a)
    (htargets : a.targets ≠ []) : other.length ≤ head.length :=
  Nat.le_of_not_lt fun hlonger => htargets (hlongest other a hother hlonger h)

/-- A specifier stands for one list of bases only. -/
theorem StandsFor.unique {effective : Text → Bool → Option Alias}
    {out other : List Text} (h : StandsFor effective specifier out)
    (hother : StandsFor effective specifier other) : out = other := by
  cases h with
  | exact ha =>
      cases hother with
      | exact hb =>
          rw [ha] at hb
          injection hb with hb
          rw [hb]
      | longest hexact => simp [ha] at hexact
      | none hexact => simp [ha] at hexact
  | @longest a head rest hexact hspecifier ha htargets hlongest =>
      cases hother with
      | exact hb => simp [hb] at hexact
      | @longest b head' rest' _ hspecifier' hb htargets' hlongest' =>
          have hsame : head ++ rest = head' ++ rest' :=
            hspecifier.symm.trans hspecifier'
          -- Two longest prefixes of one specifier are as long as each other,
          -- and so the same.
          have hle :=
            length_le_of_longest hlongest' ⟨rest, hspecifier.symm⟩ ha htargets
          have hge :=
            length_le_of_longest hlongest ⟨rest', hspecifier'.symm⟩ hb htargets'
          obtain ⟨rfl, rfl⟩ := List.append_inj hsame (Nat.le_antisymm hle hge)
          rw [ha] at hb
          injection hb with hb
          rw [hb]
      | none _ hnone =>
          exact absurd (hnone head a ⟨rest, hspecifier.symm⟩ ha) htargets
  | none hexact hnone =>
      cases hother with
      | exact hb => simp [hb] at hexact
      | @longest b head rest _ hspecifier hb htargets _ =>
          exact absurd (hnone head b ⟨rest, hspecifier.symm⟩ hb) htargets
      | none => rfl

-- ===================================================== a project's aliases

/-- Only entries with targets become aliases. -/
theorem targets_ne_nil_of_ofEntry {base value : Json} {key : Text}
    (h : ofEntry base key value = .ok items) (ha : a ∈ items) :
    a.targets ≠ [] := by
  unfold ofEntry at h
  split at h
  case h_1 targets =>
    obtain ⟨found, -, h⟩ := bind_eq_ok_iff.mp h
    injection h with h
    subst h
    obtain ⟨hkept, ha⟩ := List.mem_ite_nil_left.mp ha
    rw [List.mem_singleton.mp ha]
    intro hempty
    have hempty : found.filterMap id = [] := hempty
    refine hkept ?_
    rw [hempty]
    rfl
  case h_2 =>
    cases h
    cases ha

/-- Every alias of a compiler configuration has a target. -/
theorem targets_ne_nil_of_ofConfig {depth : Nat} {root : Node}
    (h : ofConfig depth root = .ok fromConfig) (ha : a ∈ fromConfig) :
    a.targets ≠ [] := by
  unfold ofConfig at h
  obtain ⟨options, -, h⟩ := bind_eq_ok_iff.mp h
  cases options with
  | none =>
      cases h
      cases ha
  | some options =>
      simp only [ofPaths] at h
      split at h
      case h_1 entries _ =>
        obtain ⟨found, hfound, h⟩ := bind_eq_ok_iff.mp h
        injection h with h
        subst h
        obtain ⟨items, hitems, ha⟩ := List.mem_flatten.mp ha
        obtain ⟨entry, -, hentry⟩ := exists_mem_of_mapM hfound hitems
        exact targets_ne_nil_of_ofEntry hentry ha
      case h_2 =>
        cases h
        cases ha

/-- Exact aliases come from the compiler configuration. -/
theorem mem_of_inEffect_exact
    (h : inEffect fromConfig configured head false = some a) :
    a ∈ fromConfig := by
  have h : (latest? fromConfig head false).or (builtIn? head false) = some a :=
    h
  rcases Option.or_eq_some_iff.mp h with h | ⟨-, h⟩
  · exact mem_of_latest? h
  · simp [builtIn?] at h

end Alias

namespace Import

open Alias

/-- For a specifier that is not relative the first alias that expands it
decides. -/
theorem bases_of_head?_ne {aliases : List Alias} {specifier : Text}
    (f : SourceFile) (hdot : specifier.head? ≠ some '.') :
    bases aliases f specifier
      = ((aliases.find? fun a => !(a.expand specifier).isEmpty).map
      (·.expand specifier)).getD [] := by
  have hnot : ¬ ['.'].isPrefixOf specifier = true := by
    intro hpre
    obtain ⟨rest, rfl⟩ := List.isPrefixOf_iff_prefix.mp hpre
    exact hdot rfl
  rw [bases, if_neg hnot, List.find?_map]
  rfl

/-- A specifier that starts with a dot uses no alias. Any other stands for what
the aliases in effect say: the targets of its exact alias, else those of the
wildcard with the longest head that has any, else nothing. -/
theorem alias_in_effect_decides {depth : Nat} {root : Node}
    {fromConfig : List Alias} (h : ofConfig depth root = .ok fromConfig)
    (configured : List (Text × List Text)) :
    ∃ aliases, ofProject depth root configured = .ok aliases ∧ ∀ f specifier,
      (specifier.head? = some '.'
        → bases aliases f specifier = [Path.join f.directory specifier])
      ∧ (specifier.head? ≠ some '.' → ∀ out, bases aliases f specifier = out
          ↔ StandsFor (inEffect fromConfig configured) specifier out) := by
  refine ⟨combine fromConfig configured, ?_,
    fun f specifier => ⟨fun hdot => ?_, fun hdot out => ?_⟩⟩
  · unfold ofProject
    rw [h]
    rfl
  · obtain ⟨rest, rfl⟩ := List.head?_eq_some_iff.mp hdot
    rfl
  · have hexact : ∀ a, inEffect fromConfig configured specifier false = some a
        → a.targets ≠ [] :=
      fun a ha => targets_ne_nil_of_ofConfig h (mem_of_inEffect_exact ha)
    have hstands := standsFor_first hexact
    rw [bases_of_head?_ne f hdot]
    constructor
    · rintro rfl
      exact hstands
    · exact hstands.unique

/-- A project whose configuration has an exact alias and two wildcards. -/
def aliasedProject : Node :=
  .directory [("tsconfig.json".toList,
    .file (Utf8.encode ("\x7b\"compilerOptions\":\x7b\"paths\":"
      ++ "\x7b\"a*\":[\"b/*\"],\"a/*\":[\"c/*\"],\"a/d\":[\"e\"]"
      ++ "\x7d\x7d\x7d").toList) true)]

/-- The aliases of the configuration file. -/
def aliasesOfConfig : List Alias :=
  [⟨['a'], [['b', '/']], true⟩, ⟨['a', '/'], [['c', '/']], true⟩,
    ⟨['a', '/', 'd'], [['e']], false⟩]

theorem ofConfig_aliasedProject :
    ofConfig 100 aliasedProject = .ok aliasesOfConfig := by
  decide +kernel

/-- A setting replaces one of the wildcards; the longer head counts, and the
exact alias before it. -/
theorem alias_in_effect_decides_overlapping :
    ∃ aliases, ofProject 100 aliasedProject [(['a', '/'], [['f', '-'], []])]
      = .ok aliases
      ∧ ∀ f, bases aliases f ['a', '/', 'x'] = [['f', '-', 'x'], ['x']]
        ∧ bases aliases f ['a', '/', 'd'] = [['e']] := by
  obtain ⟨aliases, hproject, hbases⟩ :=
    alias_in_effect_decides ofConfig_aliasedProject
      [(['a', '/'], [['f', '-'], []])]
  have hwildcard :
      inEffect aliasesOfConfig [(['a', '/'], [['f', '-'], []])] ['a', '/'] true
        = some ⟨['a', '/'], [['f', '-'], []], true⟩ := by decide
  have hexact :
      inEffect aliasesOfConfig [(['a', '/'], [['f', '-'], []])] ['a', '/', 'd']
        false = some ⟨['a', '/', 'd'], [['e']], false⟩ := by decide
  refine ⟨aliases, hproject, fun f => ⟨?_, ?_⟩⟩
  · have hhead : ['a', '/', 'x'] = ['a', '/'] ++ ['x'] := rfl
    refine ((hbases f _).2 (by decide) _).mpr
      (.longest (by decide) hhead hwildcard (by decide) ?_)
    intro longer b hpre hlonger hb
    have hall : longer = ['a', '/', 'x'] := hpre.eq_of_length_le hlonger
    rw [hall] at hb
    cases hb
  · exact ((hbases f _).2 (by decide) _).mpr (.exact hexact)

end Import

end SourceAtlas
