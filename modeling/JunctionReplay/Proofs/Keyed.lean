import JunctionReplay.Keyed

/-!
# The order of keyed tables

`put` keeps the keys of a table in strict order, so every table that is built from the empty one
holds each key once.  In such a table membership and look-up say the same, and the last of
several entries is the one with the greatest key.

## Main Statements

* `Keyed.Sorted` — the keys are in strict order; kept by `put`.
* `Keyed.Sorted.mem_iff` — the entries of an ordered table are its look-ups.
* `Keyed.Sorted.getLast?_eq_some_iff` — the last entry of an ordered table has the greatest key.
* `Keyed.get?_append`, `Keyed.get?_filter_ne` — look-ups of tables that are put together or have
  lost a key.
* `Keyed.get?_ofPairs` — a table of pairs reads the last pair with a key.
* `Keyed.get?_relabel` — where the entries of a table are entered again under other labels, each
  label reads the last of its entries.
* `Keyed.Sorted.ext` — ordered tables with the same look-ups are the same.
* `Keyed.Sorted.putAll_eq_self` — pairs that have all keys of a table replace it.
* `Keyed.foldl_putAll_eq_last` — of tables with the same keys, the last one that is put stays.
-/

namespace JunctionReplay.Keyed

variable {κ β : Type} [DecidableEq κ] [LT κ] [DecidableLT κ]

/-- The keys of a table are in strict order. -/
def Sorted (table : Keyed κ β) : Prop :=
  table.Pairwise fun earlier later => earlier.1 < later.1

omit [DecidableEq κ] [DecidableLT κ] in
@[simp] theorem sorted_nil : Sorted ([] : Keyed κ β) := List.Pairwise.nil

omit [DecidableEq κ] [DecidableLT κ] in
/-- Some of the entries of an ordered table are ordered. -/
theorem Sorted.filter {table : Keyed κ β} (sorted : Sorted table) (keep : κ × β → Bool) :
    Sorted (table.filter keep) :=
  List.Pairwise.filter keep sorted

/-- An entry of a table after `put` is the new one or an old one. -/
theorem eq_or_mem_of_mem_put {key : κ} {value : β} {entry : κ × β} {table : Keyed κ β}
    (member : entry ∈ put key value table) : entry = (key, value) ∨ entry ∈ table := by
  induction table with
  | nil => simpa [put] using member
  | cons first rest ih =>
      unfold put at member
      split at member
      · rcases List.mem_cons.mp member with rfl | member
        · exact Or.inl rfl
        · exact Or.inr (List.mem_cons_of_mem _ member)
      · split at member
        · exact List.mem_cons.mp member
        · rcases List.mem_cons.mp member with rfl | member
          · exact Or.inr List.mem_cons_self
          · exact (ih member).imp_right (List.mem_cons_of_mem _)

/-! ## Look-ups -/

omit [LT κ] [DecidableLT κ] in
theorem get?_append (key : κ) (front back : Keyed κ β) :
    get? key (front ++ back) = (get? key front).or (get? key back) := by
  induction front with
  | nil => rfl
  | cons entry rest ih =>
      rw [List.cons_append, get?, get?]
      split
      next => rfl
      next => exact ih

omit [LT κ] [DecidableLT κ] in
/-- Whether a key is there does not depend on the values. -/
theorem isNone_get?_append_cons (key other : κ) (value replaced : β) (front back : Keyed κ β) :
    (get? key (front ++ (other, replaced) :: back)).isNone =
      (get? key (front ++ (other, value) :: back)).isNone := by
  rw [get?_append, get?_append, get?, get?]
  cases get? key front with
  | some found => rfl
  | none =>
      by_cases same : other = key
      · rw [if_pos same, if_pos same]
        rfl
      · rw [if_neg same, if_neg same]

omit [LT κ] [DecidableLT κ] in
/-- Of the entries whose keys differ from one, that one alone is not looked up. -/
theorem get?_filter_ne (key left : κ) (table : Keyed κ β) :
    get? key (table.filter fun entry => entry.1 ≠ left) =
      if left = key then none else get? key table := by
  induction table with
  | nil => simp
  | cons entry rest ih =>
      by_cases isLeft : entry.1 = left
      · rw [List.filter_cons_of_neg (by simpa using isLeft), ih, get?, isLeft]
        split <;> rfl
      · rw [List.filter_cons_of_pos (by simpa using isLeft), get?, get?, ih]
        by_cases same : entry.1 = key
        · have other : left ≠ key := fun equal => isLeft (same.trans equal.symm)
          rw [if_pos same, if_pos same, if_neg other]
        · rw [if_neg same, if_neg same]

/-! ## Ordered tables -/

section Order

variable [Std.Trichotomous (α := κ) (· < ·)]
variable [Trans (α := κ) (β := κ) (γ := κ) (· < ·) (· < ·) (· < ·)]

/-- `put` keeps the order: a key that is neither the first one nor below it lies above it. -/
theorem Sorted.put {table : Keyed κ β} (sorted : Sorted table) (key : κ) (value : β) :
    Sorted (table.put key value) := by
  induction table with
  | nil => exact List.pairwise_singleton _ _
  | cons first rest ih =>
      obtain ⟨above, sortedRest⟩ := List.pairwise_cons.mp sorted
      unfold Keyed.put
      split
      next same => exact List.pairwise_cons.mpr ⟨by simpa [same] using above, sortedRest⟩
      next different =>
        split
        next below =>
          refine List.pairwise_cons.mpr ⟨fun entry member => ?_, sorted⟩
          rcases List.mem_cons.mp member with rfl | member
          · exact below
          · exact Trans.trans below (above entry member)
        next notBelow =>
          have firstBelow : first.1 < key := by
            rcases Std.lt_trichotomy key first.1 with below | same | below
            · exact absurd below notBelow
            · exact absurd same different
            · exact below
          refine List.pairwise_cons.mpr ⟨fun entry member => ?_, ih sortedRest⟩
          rcases eq_or_mem_of_mem_put member with rfl | member
          · exact firstBelow
          · exact above entry member

end Order

section Order

variable [Std.Asymm (α := κ) (· < ·)]

omit [DecidableLT κ] in
/-- In an ordered table the entries are what the keys look up. -/
theorem Sorted.mem_iff {table : Keyed κ β} (sorted : Sorted table) (key : κ) (value : β) :
    (key, value) ∈ table ↔ get? key table = some value := by
  induction table with
  | nil => simp
  | cons first rest ih =>
      obtain ⟨above, sortedRest⟩ := List.pairwise_cons.mp sorted
      rw [List.mem_cons, get?, ih sortedRest]
      by_cases same : first.1 = key
      · subst same
        have absent : get? first.1 rest ≠ some value := fun present =>
          Std.Irrefl.irrefl first.1 (above (first.1, value) ((ih sortedRest).mpr present))
        simp [absent, Prod.ext_iff, eq_comm]
      · simp [Prod.ext_iff, same, Ne.symm same]

omit [DecidableEq κ] [DecidableLT κ] in
/-- The last entry of an ordered table is the one whose key no other exceeds. -/
theorem Sorted.getLast?_eq_some_iff {table : Keyed κ β} (sorted : Sorted table)
    (entry : κ × β) :
    table.getLast? = some entry ↔
      entry ∈ table ∧ ∀ other ∈ table, ¬ entry.1 < other.1 := by
  induction table with
  | nil => simp
  | cons first rest ih =>
      obtain ⟨above, sortedRest⟩ := List.pairwise_cons.mp sorted
      cases rest with
      | nil =>
          have notAbove : ¬ first.1 < first.1 := Std.Irrefl.irrefl _
          simp only [List.getLast?_singleton, Option.some_inj, List.mem_singleton]
          constructor
          · rintro rfl
            exact ⟨rfl, fun other same => same ▸ notAbove⟩
          · rintro ⟨rfl, -⟩
            rfl
      | cons second tail =>
          rw [List.getLast?_cons_cons, ih sortedRest]
          constructor
          · rintro ⟨member, greatest⟩
            refine ⟨List.mem_cons_of_mem _ member, fun other otherMember => ?_⟩
            rcases List.mem_cons.mp otherMember with rfl | otherMember
            · exact Std.Asymm.asymm _ _ (above entry member)
            · exact greatest other otherMember
          · rintro ⟨member, greatest⟩
            rcases List.mem_cons.mp member with rfl | member
            · exact absurd (above second List.mem_cons_self)
                (greatest second (List.mem_cons_of_mem _ List.mem_cons_self))
            · exact ⟨member, fun other otherMember =>
                greatest other (List.mem_cons_of_mem _ otherMember)⟩

end Order

/-! ## Tables of pairs -/

/-- Putting pairs into a table leaves the look-ups of the keys that no pair has. -/
theorem get?_putAll (key : κ) (table : Keyed κ β) (pairs : List (κ × β)) :
    get? key (putAll table pairs) = (get? key (ofPairs pairs)).or (get? key table) := by
  induction pairs generalizing table with
  | nil => rfl
  | cons pair rest ih =>
      have tail (table : Keyed κ β) :
          putAll table (pair :: rest) = putAll (table.put pair.1 pair.2) rest := rfl
      rw [ofPairs, tail, tail, ih, ih (put pair.1 pair.2 []), get?_put, get?_put]
      by_cases same : pair.1 = key <;> simp [same]

/-- A table of pairs reads the last pair with a key. -/
theorem get?_ofPairs (key : κ) (pairs : List (κ × β)) :
    get? key (ofPairs pairs) =
      ((pairs.filter fun pair => pair.1 = key).getLast?).map Prod.snd := by
  induction pairs with
  | nil => rfl
  | cons pair rest ih =>
      have tail : ofPairs (pair :: rest) = putAll (put pair.1 pair.2 []) rest := rfl
      rw [tail, get?_putAll, ih, get?_put, get?_nil]
      by_cases same : pair.1 = key
      · cases last : (rest.filter fun pair => pair.1 = key).getLast? <;>
          simp [same, last, List.getLast?_cons]
      · simp [same]

omit [DecidableEq κ] [LT κ] [DecidableLT κ] in
/-- Where entries are entered again under other labels, each label reads the last of its
entries. -/
theorem get?_relabel {ι : Type} [DecidableEq ι] [LT ι] [DecidableLT ι] (table : Keyed κ β)
    (relabel : κ → Option ι) (label : ι) :
    get? label (ofPairs (table.filterMap fun entry =>
        (relabel entry.1).map fun label => (label, entry.2))) =
      ((table.filter fun entry => relabel entry.1 = some label).getLast?).map Prod.snd := by
  have relabelled :
      (table.filterMap fun entry =>
          (relabel entry.1).map fun label => (label, entry.2)).filter (fun pair => pair.1 = label) =
        (table.filter fun entry => relabel entry.1 = some label).map fun entry =>
          (label, entry.2) := by
    rw [List.filter_filterMap, ← List.filterMap_eq_map', List.filterMap_filter]
    congr
    funext entry
    cases relabel entry.1 with
    | none => simp
    | some found => by_cases same : found = label <;> simp [same]
  rw [get?_ofPairs, relabelled, List.getLast?_map, Option.map_map]
  rfl

/-! ## Tables with the same look-ups -/

section Extensionality

variable [Std.Asymm (α := κ) (· < ·)]

omit [DecidableLT κ] in
/-- Ordered tables with the same look-ups are the same. -/
theorem Sorted.ext {first second : Keyed κ β} (sortedFirst : Sorted first)
    (sortedSecond : Sorted second) (same : ∀ key, get? key first = get? key second) :
    first = second := by
  have members : ∀ entry, entry ∈ first ↔ entry ∈ second := by
    rintro ⟨key, value⟩
    rw [sortedFirst.mem_iff, sortedSecond.mem_iff, same]
  have nodup {table : Keyed κ β} (sorted : Sorted table) : table.Nodup := by
    refine List.Pairwise.imp ?_ sorted
    rintro entry _ below rfl
    exact Std.Irrefl.irrefl _ below
  have perm := (List.perm_ext_iff_of_nodup (nodup sortedFirst) (nodup sortedSecond)).mpr members
  refine perm.eq_of_pairwise (fun _ _ _ _ below back => ?_) sortedFirst sortedSecond
  exact absurd below (Std.Asymm.asymm _ _ back)

/-- Putting in the entries of an ordered table reads them as they are. -/
theorem Sorted.get?_ofPairs {table : Keyed κ β} (sorted : Sorted table) (key : κ) :
    get? key (ofPairs table) = get? key table := by
  induction table with
  | nil => rfl
  | cons entry rest ih =>
      obtain ⟨above, sortedRest⟩ := List.pairwise_cons.mp sorted
      have tail : ofPairs (entry :: rest) = Keyed.putAll (Keyed.put entry.1 entry.2 []) rest := rfl
      rw [tail, get?_putAll, ih sortedRest, get?_put, get?_nil, get?]
      by_cases same : entry.1 = key
      · have absent : get? key rest = none := by
          cases found : get? key rest with
          | none => rfl
          | some value =>
              have below := above _ ((Sorted.mem_iff sortedRest key value).mpr found)
              exact absurd (same ▸ below) (Std.Irrefl.irrefl key)
        simp [same, absent]
      · simp [same]

variable [Std.Trichotomous (α := κ) (· < ·)]
variable [Trans (α := κ) (β := κ) (γ := κ) (· < ·) (· < ·) (· < ·)]

omit [Std.Asymm (α := κ) (· < ·)] in
theorem Sorted.putAll {table : Keyed κ β} (sorted : Sorted table) (pairs : List (κ × β)) :
    Sorted (table.putAll pairs) := by
  induction pairs generalizing table with
  | nil => exact sorted
  | cons pair rest ih => exact ih (sorted.put pair.1 pair.2)

omit [Std.Asymm (α := κ) (· < ·)] in
theorem sorted_ofPairs (pairs : List (κ × β)) : Sorted (ofPairs pairs) :=
  sorted_nil.putAll pairs

/-- Nothing is left of a table into which another one is put that has all of its keys. -/
theorem Sorted.putAll_eq_self {table other : Keyed κ β} (sorted : Sorted table)
    (sortedOther : Sorted other) (covers : ∀ key, get? key other = none → get? key table = none) :
    table.putAll other = other := by
  refine (sorted.putAll other).ext sortedOther fun key => ?_
  rw [get?_putAll, sortedOther.get?_ofPairs]
  cases found : get? key other with
  | none => simpa using covers key found
  | some value => rfl

/-- Putting ordered tables into one keeps it in order, and adds only keys that they have. -/
theorem Sorted.foldl_putAll {ι : Type} {tables : ι → Keyed κ β}
    (sorted : ∀ item, Sorted (tables item)) (items : List ι) {start : Keyed κ β}
    (sortedStart : Sorted start) :
    let shown := items.foldl (fun (shown : Keyed κ β) item => shown.putAll (tables item)) start
    Sorted shown ∧
      ∀ key, get? key start = none → (∀ item ∈ items, get? key (tables item) = none) →
        get? key shown = none := by
  induction items generalizing start with
  | nil => exact ⟨sortedStart, fun key absent _ => absent⟩
  | cons item rest ih =>
      obtain ⟨sortedEnd, absentEnd⟩ := ih (sortedStart.putAll (tables item))
      refine ⟨sortedEnd, fun key absent absentItems => absentEnd key ?_ fun other member => ?_⟩
      · rw [get?_putAll, (sorted item).get?_ofPairs, absent, absentItems item List.mem_cons_self]
        rfl
      · exact absentItems other (List.mem_cons_of_mem _ member)

/-- Of ordered tables that have no key beyond those of the last one, that one is left. -/
theorem foldl_putAll_eq_last {ι : Type} {tables : ι → Keyed κ β}
    (sorted : ∀ item, Sorted (tables item)) {items : List ι} {last : ι}
    (covers : ∀ item ∈ items, ∀ key, get? key (tables last) = none →
      get? key (tables item) = none) :
    (items ++ [last]).foldl (fun (shown : Keyed κ β) item => shown.putAll (tables item)) [] =
      tables last := by
  obtain ⟨sortedBefore, absentBefore⟩ := Sorted.foldl_putAll sorted items sorted_nil
  rw [List.foldl_append]
  refine sortedBefore.putAll_eq_self (sorted last) fun key absent => ?_
  exact absentBefore key rfl fun item member => covers item member key absent

end Extensionality

end JunctionReplay.Keyed
